import Blockhost.Orchestrator.BackupRuns

/-! A backup job as a list of steps with their effects. Up to the completion the list depends on
the task alone, after it on the rows that are then committed.
-/

namespace Blockhost.JobRuns

open Library

variable {task : BackupTask} {state : BackupState}

-- Effects

def succeedScheduleOf (task : BackupTask) (db : Database) : Database :=
  match scheduleOf task db with
  | none => db
  | some schedule => changeSchedule schedule.id (succeedSchedule task.now) db

/-- The rows that a commit of the main path stores. -/
def BackupTask.rows (task : BackupTask) : BackupCommit → Database → Database
  | .running => fun db =>
      changeBackup task.backup.id runBackup (changeBackupJob task.job.id startJob db)
  | .heldSaves => changeBackupJob task.job.id (setJobPhase .heldSaves "held_saves")
  | .compressing | .progress _ =>
      changeBackupJob task.job.id (setJobPhase .compressing "compressing")
  | .described => changeBackup task.backup.id (describeBackup (worldName task.server))
  | .verifying => changeBackupJob task.job.id (setJobPhase .verifying "verifying")
  | .completed => completeRows task
  | .schedule => succeedScheduleOf task
  | _ => id

def BackupTask.keep (task : BackupTask) (backupId : Uuid) (f : StoredArtifact → StoredArtifact)
    (state : BackupState)
    : BackupState :=
  { state with artifacts := state.artifacts.change task.server.id backupId f }

/-- What a step does when it does not raise. -/
def BackupTask.effect (task : BackupTask) : BackupStep → BackupState → BackupState
  | .holdSaves, state => { state with saveHeld := true }
  | .resumeSaves, state => { state with saveHeld := false }
  | .stopServer, state => { state with stoppedForBackup := true }
  | .objectDir, state => { state with finalArchive := true, tempArchive := true }
  | .clearTemp, state =>
      task.keep task.backup.id (fun stored => { stored with temporary := none }) state
  | .openArchive, state =>
      task.keep task.backup.id (fun stored => { stored with temporary := some [] }) state
  | .closeArchive, state =>
      task.keep task.backup.id (fun stored => { stored with temporary := some task.archive })
        state
  | .moveArchive, state =>
      task.keep task.backup.id
        (fun stored => { stored with archive := stored.temporary, temporary := none }) state
  | .writeChecksum, state =>
      task.keep task.backup.id
        (fun stored => { stored with checksum := some (task.sha256 task.archive) }) state
  | .verifyArtifact, state => { state with tempArchive := false }
  | .removeArchive backupId, state =>
      task.keep backupId (fun stored => { stored with archive := none }) state
  | .removeChecksum backupId, state =>
      { task.keep backupId (fun stored => { stored with checksum := none }) state with
        work := state.work.change (changeBackup backupId (deleteBackupRow task.now)) }
  | .commit .restarted, state =>
      { state with stoppedForBackup := false, work := state.work.flush }
  | .commit .completed, state =>
      { state with completed := true, work := (state.work.change (completeRows task)).flush }
  | .commit place, state => { state with work := (state.work.change (task.rows place)).flush }
  | _, state => state

/-- What a step leaves when it raises. -/
def BackupTask.breaks (_ : BackupTask) : BackupStep → BackupState → BackupState
  | .commit .restarted, state =>
      { state with stoppedForBackup := false, work := state.work.spoil }
  | .commit _, state => { state with work := state.work.spoil }
  | _, state => state

theorem effect_usable (step : BackupStep) (state : BackupState)
    (usable : state.work.usable = true)
    : (task.effect step state).work.usable = true := by
  cases step with
  | commit place => cases place <;> rfl
  | _ => exact usable

theorem advance_usable (steps : List BackupStep) (usable : state.work.usable = true)
    : (advance task.effect steps state).work.usable = true :=
  advance_keeps (fun state : BackupState => state.work.usable = true)
    (fun step _ => effect_usable step) usable

-- Computations on a usable session

/-- On a usable session the computation has the effects of the steps. -/
def BackupTask.Runs (task : BackupTask) (steps : List BackupStep) (computation : BackupM Unit)
    : Prop :=
  ∀ state : BackupState, state.work.usable = true
    → Performs task.raises task.effect task.breaks steps state computation

variable {steps left right : List BackupStep} {first second : BackupM Unit}

theorem runs_pure : task.Runs [] (pure ()) := fun _ _ => performs_pure

theorem BackupTask.Runs.bind (opening : task.Runs left first) (later : task.Runs right second)
    : task.Runs (left ++ right) (do first; second) :=
  fun state usable =>
    (opening state usable).bind (later _ (advance_usable left usable))

theorem BackupTask.Runs.cons {step : BackupStep} (opening : task.Runs [step] first)
    (later : task.Runs steps second)
    : task.Runs (step :: steps) (do first; second) :=
  opening.bind later

theorem runs_ite {condition : Prop} [Decidable condition] (holds : task.Runs left first)
    (fails : task.Runs right second)
    : task.Runs (if condition then left else right) (if condition then first else second) :=
  fun state usable => performs_ite (fun _ => holds state usable) (fun _ => fails state usable)

theorem runs_attempt {step : BackupStep} {change : BackupState → BackupState}
    (same : ∀ state, change state = task.effect step state)
    (clean : ∀ state, task.breaks step state = state)
    : task.Runs [step] (attempt task.raises step change) :=
  fun state _ => performs_attempt (same state) (clean state)

theorem runs_perform {step : BackupStep} (effect : ∀ state, task.effect step state = state)
    (breaks : ∀ state, task.breaks step state = state)
    : task.Runs [step] (perform task step) :=
  runs_attempt (fun state => (effect state).symm) breaks

theorem load_usable (usable : state.work.usable = true) : load state = .ok () state := by
  unfold load
  rw [usable, if_pos rfl]

theorem runs_load (runs : task.Runs steps first) : task.Runs steps (do load; first) := by
  refine fun state usable => ⟨?_, ?_⟩
  · intro all
    simp only [Bind.bind, EStateM.bind, load_usable usable, (runs state usable).passes all]
  · intro before step failure raised
    simp only [Bind.bind, EStateM.bind, load_usable usable, (runs state usable).fails raised]

/-- What a commit does that stores some changes. -/
structure CommitsRows (task : BackupTask) (place : BackupCommit) (f : Database → Database)
    : Prop where
  effect
    : ∀ state : BackupState, task.effect (.commit place) state
      = { state with work := (state.work.change f).flush }
  breaks
    : ∀ state : BackupState, task.breaks (.commit place) state
      = { state with work := state.work.spoil }

theorem runs_commit {place : BackupCommit} (stores : CommitsRows task place id)
    : task.Runs [.commit place] (commit task place) := by
  intro state usable
  refine performs_single ?_ ?_
  · intro passed
    simp only [commit, usable, if_true, passed, stores.effect]
    rfl
  · intro failure raised
    simp only [commit, usable, if_true, raised, stores.breaks]

theorem runs_storeRows {place : BackupCommit} {f : Database → Database}
    (stores : CommitsRows task place f)
    : task.Runs [.commit place] (do changeDb f; commit task place) := by
  intro state usable
  have still : (state.work.change f).usable = true := usable
  refine performs_single ?_ ?_
  · intro passed
    simp only [Bind.bind, EStateM.bind, changeDb, commit, still, if_true, passed, stores.effect]
  · intro failure raised
    simp only [Bind.bind, EStateM.bind, changeDb, commit, still, if_true, raised, stores.breaks]
    rfl

theorem runs_storeRows_then {place : BackupCommit} {f : Database → Database}
    (stores : CommitsRows task place f) (later : task.Runs steps first)
    : task.Runs (.commit place :: steps) (do changeDb f; commit task place; first) := by
  have both := (runs_storeRows stores).cons later
  rw [bind_assoc] at both
  exact both

theorem runs_startServer {step : BackupStep} (effect : ∀ state, task.effect step state = state)
    (breaks : ∀ state, task.breaks step state = state)
    : task.Runs [step] (startServer task step) :=
  runs_load (runs_attempt (fun state => (effect state).symm) breaks)

-- The way to the completion

def quiesceSteps (task : BackupTask) : List BackupStep :=
  if task.holdsSaves then [.holdSaves, .commit .heldSaves]
  else if task.running then [.stopServer, .commit .stopped]
  else []

theorem runs_quiesce : task.Runs (quiesceSteps task) (quiesce task) := by
  refine runs_ite ?_ (runs_ite ?_ runs_pure)
  · refine (runs_attempt (fun _ => rfl) (fun _ => rfl)).cons (runs_storeRows ?_)
    exact ⟨fun _ => rfl, fun _ => rfl⟩
  · refine (runs_attempt (fun _ => rfl) (fun _ => rfl)).cons (runs_commit ?_)
    exact ⟨fun _ => rfl, fun _ => rfl⟩

def memberSteps : Nat → List Bool → List BackupStep
  | _, [] => []
  | member, isFile :: rest =>
      .addMember member :: ((if isFile then [.commit (.progress member)] else [])
        ++ memberSteps (member + 1) rest)

/-- The members of the archive, by induction on them. -/
theorem runs_addMembers (member : Nat) (members : List Bool)
    : task.Runs (memberSteps member members) (addMembers task member members) := by
  induction members generalizing member with
  | nil => exact runs_pure
  | cons isFile rest ih =>
      refine (runs_attempt (fun _ => rfl) (fun _ => rfl)).cons ?_
      refine (runs_ite (runs_storeRows ?_) runs_pure).bind (ih (member + 1))
      exact ⟨fun _ => rfl, fun _ => rfl⟩

/-- The steps of the members, by induction on them. -/
theorem mem_memberSteps {member : Nat} {members : List Bool} {step : BackupStep}
    (found : step ∈ memberSteps member members)
    : (∃ n, step = .addMember n) ∨ ∃ n, step = .commit (.progress n) := by
  induction members generalizing member with
  | nil => cases found
  | cons isFile rest ih =>
      rcases List.mem_cons.mp found with rfl | found
      · exact .inl ⟨member, rfl⟩
      rcases List.mem_append.mp found with found | found
      · cases isFile with
        | false => cases found
        | true => exact .inr ⟨member, List.mem_singleton.mp found⟩
      · exact ih found

def unquiesceSteps (task : BackupTask) : List BackupStep :=
  if task.holdsSaves then [.resumeSaves]
  else if task.running then [.startServer, .commit .restarted]
  else []

theorem runs_unquiesce : task.Runs (unquiesceSteps task) (unquiesce task) := by
  refine runs_ite (runs_attempt (fun _ => rfl) (fun _ => rfl)) (runs_ite ?_ runs_pure)
  refine (runs_startServer (fun _ => rfl) (fun _ => rfl)).bind ?_
  intro state usable
  refine performs_single ?_ ?_
  · intro passed
    refine (state_bind_run rfl).trans ?_
    simp only [commit, usable, if_true, passed]
    rfl
  · intro failure raised
    refine (state_bind_run rfl).trans ?_
    simp only [commit, usable, if_true, raised]
    rfl

def commitArtifactSteps : List BackupStep :=
  [.hashTemp, .moveArchive, .writeChecksum, .verifyArtifact]

theorem runs_commitArtifact : task.Runs commitArtifactSteps (commitArtifact task) := by
  refine (runs_attempt (fun _ => rfl) (fun _ => rfl)).cons ?_
  refine (runs_attempt (fun _ => rfl) (fun _ => rfl)).cons ?_
  refine (runs_attempt (fun _ => rfl) (fun _ => rfl)).cons ?_
  exact runs_attempt (fun _ => rfl) (fun _ => rfl)

theorem runs_completeRun : task.Runs [.commit .completed] (completeRun task) := by
  intro state usable
  have still : (state.work.change (completeRows task)).usable = true := usable
  refine performs_single ?_ ?_
  · intro passed
    simp only [completeRun, Bind.bind, EStateM.bind, changeDb, commit, still, if_true, passed]
    rfl
  · intro failure raised
    simp only [completeRun, Bind.bind, EStateM.bind, changeDb, commit, still, if_true, raised]
    rfl

/-- The steps to the archive, up to the one that stores the completion. -/
def archiveSteps (task : BackupTask) : List BackupStep :=
  [.findRestore, .commit .running, .serverDir, .diskUsage, .collect, .commit .measured,
    .askRunning]
  ++ (quiesceSteps task
    ++ ([.commit .compressing, .objectDir, .clearTemp, .checkContents, .openArchive]
      ++ (memberSteps 0 task.members
        ++ ([.closeArchive]
          ++ (unquiesceSteps task
            ++ ([.commit .described, .commit .verifying] ++ commitArtifactSteps))))))

/-- The steps to the archive that do not belong to a member of it. -/
def plainSteps : List BackupStep :=
  [.findRestore, .commit .running, .serverDir, .diskUsage, .collect, .commit .measured,
    .askRunning, .holdSaves, .commit .heldSaves, .stopServer, .commit .stopped,
    .commit .compressing, .objectDir, .clearTemp, .checkContents, .openArchive, .closeArchive,
    .resumeSaves, .startServer, .commit .restarted, .commit .described, .commit .verifying]
  ++ commitArtifactSteps

theorem mem_archiveSteps {step : BackupStep} (found : step ∈ archiveSteps task)
    : step ∈ plainSteps ∨ (∃ n, step = .addMember n) ∨ ∃ n, step = .commit (.progress n) := by
  have quiet : ∀ step ∈ quiesceSteps task, step ∈ plainSteps := by
    unfold quiesceSteps
    split
    · decide
    split <;> decide
  have loud : ∀ step ∈ unquiesceSteps task, step ∈ plainSteps := by
    unfold unquiesceSteps
    split
    · decide
    split <;> decide
  have opening : ∀ step ∈ [BackupStep.findRestore, .commit .running, .serverDir, .diskUsage,
      .collect, .commit .measured, .askRunning], step ∈ plainSteps := by
    decide
  have writing : ∀ step ∈ [BackupStep.commit .compressing, .objectDir, .clearTemp,
      .checkContents, .openArchive], step ∈ plainSteps := by
    decide
  have closing : ∀ step ∈ [BackupStep.commit .described, .commit .verifying]
      ++ commitArtifactSteps, step ∈ plainSteps := by
    decide
  unfold archiveSteps at found
  rcases List.mem_append.mp found with found | found
  · exact .inl (opening step found)
  rcases List.mem_append.mp found with found | found
  · exact .inl (quiet step found)
  rcases List.mem_append.mp found with found | found
  · exact .inl (writing step found)
  rcases List.mem_append.mp found with found | found
  · exact .inr (mem_memberSteps found)
  rcases List.mem_append.mp found with found | found
  · obtain rfl := List.mem_singleton.mp found
    exact .inl (by decide)
  rcases List.mem_append.mp found with found | found
  · exact .inl (loud step found)
  · exact .inl (closing step found)

theorem runs_makeBackup
    : task.Runs (archiveSteps task ++ [.commit .completed]) (makeBackup task) := by
  unfold archiveSteps
  simp only [List.append_assoc, List.cons_append, List.nil_append]
  refine (runs_perform (fun _ => rfl) (fun _ => rfl)).cons ?_
  refine runs_storeRows_then ⟨fun _ => rfl, fun _ => rfl⟩ ?_
  refine (runs_perform (fun _ => rfl) (fun _ => rfl)).cons ?_
  refine (runs_perform (fun _ => rfl) (fun _ => rfl)).cons ?_
  refine (runs_perform (fun _ => rfl) (fun _ => rfl)).cons ?_
  refine (runs_commit ⟨fun _ => rfl, fun _ => rfl⟩).cons ?_
  refine (runs_perform (fun _ => rfl) (fun _ => rfl)).cons ?_
  refine runs_quiesce.bind ?_
  refine (runs_storeRows ⟨fun _ => rfl, fun _ => rfl⟩).cons ?_
  refine (runs_attempt (fun _ => rfl) (fun _ => rfl)).cons ?_
  refine (runs_attempt (fun _ => rfl) (fun _ => rfl)).cons ?_
  refine (runs_perform (fun _ => rfl) (fun _ => rfl)).cons ?_
  refine (runs_attempt (fun _ => rfl) (fun _ => rfl)).cons ?_
  refine (runs_addMembers 0 task.members).bind ?_
  refine (runs_attempt (fun _ => rfl) (fun _ => rfl)).cons ?_
  refine runs_unquiesce.bind ?_
  refine runs_storeRows_then ⟨fun _ => rfl, fun _ => rfl⟩ ?_
  refine (runs_storeRows ⟨fun _ => rfl, fun _ => rfl⟩).cons ?_
  exact runs_commitArtifact.bind runs_completeRun

def completionSteps (task : BackupTask) : List BackupStep :=
  .lock :: (archiveSteps task ++ [.commit .completed])

theorem advance_completionSteps
    : (advance task.effect (completionSteps task) state).work
      = ((advance task.effect (.lock :: archiveSteps task) state).work.change
          (completeRows task)).flush := by
  have split : completionSteps task = (.lock :: archiveSteps task) ++ [.commit .completed] := rfl
  rw [split, advance_append]
  generalize advance task.effect (.lock :: archiveSteps task) state = ready
  rfl

theorem lockedBackup_passes (usable : state.work.usable = true)
    (all : AllPass task.raises (completionSteps task))
    : lockedBackup task state
      = closing (afterCompletion task) (perform task .unlock)
          (advance task.effect (completionSteps task) state) := by
  have locked : task.raises .lock = none := all _ List.mem_cons_self
  have made := (runs_makeBackup state usable).passes
    (fun step member => all step (List.mem_cons_of_mem _ member))
  have ran : lockedBackup task state
      = closing (backupBody task) (perform task .unlock) state := by
    simp only [lockedBackup, Bind.bind, EStateM.bind, perform, attempt, locked, id]
  rw [ran]
  unfold closing
  simp only [backupBody, Bind.bind, EStateM.bind, made]
  rfl

theorem lockedBackup_fails (usable : state.work.usable = true) {before : List BackupStep}
    {step : BackupStep} {failure : JobException}
    (first : FirstRaise task.raises (completionSteps task) before step failure)
    : ∃ raised, lockedBackup task state
      = .error raised (task.breaks step (advance task.effect before state)) := by
  have opened : FirstRaise task.raises ([.lock] ++ (archiveSteps task ++ [.commit .completed]))
      before step failure :=
    first
  rcases opened.of_append with locked | ⟨passes, rest, rfl, made⟩
  · have refused : perform task .lock state
        = .error failure (task.breaks step (advance task.effect before state)) :=
      (runs_perform (fun _ => rfl) (fun _ => rfl) state usable).fails locked
    exact ⟨failure, by simp only [lockedBackup, Bind.bind, EStateM.bind, refused]⟩
  · have locked : task.raises .lock = none := passes _ List.mem_cons_self
    have failed := (runs_makeBackup state usable).fails made
    have ran : lockedBackup task state
        = closing (backupBody task) (perform task .unlock) state := by
      simp only [lockedBackup, Bind.bind, EStateM.bind, perform, attempt, locked, id]
    rw [ran]
    unfold closing
    simp only [backupBody, Bind.bind, EStateM.bind, failed, perform, attempt]
    cases task.raises .unlock with
    | none => exact ⟨failure, rfl⟩
    | some other => exact ⟨other, rfl⟩

-- After the completion

/-- The files of each backup go, its row with the second of them. -/
def removalSteps (excess : List Backup) : List BackupStep :=
  excess.flatMap (fun backup => [.removeArchive backup.id, .removeChecksum backup.id])

/-- The backups that go, by induction on them. -/
theorem runs_removeExcess (excess : List Backup)
    : task.Runs (removalSteps excess) (removeExcess task excess) := by
  induction excess with
  | nil => exact runs_pure
  | cons backup rest ih =>
      refine (runs_attempt (fun _ => rfl) (fun _ => rfl)).cons ?_
      have marked : task.Runs [.removeChecksum backup.id]
          (do
            attempt task.raises (.removeChecksum backup.id)
              (task.keep backup.id (fun stored => { stored with checksum := none }))
            changeDb (changeBackup backup.id (deleteBackupRow task.now))) := by
        intro state _
        refine performs_single ?_ ?_
        · intro passed
          simp only [Bind.bind, EStateM.bind, attempt, passed, changeDb]
          rfl
        · intro failure raised
          simp only [Bind.bind, EStateM.bind, attempt, raised]
          rfl
      have both := marked.cons ih
      rw [bind_assoc] at both
      exact both

def retentionSteps (task : BackupTask) (retentionCount : Option Int) (db : Database)
    : List BackupStep :=
  removalSteps
      ((retainable task.server.id db).drop
        (keepCount retentionCount task.backupRetentionCount).toNat)
    ++ [.commit .retention]

theorem performs_applyBackupRetention (retentionCount : Option Int)
    (usable : state.work.usable = true)
    : Performs task.raises task.effect task.breaks
        (retentionSteps task retentionCount state.work.committed) state
        (applyBackupRetention task retentionCount) := by
  have stores : CommitsRows task .retention id := ⟨fun _ => rfl, fun _ => rfl⟩
  have removed := (runs_removeExcess ((retainable task.server.id state.work.committed).drop
    (keepCount retentionCount task.backupRetentionCount).toNat)).bind (runs_commit stores)
  refine (removed state usable).of_run ?_
  exact (state_bind_run (load_usable usable)).trans (state_bind_run rfl)

end Blockhost.JobRuns
