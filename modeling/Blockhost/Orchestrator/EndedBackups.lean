import Blockhost.Orchestrator.BackupSteps

/-! When a backup job ends. Once it is completed nothing takes that back. Before, the handler has
to bring the server back, if the job has stopped it, and to store the failure on a session that a
failed commit would have spoilt.
-/

namespace Blockhost.JobRuns

open Library

variable {task : BackupTask} {state : BackupState} {failure : JobException}

-- Jobs that end

/-- A job is completed, or failed with its error. -/
structure EndedBackupJob (job : BackupJob) : Prop where
  inactive : job.status.activeJob = false
  recorded
    : job.status = .completed ∨ job.errorCode.isSome = true ∧ job.errorMessage.isSome = true

def JobMeets (jobId : Uuid) (condition : BackupJob → Prop) (db : Database) : Prop :=
  ∃ job, db.backupJobs.get? jobId = some job ∧ condition job

theorem JobMeets.changed {jobId : Uuid} {condition : BackupJob → Prop} {db : Database}
    (meets : JobMeets jobId condition db) (changedId : Uuid) (change : Change BackupJob.id)
    (kept : ∀ job, condition job → condition (change.apply job))
    : JobMeets jobId condition (changeBackupJob changedId change db) := by
  obtain ⟨job, found, holds⟩ := meets
  unfold JobMeets changeBackupJob
  rw [Table.get?_modify, found]
  split
  · exact ⟨_, rfl, kept job holds⟩
  · exact ⟨job, rfl, holds⟩

theorem JobMeets.becomes {jobId : Uuid} {condition other : BackupJob → Prop} {db : Database}
    (meets : JobMeets jobId condition db) {change : Change BackupJob.id}
    (brings : ∀ job, other (change.apply job))
    : JobMeets jobId other (changeBackupJob jobId change db) := by
  obtain ⟨job, found, _⟩ := meets
  unfold JobMeets changeBackupJob
  rw [Table.get?_modify, found, if_pos rfl]
  exact ⟨_, rfl, brings job⟩

theorem JobMeets.same {jobId : Uuid} {condition : BackupJob → Prop} {db other : Database}
    (meets : JobMeets jobId condition db) (same : other.backupJobs = db.backupJobs)
    : JobMeets jobId condition other := by
  unfold JobMeets
  rw [same]
  exact meets

theorem endedBackupJob_completeJob (now : Instant) (job : BackupJob)
    : EndedBackupJob ((completeJob now).apply job) :=
  ⟨rfl, .inl rfl⟩

theorem endedBackupJob_failJob (now : Instant) (code message : String) (job : BackupJob)
    : EndedBackupJob ((failJob now code message).apply job) :=
  ⟨rfl, .inr ⟨rfl, rfl⟩⟩

theorem not_ended_of_active {jobId : Uuid} {db : Database}
    (active : JobMeets jobId (fun job => job.status.activeJob = true) db)
    : ¬ JobMeets jobId EndedBackupJob db := by
  rintro ⟨job, found, ended⟩
  obtain ⟨other, same, active⟩ := active
  cases found.symm.trans same
  cases ended.inactive.symm.trans active

-- What is kept

/-- The changes after which an ended job has still ended. -/
def KeepsEnded (jobId : Uuid) (f : Database → Database) : Prop :=
  ∀ db, JobMeets jobId EndedBackupJob db → JobMeets jobId EndedBackupJob (f db)

/-- What holds of a session whatever allowed changes are made, stored or lost. -/
structure StableUnder (allowed : (Database → Database) → Prop)
    (holds : UnitOfWork Database → Prop)
    : Prop where
  change : ∀ work f, allowed f → holds work → holds (work.change f)
  flush : ∀ work : UnitOfWork Database, work.usable = true → holds work → holds work.flush
  spoil : ∀ work : UnitOfWork Database, holds work → holds work.spoil

/-- What holds of a session whatever is changed, stored or lost. -/
structure Stable (jobId : Uuid) (holds : UnitOfWork Database → Prop) : Prop where
  change : ∀ work f, KeepsEnded jobId f → holds work → holds (work.change f)
  flush : ∀ work : UnitOfWork Database, work.usable = true → holds work → holds work.flush
  spoil : ∀ work : UnitOfWork Database, holds work → holds work.spoil

theorem Stable.under {jobId : Uuid} {holds : UnitOfWork Database → Prop}
    (stable : Stable jobId holds)
    : StableUnder (KeepsEnded jobId) holds :=
  ⟨stable.change, stable.flush, stable.spoil⟩

/-- The job has ended, for the session and for all others. -/
structure Settled (jobId : Uuid) (work : UnitOfWork Database) : Prop where
  committed : JobMeets jobId EndedBackupJob work.committed
  current : JobMeets jobId EndedBackupJob work.current

theorem stable_settled (jobId : Uuid) : Stable jobId (Settled jobId) where
  change _ _ keeps settled := ⟨settled.committed, keeps _ settled.current⟩
  flush _ _ settled := ⟨settled.current, settled.current⟩
  spoil _ settled := ⟨settled.committed, settled.committed⟩

theorem stable_spoilt (jobId : Uuid) (db : Database)
    : Stable jobId (fun work => work.usable = false ∧ work.committed = db) where
  change _ _ _ spoilt := spoilt
  flush _ usable spoilt := absurd (usable.symm.trans spoilt.1) (by simp)
  spoil _ spoilt := ⟨rfl, spoilt.2⟩

theorem keepsEnded_failRows (failure : JobException)
    : KeepsEnded task.job.id (failRows task failure) :=
  fun _ meets => meets.changed _ _ fun job _ => endedBackupJob_failJob _ _ _ job

theorem failScheduleOf_backupJobs (db : Database)
    : (failScheduleOf task db).backupJobs = db.backupJobs := by
  unfold failScheduleOf
  split <;> rfl

theorem succeedScheduleOf_backupJobs (db : Database)
    : (succeedScheduleOf task db).backupJobs = db.backupJobs := by
  unfold succeedScheduleOf
  split <;> rfl

theorem keepsEnded_failScheduleOf : KeepsEnded task.job.id (failScheduleOf task) :=
  fun db meets => meets.same (failScheduleOf_backupJobs db)

section Kept

variable {holds : UnitOfWork Database → Prop}

abbrev OfWork (holds : UnitOfWork Database → Prop) (state : BackupState) : Prop :=
  holds state.work

theorem keeps_load : Keeps (Carries (OfWork holds)) load := by
  intro state start
  unfold load
  split <;> exact start

theorem keeps_perform (step : BackupStep) : Keeps (Carries (OfWork holds)) (perform task step) :=
  keeps_attempt (fun _ start => start)

theorem keeps_store (step : BackupStep) (f : StoredArtifact → StoredArtifact)
    : Keeps (Carries (OfWork holds)) (store task step f) :=
  keeps_attempt (fun _ start => start)

theorem keeps_backupCleanUp : Keeps (Carries (OfWork holds)) (backupCleanUp task) := by
  refine Keeps.get.bind fun state => Keeps.bind ?_ fun _ => Keeps.get.bind fun state => ?_
  · exact keeps_ite (keeps_store _ _) (Keeps.pure _)
  · refine keeps_ite ?_ (Keeps.pure _)
    refine (keeps_ite (Keeps.pure _) keeps_load).bind fun _ => ?_
    exact keeps_ite (Keeps.pure _) ((keeps_store _ _).bind fun _ => keeps_store _ _)

theorem keeps_recoverServer : Keeps (Carries (OfWork holds)) (recoverServer task) := by
  refine Keeps.tryCatch ?_ fun _ => keeps_load.bind fun _ => Keeps.throw _
  exact keeps_load.bind fun _ => keeps_perform _

section Changed

variable {allowed : (Database → Database) → Prop} (stable : StableUnder allowed holds)
include stable

theorem keeps_changeDb {f : Database → Database} (keeps : allowed f)
    : Keeps (Carries (OfWork holds)) (changeDb f) :=
  fun state start => stable.change state.work f keeps start

theorem keeps_commit (place : BackupCommit)
    : Keeps (Carries (OfWork holds)) (commit task place) := by
  intro state start
  unfold commit
  split
  · split
    · exact stable.spoil state.work start
    · exact stable.flush state.work ‹_› start
  · exact start

theorem keeps_backupFailed (failure : JobException) (fails : allowed (failRows task failure))
    (schedules : allowed (failScheduleOf task))
    : Keeps (Carries (OfWork holds)) (backupFailed task failure) := by
  refine Keeps.get.bind fun state => ?_
  refine (keeps_ite keeps_load (Keeps.pure _)).bind fun _ => ?_
  refine (keeps_ite (keeps_recoverServer) (Keeps.pure _)).bind fun _ => ?_
  refine (keeps_changeDb stable fails).bind fun _ => ?_
  refine Keeps.bind (keeps_modify ?_) fun _ => keeps_load.bind fun _ => ?_
  · exact fun _ start => start
  · exact (keeps_changeDb stable schedules).bind fun _ => keeps_commit stable _

end Changed

variable (stable : Stable task.job.id holds)
include stable

/-- The retention marks backups and no jobs, by induction on the backups. -/
theorem keeps_removeExcess (excess : List Backup)
    : Keeps (Carries (OfWork holds)) (removeExcess task excess) := by
  induction excess with
  | nil => exact Keeps.pure _
  | cons backup rest ih =>
      refine Keeps.bind (keeps_attempt ?_) fun _ => Keeps.bind (keeps_attempt ?_) fun _ => ?_
      · exact fun _ start => start
      · exact fun _ start => start
      · refine Keeps.bind (keeps_changeDb stable.under ?_) fun _ => ih
        exact fun _ meets => meets

theorem keeps_applyBackupRetention (retentionCount : Option Int)
    : Keeps (Carries (OfWork holds)) (applyBackupRetention task retentionCount) := by
  refine keeps_load.bind fun _ => Keeps.get.bind fun state => ?_
  exact (keeps_removeExcess stable _).bind fun _ => keeps_commit stable.under _

theorem keeps_afterCompletion : Keeps (Carries (OfWork holds)) (afterCompletion task) := by
  refine keeps_load.bind fun _ => Keeps.get.bind fun state => ?_
  cases scheduleOf task state.work.current with
  | none => exact keeps_applyBackupRetention stable none
  | some schedule =>
      refine Keeps.bind (keeps_changeDb stable.under ?_) fun _ => ?_
      · exact fun _ meets => meets
      · exact (keeps_commit stable.under _).bind fun _ => keeps_applyBackupRetention stable _

end Kept

-- Up to the completion

/-- The job is active, and nothing waits to be stored. -/
structure Underway (task : BackupTask) (state : BackupState) : Prop where
  usable : state.work.usable = true
  clean : state.work.changes = id
  active : JobMeets task.job.id (fun job => job.status.activeJob = true) state.work.committed

def BackupStep.early : BackupStep → Bool
  | .removeChecksum _ | .commit .completed => false
  | _ => true

theorem archiveSteps_early : ∀ step ∈ archiveSteps task, step.early = true := by
  intro step found
  have plain : ∀ step ∈ plainSteps, step.early = true := by decide
  rcases mem_archiveSteps found with member | ⟨n, rfl⟩ | ⟨n, rfl⟩
  · exact plain step member
  · rfl
  · rfl

theorem before_early {before : List BackupStep} {step : BackupStep}
    (first : FirstRaise task.raises (completionSteps task) before step failure)
    : ∀ earlier ∈ before, earlier.early = true := by
  have parted : FirstRaise task.raises ((.lock :: archiveSteps task) ++ [.commit .completed])
      before step failure :=
    first
  have early : ∀ earlier ∈ .lock :: archiveSteps task, earlier.early = true :=
    List.forall_mem_cons.mpr ⟨rfl, archiveSteps_early⟩
  rcases parted.of_append with inner | ⟨_, rest, rfl, last⟩
  · exact fun earlier member => early earlier (inner.mem_before member)
  · obtain ⟨rfl, _⟩ := last.of_single
    rw [List.append_nil]
    exact early

/-- The session can go on, with nothing to store, and what is committed meets a condition. -/
structure Clean (holds : Database → Prop) (state : BackupState) : Prop where
  usable : state.work.usable = true
  clean : state.work.changes = id
  rows : holds state.work.committed

theorem Clean.current {holds : Database → Prop} (clean : Clean holds state)
    : state.work.current = state.work.committed :=
  congrFun clean.clean _

theorem Clean.stores {holds other : Database → Prop} (clean : Clean holds state)
    {f : Database → Database} (brings : ∀ db, holds db → other (f db))
    : Clean other { state with work := (state.work.change f).flush } where
  usable := rfl
  clean := rfl
  rows := by
    rw [UnitOfWork.flush_committed, UnitOfWork.change_current, clean.current]
    exact brings _ clean.rows

theorem effect_clean {holds : Database → Prop}
    (keeps : ∀ place, place ≠ .completed → ∀ db, holds db → holds (task.rows place db))
    {step : BackupStep} (early : step.early = true) (clean : Clean holds state)
    : Clean holds (task.effect step state) := by
  have other {next : BackupState} (same : next.work = state.work) : Clean holds next :=
    ⟨same ▸ clean.usable, same ▸ clean.clean, same ▸ clean.rows⟩
  cases step with
  | removeChecksum backupId => cases early
  | commit place =>
      have stored (different : place ≠ .completed)
          : Clean holds { state with work := (state.work.change (task.rows place)).flush } :=
        clean.stores (keeps place different)
      cases place with
      | completed => cases early
      | restarted => exact ⟨rfl, rfl, (stored (by decide)).rows⟩
      | running | measured | heldSaves | stopped | compressing | progress | described
      | verifying | schedule | retention | failed => exact stored (by simp)
  | _ => exact other rfl

theorem advance_clean {holds : Database → Prop}
    (keeps : ∀ place, place ≠ .completed → ∀ db, holds db → holds (task.rows place db))
    {steps : List BackupStep} (early : ∀ step ∈ steps, step.early = true)
    (clean : Clean holds state)
    : Clean holds (advance task.effect steps state) :=
  advance_keeps (Clean holds) (fun step member _ => effect_clean keeps (early step member)) clean

theorem rows_active (place : BackupCommit) (different : place ≠ .completed) (db : Database)
    (meets : JobMeets task.job.id (fun job => job.status.activeJob = true) db)
    : JobMeets task.job.id (fun job => job.status.activeJob = true) (task.rows place db) := by
  cases place with
  | completed => exact absurd rfl different
  | running | heldSaves | compressing | progress | verifying =>
      exact meets.becomes fun _ => rfl
  | schedule => exact meets.same (succeedScheduleOf_backupJobs db)
  | measured | stopped | restarted | described | retention | failed => exact meets

theorem advance_underway {steps : List BackupStep} (early : ∀ step ∈ steps, step.early = true)
    (underway : Underway task state)
    : Underway task (advance task.effect steps state) := by
  have reached := advance_clean rows_active early
    ⟨underway.usable, underway.clean, underway.active⟩
  exact ⟨reached.usable, reached.clean, reached.rows⟩

/-- Whether the job has stopped the server and not started it again. -/
def BackupStep.stops (stopped : Bool) : BackupStep → Bool
  | .stopServer => true
  | .commit .restarted => false
  | _ => stopped

def stoppedAfter (steps : List BackupStep) : Bool := steps.foldl BackupStep.stops false

theorem advance_stopped (steps : List BackupStep)
    : (advance task.effect steps state).stoppedForBackup
      = steps.foldl BackupStep.stops state.stoppedForBackup := by
  induction steps generalizing state with
  | nil => rfl
  | cons step rest ih =>
      rw [advance_cons, ih, List.foldl_cons]
      congr 1
      cases step with
      | commit place => cases place <;> rfl
      | _ => rfl

-- The handler before the completion

/-- The server comes back after a failure. -/
def Recovers (task : BackupTask) : Prop := task.raises .restartServer = none

theorem recoverServer_ok (underway : Underway task state) (recovers : Recovers task)
    : recoverServer task state = .ok () state := by
  refine tryCatch_ok ((state_bind_run (load_usable underway.usable)).trans ?_)
  simp only [perform, attempt, show task.raises .restartServer = none from recovers, id]

theorem recoverServer_error (underway : Underway task state) (lost : ¬ Recovers task)
    : ∃ other next, recoverServer task state = .error other next
      ∧ next.work.committed = state.work.committed := by
  obtain ⟨failure, started⟩ := Option.ne_none_iff_exists'.mp lost
  have loaded : load state = .ok () state := load_usable underway.usable
  have failed : startServer task .restartServer state = .error failure state := by
    refine (state_bind_run loaded).trans ?_
    simp only [perform, attempt, started]
  refine ⟨unboundException, state, ?_, rfl⟩
  rw [recoverServer, tryCatch_error failed]
  exact (state_bind_run loaded).trans rfl

theorem recordFailure_eq (usable : state.work.usable = true)
    : recordFailure task failure state
      = commit task .failed
          { state with
            work := (state.work.change (failRows task failure)).change (failScheduleOf task)
            statusKnown := true } := by
  have loads (next : BackupState) (same : next.work = state.work.change (failRows task failure))
      : load next = .ok () next :=
    load_usable (same ▸ usable)
  refine (state_bind_run rfl).trans ((state_bind_run rfl).trans ?_)
  exact (state_bind_run (loads _ rfl)).trans (state_bind_run rfl)

theorem recordFailure_stores (underway : Underway task state)
    : JobMeets task.job.id EndedBackupJob
        (finalState (recordFailure task failure state)).work.committed
      ↔ task.raises (.commit .failed) = none := by
  rw [recordFailure_eq underway.usable]
  cases stored : task.raises (.commit .failed) with
  | none =>
      have ended : JobMeets task.job.id EndedBackupJob
          (failScheduleOf task (failRows task failure state.work.current)) := by
        refine JobMeets.same ?_ (failScheduleOf_backupJobs _)
        have current : state.work.current = state.work.committed := congrFun underway.clean _
        rw [current]
        exact underway.active.becomes fun job => endedBackupJob_failJob _ _ _ job
      refine iff_of_true ?_ rfl
      simp only [commit, UnitOfWork.change_usable, underway.usable, if_true, stored, finalState]
      exact ended
  | some other =>
      refine iff_of_false ?_ (by simp)
      simp only [commit, UnitOfWork.change_usable, underway.usable, if_true, stored, finalState]
      exact not_ended_of_active underway.active

theorem backupFailed_stores (underway : Underway task state)
    : JobMeets task.job.id EndedBackupJob
        (finalState (backupFailed task failure state)).work.committed
      ↔ (state.stoppedForBackup = true → Recovers task)
        ∧ task.raises (.commit .failed) = none := by
  have held : (if state.saveHeld then load else pure ()) state = .ok () state := by
    split
    · exact load_usable underway.usable
    · rfl
  have opened : backupFailed task failure state
      = (do
          (if state.stoppedForBackup then recoverServer task else pure ())
          recordFailure task failure) state :=
    (state_bind_run rfl).trans (state_bind_run held)
  rw [opened]
  cases stopped : state.stoppedForBackup with
  | false =>
      have ran : (do
            (if false then recoverServer task else pure ())
            recordFailure task failure) state
          = recordFailure task failure state :=
        state_bind_run rfl
      rw [ran, recordFailure_stores underway]
      simp
  | true =>
      by_cases recovers : Recovers task
      · have ran : (do
              (if true then recoverServer task else pure ())
              recordFailure task failure) state
            = recordFailure task failure state :=
          state_bind_run (recoverServer_ok underway recovers)
        rw [ran, recordFailure_stores underway]
        simp [recovers]
      · obtain ⟨other, next, failed, same⟩ := recoverServer_error underway recovers
        have ran : (do
              (if true then recoverServer task else pure ())
              recordFailure task failure) state
            = .error other next :=
          state_bind_error failed
        rw [ran]
        refine iff_of_false ?_ (fun both => recovers (both.1 rfl))
        simp only [finalState, same]
        exact not_ended_of_active underway.active

-- Whole jobs

/-- When a backup job ends: all steps up to the completion pass, or the first one that raises is
no commit, the server comes back if the job has stopped it, and the failure can be stored.
-/
def BackupEnds (task : BackupTask) : Prop :=
  AllPass task.raises (completionSteps task)
  ∨ ∃ before step failure, FirstRaise task.raises (completionSteps task) before step failure
    ∧ step.isCommit = false ∧ (stoppedAfter before = true → Recovers task)
    ∧ task.raises (.commit .failed) = none

theorem completed_ends (underway : Underway task state)
    (all : AllPass task.raises (completionSteps task))
    : JobMeets task.job.id EndedBackupJob
        (finalState (backupRun task state)).work.committed := by
  have early : ∀ step ∈ .lock :: archiveSteps task, step.early = true :=
    List.forall_mem_cons.mpr ⟨rfl, archiveSteps_early⟩
  have made := advance_underway early underway
  have settled : OfWork (Settled task.job.id)
      (advance task.effect (completionSteps task) state) := by
    unfold OfWork
    rw [advance_completionSteps]
    generalize advance task.effect (.lock :: archiveSteps task) state = ready at made ⊢
    have ended : JobMeets task.job.id EndedBackupJob (completeRows task ready.work.current) := by
      have current := congrFun made.clean ready.work.committed
      rw [UnitOfWork.current, current]
      exact made.active.becomes fun job => endedBackupJob_completeJob _ job
    exact ⟨ended, ended⟩
  have stable := stable_settled task.job.id
  have locked : OfWork (Settled task.job.id) (finalState (lockedBackup task state)) := by
    rw [lockedBackup_passes underway.usable all]
    exact (keeps_afterCompletion stable).closing (keeps_perform _) _ settled
  have handled : OfWork (Settled task.job.id)
      (finalState (tryCatch (lockedBackup task) (backupFailed task) state)) := by
    cases outcome : lockedBackup task state with
    | ok value next =>
        rw [outcome] at locked
        rw [tryCatch_ok outcome]
        exact locked
    | error failure next =>
        rw [outcome] at locked
        rw [tryCatch_error outcome]
        exact keeps_backupFailed stable.under failure (keepsEnded_failRows failure)
          keepsEnded_failScheduleOf next locked
  unfold backupRun
  rw [finalState_closing]
  exact (keeps_backupCleanUp _ handled).committed

theorem failed_ends_iff (underway : Underway task state)
    (starts : state.stoppedForBackup = false) {before : List BackupStep} {step : BackupStep}
    (first : FirstRaise task.raises (completionSteps task) before step failure)
    : JobMeets task.job.id EndedBackupJob (finalState (backupRun task state)).work.committed
      ↔ step.isCommit = false ∧ (stoppedAfter before = true → Recovers task)
        ∧ task.raises (.commit .failed) = none := by
  obtain ⟨raised, failed⟩ := lockedBackup_fails underway.usable first
  have reached := advance_underway (before_early first) underway
  have stopped : (advance task.effect before state).stoppedForBackup = stoppedAfter before := by
    rw [advance_stopped, starts]
    rfl
  have handled : (finalState (backupRun task state)).work
      = (finalState (backupFailed task raised
          (task.breaks step (advance task.effect before state)))).work := by
    have cleaned (reached : BackupState)
        : OfWork (fun work => work = reached.work)
            (finalState (backupCleanUp task reached)) :=
      keeps_backupCleanUp reached rfl
    unfold backupRun
    rw [finalState_closing, tryCatch_error failed]
    exact cleaned _
  rw [handled]
  cases commits : step.isCommit with
  | false =>
      have still : task.breaks step (advance task.effect before state)
          = advance task.effect before state := by
        cases step with
        | commit place => cases commits
        | _ => rfl
      rw [still, backupFailed_stores reached, stopped]
      simp
  | true =>
      have spoilt : (task.breaks step (advance task.effect before state)).work
          = (advance task.effect before state).work.spoil := by
        cases step with
        | commit place => cases place <;> rfl
        | _ => cases commits
      refine iff_of_false ?_ (by simp)
      have kept := keeps_backupFailed
        (stable_spoilt task.job.id (advance task.effect before state).work.committed).under raised
        (keepsEnded_failRows raised) keepsEnded_failScheduleOf
        (task.breaks step (advance task.effect before state))
        (by rw [OfWork, spoilt]; exact ⟨rfl, rfl⟩)
      rw [kept.2]
      exact not_ended_of_active reached.active

theorem backupRun_ends_iff (underway : Underway task state)
    (starts : state.stoppedForBackup = false)
    : JobMeets task.job.id EndedBackupJob (finalState (backupRun task state)).work.committed
      ↔ BackupEnds task := by
  constructor
  · intro ended
    rcases allPass_or_firstRaise task.raises (completionSteps task)
      with all | ⟨before, step, failure, first⟩
    · exact .inl all
    · exact .inr ⟨before, step, failure, first, (failed_ends_iff underway starts first).mp ended⟩
  · rintro (all | ⟨before, step, failure, first, met⟩)
    · exact completed_ends underway all
    · exact (failed_ends_iff underway starts first).mpr met

end Blockhost.JobRuns
