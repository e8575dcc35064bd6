import Blockhost.Orchestrator.JobPrograms

/-! A backup and a restore of one server exclude each other by the statuses of their rows: each
job is in an active status from its first row on, and checks the other kind before it works.
-/

namespace Blockhost.Jobs

open Library

variable {Locks : Type} {store : LeaseStore Uuid JobRef Locks}

-- What an action changes

structure WritesRow (before after : Database) (job : JobRef) (row : Option (Uuid × Bool))
    : Prop where
  own : jobRow after job = row
  others : ∀ other, other ≠ job → jobRow after other = jobRow before other

/-- All that an action can do: nothing but let time pass, insert a job, take or give back a lock,
pass a check, or write a status.
-/
inductive JobChange (store : LeaseStore Uuid JobRef Locks) (world : JobWorld Locks)
    (outside : JobOutside)
    : JobAction → JobWorld Locks → Prop where
  | nothing (action : JobAction) : JobChange store world outside action world
  | backup {server : Server} {ownerId : Uuid} {id : Uuid} {db : Database}
      (fresh : jobRow world.db ⟨.backup, id⟩ = none)
      (written : WritesRow world.db db ⟨.backup, id⟩ (some (server.id, true)))
      (calm : outside.raises = none)
      : JobChange store world outside (.insertBackup server ownerId)
          (world.addJob ⟨.backup, id⟩ server.id db)
  | restore {server : Server} {backup : Backup} {user : User} {payload : CreateRestoreRequest}
      {id : Uuid} {db : Database}
      (fresh : jobRow world.db ⟨.restore, id⟩ = none)
      (written : WritesRow world.db db ⟨.restore, id⟩ (some (server.id, true)))
      (calm : outside.raises = none)
      : JobChange store world outside (.insertRestore server backup user payload)
          (world.addJob ⟨.restore, id⟩ server.id db)
  | acquire {job : JobRef} (calm : outside.raises = none)
      : JobChange store world outside (.acquire job)
          (acquireLock store outside.redisUp job world)
  | release {job : JobRef} (calm : outside.raises = none)
      : JobChange store world outside (.release job) (releaseLock store job world)
  | pass {job : JobRef} {serverId : Uuid} {active : Bool}
      (row : jobRow world.db job = some (serverId, active))
      (unopposed : otherActive world.db job.kind serverId = false)
      : JobChange store world outside (.findOther job) (world.changeJob job JobState.pass)
  | status {action : JobAction} {job : JobRef} {active : Bool} {db : Database}
      (written : WritesRow world.db db job
        ((jobRow world.db job).map (fun row => (row.1, active))))
      : JobChange store world outside action
          { world.changeJob job (JobState.reach active) with db }

theorem insertBackup_writes (server : Server) (ownerId : Uuid) (db : Database)
    : WritesRow db (insertBackup server ownerId db) ⟨.backup, db.backupJobs.freshKey⟩
        (some (server.id, true)) where
  own := by
    simp only [jobRow, insertBackup, Table.get?_create, if_true]
    rfl
  others := by
    rintro ⟨kind, id⟩ different
    cases kind with
    | restore => rfl
    | backup =>
        have other : id ≠ db.backupJobs.freshKey := fun same => different (by rw [same])
        simp only [jobRow, insertBackup, Table.get?_create, other, if_false]

theorem insertRestore_writes (server : Server) (backup : Backup) (user : User)
    (payload : CreateRestoreRequest) (db : Database)
    : WritesRow db (insertRestore server backup user payload db)
        ⟨.restore, db.restoreJobs.freshKey⟩ (some (server.id, true)) where
  own := by
    simp only [jobRow, insertRestore, Table.get?_create, if_true]
    rfl
  others := by
    rintro ⟨kind, id⟩ different
    cases kind with
    | backup => rfl
    | restore =>
        have other : id ≠ db.restoreJobs.freshKey := fun same => different (by rw [same])
        simp only [jobRow, insertRestore, Table.get?_create, other, if_false]

theorem setBackupStatus_writes (jobId : Uuid) (status : BackupStatus) (db : Database)
    : WritesRow db (setBackupStatus jobId status db) ⟨.backup, jobId⟩
        ((jobRow db ⟨.backup, jobId⟩).map (fun row => (row.1, status.activeJob))) where
  own := by
    simp only [jobRow, setBackupStatus, Table.get?_modify, if_true, Option.map_map]
    rfl
  others := by
    rintro ⟨kind, id⟩ different
    cases kind with
    | restore => rfl
    | backup =>
        have other : id ≠ jobId := fun same => different (by rw [same])
        simp only [jobRow, setBackupStatus, Table.get?_modify, other, if_false]

theorem setRestoreStatus_writes (jobId : Uuid) (status : RestoreStatus) (db : Database)
    : WritesRow db (setRestoreStatus jobId status db) ⟨.restore, jobId⟩
        ((jobRow db ⟨.restore, jobId⟩).map (fun row => (row.1, status.activeJob))) where
  own := by
    simp only [jobRow, setRestoreStatus, Table.get?_modify, if_true, Option.map_map]
    rfl
  others := by
    rintro ⟨kind, id⟩ different
    cases kind with
    | backup => rfl
    | restore =>
        have other : id ≠ jobId := fun same => different (by rw [same])
        simp only [jobRow, setRestoreStatus, Table.get?_modify, other, if_false]

theorem unlessRaised_rule {Result : Type} {property : JobWorld Locks → Prop}
    {raises : Option JobRaised} {world : JobWorld Locks} {effect : JobWorld Locks × Result}
    (idle : property world) (acts : raises = none → property effect.1)
    : property (unlessRaised raises world effect).1 := by
  cases raises with
  | none => exact acts rfl
  | some failure => exact idle

theorem performJobAction_changes (action : JobAction) (outside : JobOutside)
    (world : JobWorld Locks)
    : JobChange store world outside action (performJobAction store action outside world).1 := by
  cases action with
  | insertBackup server ownerId =>
      refine unlessRaised_rule (.nothing _) (.backup ?_ (insertBackup_writes server ownerId _))
      simp only [jobRow, Table.get?_freshKey, Option.map_none]
  | insertRestore server backup user payload =>
      refine unlessRaised_rule (.nothing _)
        (.restore ?_ (insertRestore_writes server backup user payload _))
      simp only [jobRow, Table.get?_freshKey, Option.map_none]
  | acquire job => exact unlessRaised_rule (.nothing _) .acquire
  | release job => exact unlessRaised_rule (.nothing _) .release
  | findOther job =>
      simp only [performJobAction]
      cases row : jobRow world.db job with
      | none => exact .nothing _
      | some found =>
          obtain ⟨serverId, active⟩ := found
          dsimp only
          cases opposed : otherActive world.db job.kind serverId with
          | true => exact .nothing _
          | false => exact .pass row opposed
  | setBackupStatus jobId status =>
      exact unlessRaised_rule (.nothing _)
        (fun _ => .status (setBackupStatus_writes jobId status _))
  | setRestoreStatus jobId status =>
      exact unlessRaised_rule (.nothing _)
        (fun _ => .status (setRestoreStatus_writes jobId status _))
  | work => exact unlessRaised_rule (.nothing _) (fun _ => .nothing _)
  | _ => exact .nothing _

theorem changeJob_some {world : JobWorld Locks} {job other : JobRef}
    {change : JobState → JobState} {state : JobState}
    (found : (world.changeJob job change).jobs other = some state)
    : ∃ before, world.jobs other = some before
      ∧ state = if other = job then change before else before := by
  simp only [JobWorld.changeJob] at found
  split at found
  · rename_i same
    obtain ⟨before, stored, rfl⟩ := Option.map_eq_some_iff.mp found
    exact ⟨before, stored, by rw [if_pos same]⟩
  · rename_i different
    exact ⟨state, found, by rw [if_neg different]⟩

theorem addJob_some {world : JobWorld Locks} {job other : JobRef} {serverId : Uuid}
    {db : Database} {state : JobState}
    (found : (world.addJob job serverId db).jobs other = some state)
    : (other = job ∧ state = { serverId }) ∨ other ≠ job ∧ world.jobs other = some state := by
  simp only [JobWorld.addJob] at found
  split at found
  · rename_i same
    cases found
    exact .inl ⟨same, rfl⟩
  · rename_i different
    exact .inr ⟨different, found⟩

/-- A change that leaves a job on its server, and ends or revives none. -/
structure KeepsJob (change : JobState → JobState) : Prop where
  server : ∀ state, (change state).serverId = state.serverId
  ended : ∀ state, (change state).stage = .ended ↔ state.stage = .ended

theorem enter_keeps (leasedAt : Option Instant) : KeepsJob (JobState.enter leasedAt) := by
  refine ⟨?_, ?_⟩
  · intro state
    unfold JobState.enter
    split <;> rfl
  · intro state
    unfold JobState.enter
    split
    · rename_i queued
      rw [queued]
      simp
    · rfl

theorem pass_keeps : KeepsJob JobState.pass := by
  refine ⟨?_, ?_⟩
  · intro state
    unfold JobState.pass
    split <;> rfl
  · intro state
    unfold JobState.pass
    split
    · rename_i locked
      rw [locked]
      simp
    · rfl

theorem leave_keeps : KeepsJob JobState.leave := ⟨fun _ => rfl, fun _ => .rfl⟩

-- Backup against restore

/-- The row of a job is on its server, and in an active status until the job has ended. -/
def RowsActive (world : JobWorld Locks) : Prop :=
  ∀ job state, world.jobs job = some state
    → ∃ active, jobRow world.db job = some (state.serverId, active)
      ∧ (state.stage ≠ .ended → active = true)

theorem RowsActive.changeJob {world : JobWorld Locks} {change : JobState → JobState}
    (kept : RowsActive world) (job : JobRef) (keeps : KeepsJob change)
    : RowsActive (world.changeJob job change) := by
  intro other state found
  obtain ⟨before, stored, rfl⟩ := changeJob_some found
  obtain ⟨active, row, running⟩ := kept other before stored
  refine ⟨active, ?_, ?_⟩
  · rw [show (world.changeJob job change).db = world.db from rfl, row]
    split
    · rw [keeps.server]
    · rfl
  · intro unfinished
    refine running ?_
    intro ended
    refine unfinished ?_
    split
    · exact (keeps.ended before).mpr ended
    · exact ended

theorem RowsActive.addJob {world : JobWorld Locks} {job : JobRef} {serverId : Uuid}
    {db : Database} (kept : RowsActive world)
    (written : WritesRow world.db db job (some (serverId, true)))
    : RowsActive (world.addJob job serverId db) := by
  intro other state found
  rcases addJob_some found with ⟨rfl, rfl⟩ | ⟨different, stored⟩
  · exact ⟨true, written.own, fun _ => rfl⟩
  · obtain ⟨active, row, running⟩ := kept other state stored
    exact ⟨active, (written.others other different).trans row, running⟩

theorem RowsActive.kept {world next : JobWorld Locks} {outside : JobOutside}
    {action : JobAction} (changed : JobChange store world outside action next)
    (held : RowsActive world)
    : RowsActive next := by
  cases changed with
  | nothing => exact held
  | backup fresh written => exact held.addJob written
  | restore fresh written => exact held.addJob written
  | @acquire job calm =>
      unfold acquireLock
      split
      · exact held
      · split
        · exact held.changeJob job (enter_keeps _)
        · exact held.changeJob job (enter_keeps _)
  | @release job calm =>
      unfold releaseLock
      split
      · exact held
      · exact held.changeJob job leave_keeps
  | @pass job serverId active row unopposed => exact held.changeJob job pass_keeps
  | @status _ job reached db written =>
      intro other state found
      obtain ⟨before, stored, rfl⟩ := changeJob_some found
      obtain ⟨active, row, running⟩ := held other before stored
      dsimp only
      by_cases own : other = job
      · subst own
        refine ⟨reached, ?_, ?_⟩
        · rw [written.own, row, if_pos rfl]
          unfold JobState.reach
          split <;> rfl
        · rw [if_pos rfl]
          unfold JobState.reach
          split
          · rename_i active
            exact fun _ => active
          · exact fun unfinished => absurd rfl unfinished
      · rw [if_neg own]
        exact ⟨active, (written.others other own).trans row, running⟩

/-- No backup and restore of one server are both at work. -/
def Separate (world : JobWorld Locks) : Prop :=
  ∀ left right leftState rightState, left.kind ≠ right.kind
    → world.jobs left = some leftState → world.jobs right = some rightState
    → leftState.serverId = rightState.serverId
    → ¬ (leftState.atWork ∧ rightState.atWork)

def WorkContinues (world next : JobWorld Locks) : Prop :=
  ∀ job state, next.jobs job = some state → state.atWork
    → ∃ before, world.jobs job = some before ∧ before.atWork
      ∧ before.serverId = state.serverId

theorem Separate.mono {world next : JobWorld Locks} (held : Separate world)
    (continues : WorkContinues world next)
    : Separate next := by
  rintro left right leftState rightState different leftFound rightFound same ⟨leftWorks, rightWorks⟩
  obtain ⟨leftBefore, leftStored, leftWork, leftServer⟩ :=
    continues left leftState leftFound leftWorks
  obtain ⟨rightBefore, rightStored, rightWork, rightServer⟩ :=
    continues right rightState rightFound rightWorks
  exact held left right leftBefore rightBefore different leftStored rightStored
    (leftServer.trans (same.trans rightServer.symm)) ⟨leftWork, rightWork⟩

theorem WorkContinues.changeJob {world : JobWorld Locks} {change : JobState → JobState}
    (job : JobRef)
    (keeps : ∀ state, (change state).atWork → state.atWork
      ∧ state.serverId = (change state).serverId)
    : WorkContinues world (world.changeJob job change) := by
  intro other state found works
  obtain ⟨before, stored, rfl⟩ := changeJob_some found
  split at works
  · rename_i own
    rw [if_pos own]
    exact ⟨before, stored, keeps before works⟩
  · rename_i different
    rw [if_neg different]
    exact ⟨before, stored, works, rfl⟩

theorem WorkContinues.addJob {world : JobWorld Locks} (job : JobRef) (serverId : Uuid)
    (db : Database)
    : WorkContinues world (world.addJob job serverId db) := by
  intro other state found works
  rcases addJob_some found with ⟨_, rfl⟩ | ⟨_, stored⟩
  · cases works
  · exact ⟨state, stored, works, rfl⟩

theorem otherActive_of_atWork {world : JobWorld Locks} {job : JobRef} {state : JobState}
    {kind : JobKind} (rows : RowsActive world) (stored : world.jobs job = some state)
    (works : state.atWork) (different : kind ≠ job.kind)
    : otherActive world.db kind state.serverId = true := by
  have unfinished : state.stage ≠ .ended := by
    rw [works]
    simp
  obtain ⟨active, row, running⟩ := rows job state stored
  rw [running unfinished] at row
  obtain ⟨jobKind, id⟩ := job
  cases kind with
  | backup =>
      cases jobKind with
      | backup => exact absurd rfl different
      | restore =>
          obtain ⟨found, known, same⟩ := Option.map_eq_some_iff.mp row
          rw [Prod.mk.injEq] at same
          exact List.find?_isSome.mpr ⟨found, (Table.get?_some known).1, by simp [same]⟩
  | restore =>
      cases jobKind with
      | restore => exact absurd rfl different
      | backup =>
          obtain ⟨found, known, same⟩ := Option.map_eq_some_iff.mp row
          rw [Prod.mk.injEq] at same
          exact List.find?_isSome.mpr ⟨found, (Table.get?_some known).1, by simp [same]⟩

theorem Separate.kept {world next : JobWorld Locks} {outside : JobOutside}
    {action : JobAction} (changed : JobChange store world outside action next)
    (rows : RowsActive world) (held : Separate world)
    : Separate next := by
  cases changed with
  | nothing => exact held
  | backup => exact held.mono (.addJob _ _ _)
  | restore => exact held.mono (.addJob _ _ _)
  | @acquire job calm =>
      have enters (leasedAt : Option Instant) (state : JobState)
          (works : (state.enter leasedAt).atWork)
          : state.atWork ∧ state.serverId = (state.enter leasedAt).serverId := by
        refine ⟨?_, ((enter_keeps leasedAt).server state).symm⟩
        unfold JobState.enter at works
        split at works
        · cases works
        · exact works
      unfold acquireLock
      split
      · exact held
      · split
        · exact held.mono (.changeJob job (enters _))
        · exact held.mono (.changeJob job (enters _))
  | @release job calm =>
      unfold releaseLock
      split
      · exact held
      · exact held.mono (.changeJob job (fun state works => ⟨works, rfl⟩))
  | @pass job serverId active row unopposed =>
      have apart {other : JobRef} {own state : JobState} (known : world.jobs job = some own)
          (stored : world.jobs other = some state) (works : state.atWork)
          (different : job.kind ≠ other.kind)
          : own.serverId ≠ state.serverId := by
        intro same
        obtain ⟨_, found, _⟩ := rows job own known
        rw [row] at found
        cases found
        rw [same, otherActive_of_atWork rows stored works different] at unopposed
        cases unopposed
      rintro left right leftState rightState different leftFound rightFound same
        ⟨leftWorks, rightWorks⟩
      obtain ⟨leftBefore, leftStored, rfl⟩ := changeJob_some leftFound
      obtain ⟨rightBefore, rightStored, rfl⟩ := changeJob_some rightFound
      by_cases onLeft : left = job
      · subst onLeft
        have notRight : right ≠ left := fun equal => different (congrArg JobRef.kind equal.symm)
        rw [if_pos rfl, if_neg notRight, pass_keeps.server] at same
        rw [if_neg notRight] at rightWorks
        exact apart leftStored rightStored rightWorks different same
      · by_cases onRight : right = job
        · subst onRight
          rw [if_neg onLeft, if_pos rfl, pass_keeps.server] at same
          rw [if_neg onLeft] at leftWorks
          exact apart rightStored leftStored leftWorks (Ne.symm different) same.symm
        · rw [if_neg onLeft] at leftWorks same
          rw [if_neg onRight] at rightWorks same
          exact held left right leftBefore rightBefore different leftStored rightStored same
            ⟨leftWorks, rightWorks⟩
  | @status _ job active db written =>
      refine held.mono (WorkContinues.changeJob job ?_)
      intro state works
      unfold JobState.reach at works ⊢
      split at works
      · rename_i active
        rw [if_pos active]
        exact ⟨works, rfl⟩
      · cases works

def JobWorld.start (db : Database) (locks : Locks) : JobWorld Locks := { db, locks }

theorem rowsActive_start (db : Database) (locks : Locks) : RowsActive (.start db locks) := nofun

/-- However the programs interleave, whatever their steps run into, and even if every lock is
given to every job: a backup and a restore of one server are never both past their check and
before their terminal status.
-/
theorem backup_restore_exclusive (store : LeaseStore Uuid JobRef Locks) {db : Database}
    {locks : Locks} {finish : JobPool Locks}
    (reached : Reachable (Pool.Step (jobMachine store) JobHandler) ⟨.start db locks, []⟩ finish)
    {backup restore : Uuid} {backupState restoreState : JobState}
    (isBackup : finish.world.jobs ⟨.backup, backup⟩ = some backupState)
    (isRestore : finish.world.jobs ⟨.restore, restore⟩ = some restoreState)
    (sameServer : backupState.serverId = restoreState.serverId)
    : ¬ (backupState.atWork ∧ restoreState.atWork) := by
  have always : Reachable (Pool.StepWhen (jobMachine store) JobHandler (fun _ _ _ => True))
      ⟨.start db locks, []⟩ finish :=
    reached.mono (fun _ _ _ taken => taken.whenever)
  have invariant : RowsActive finish.world ∧ Separate finish.world := by
    refine Pool.world_invariant (fun world => RowsActive world ∧ Separate world) ?_ always
      ⟨rowsActive_start db locks, nofun⟩
    intro pool action outside _ ⟨rows, separate⟩
    let world : JobWorld Locks :=
      { pool.world with clock := pool.world.clock + outside.elapsed }
    have changed : JobChange store world outside action
        (performJobAction store action outside world).1 :=
      performJobAction_changes action outside world
    exact ⟨RowsActive.kept changed rows, Separate.kept changed rows separate⟩
  exact invariant.2 _ _ backupState restoreState (by simp) isBackup isRestore sameServer

def backedUpServer : Database where
  servers :=
    ⟨[{ id := 0, nodeId := some 1, ownerId := 7, worldName := "lobby", lastActivity := 0 }],
      by simp⟩
  backups :=
    ⟨[{ id := 5, serverId := 0, ownerId := 7, status := .completed, worldName := "lobby" }],
      by simp⟩

def jobOwner : User := { id := 7, email := "owner@host", authHash := "", nickname := "owner" }

def noLeases : Uuid → Option (JobRef × Instant) := fun _ => none

def crossingJobs : List (JobProgram Unit) :=
  [createRestore jobOwner (uuidText 0) { backupId := 5, confirm := "RESTORE" },
    dispatchSchedule 0 7 false]

theorem crossingJobs_known : ∀ program ∈ crossingJobs, JobHandler program := by
  simp [crossingJobs, JobHandler.restore, JobHandler.schedule]

/-- A restore request has made its checks when a scheduled backup goes to work; then its job is
inserted, and takes a lock of its own.
-/
def crossedJobs : JobPool (Uuid → Option (JobRef × Instant)) :=
  ([0, 0, 0, 0, 0, 1, 1, 1, 1, 1, 1, 0, 0, 0].map
      (fun index => (index, { redisUp := false }))).foldl
    (Pool.advance (jobMachine expiringKeys))
    ⟨.start backedUpServer noLeases, crossingJobs⟩

theorem crossed_jobs_exclusive
    : ∃ backupState restoreState,
      crossedJobs.world.jobs ⟨.backup, 0⟩ = some backupState
      ∧ crossedJobs.world.jobs ⟨.restore, 0⟩ = some restoreState
      ∧ backupState.stage = .working ∧ restoreState.stage = .locked
      ∧ ¬ (backupState.atWork ∧ restoreState.atWork) := by
  have isBackup : crossedJobs.world.jobs ⟨.backup, 0⟩ = some ⟨0, .working, none⟩ := by
    decide +kernel
  have isRestore : crossedJobs.world.jobs ⟨.restore, 0⟩ = some ⟨0, .locked, none⟩ := by
    decide +kernel
  have reached : Reachable (Pool.StepWhen (jobMachine expiringKeys) JobHandler
      (fun _ _ _ => True)) ⟨.start backedUpServer noLeases, []⟩ crossedJobs :=
    (Pool.reachable_starts crossingJobs crossingJobs_known _).trans
      (Pool.reachable_schedule _ _ (fun _ _ _ _ _ _ => trivial))
  exact ⟨_, _, isBackup, isRestore, rfl, rfl,
    backup_restore_exclusive expiringKeys (reached.mono (fun _ _ _ taken => taken.1)) isBackup
      isRestore rfl⟩

end Blockhost.Jobs
