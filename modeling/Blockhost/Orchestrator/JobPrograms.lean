import Blockhost.Api.Restores
import Blockhost.Library.Lease
import Blockhost.Library.Program

/-! The backup and restore jobs as they share the database and the lock of their server: the
requests that create them, the scheduler, and the worker threads that run them.
-/

namespace Blockhost.Jobs

open Library

inductive JobKind where
  | backup
  | restore
deriving DecidableEq, Repr

structure JobRef where
  kind : JobKind
  id : Uuid
deriving DecidableEq, Repr

/-- What an exception of a request or a job carries. -/
inductive JobRaised where
  | http (error : HttpError)
  | failed (error : BackupRestoreError)
  | exception
deriving DecidableEq, Repr

-- Transactions

def newBackup (server : Server) (ownerId : Uuid) (id : Uuid) : Backup where
  id := id
  serverId := server.id
  ownerId := ownerId
  worldName := worldName server

def newBackupJob (server : Server) (backupId : Uuid) (id : Uuid) : BackupJob where
  id := id
  backupId := backupId
  serverId := server.id

def insertBackup (server : Server) (ownerId : Uuid) (db : Database) : Database :=
  { db with
    backups := db.backups.create ⟨newBackup server ownerId, fun _ => rfl⟩
    backupJobs :=
      db.backupJobs.create ⟨newBackupJob server db.backups.freshKey, fun _ => rfl⟩ }

def insertRestore (server : Server) (backup : Backup) (user : User)
    (payload : CreateRestoreRequest) (db : Database)
    : Database :=
  { db with
    restoreJobs :=
      db.restoreJobs.create ⟨newRestoreJob server backup user payload, fun _ => rfl⟩ }

def setBackupJobStatus (status : BackupStatus) : Change BackupJob.id where
  apply job := { job with status }

def setRestoreJobStatus (status : RestoreStatus) : Change RestoreJob.id where
  apply job := { job with status }

def setBackupRowStatus (status : BackupStatus) : Change Backup.id where
  apply backup := { backup with status }

def setBackupStatus (jobId : Uuid) (status : BackupStatus) (db : Database) : Database :=
  { db with
    backupJobs := db.backupJobs.modify jobId (setBackupJobStatus status)
    backups :=
      match db.backupJobs.get? jobId with
      | none => db.backups
      | some job =>
          if status = .running || status = .completed || status = .failed then
            db.backups.modify job.backupId (setBackupRowStatus status)
          else db.backups }

def setRestoreStatus (jobId : Uuid) (status : RestoreStatus) (db : Database) : Database :=
  { db with restoreJobs := db.restoreJobs.modify jobId (setRestoreJobStatus status) }

def loadBackupJob (jobId : Uuid) (db : Database) : Option BackupJob :=
  (db.backupJobs.get? jobId).filter (fun job =>
    (db.backups.get? job.backupId).isSome && (db.servers.get? job.serverId).isSome)

def loadRestoreJob (jobId : Uuid) (db : Database) : Option RestoreJob :=
  (db.restoreJobs.get? jobId).filter (fun job =>
    (db.backups.get? job.backupId).isSome && (db.servers.get? job.serverId).isSome)

def jobRow (db : Database) (job : JobRef) : Option (Uuid × Bool) :=
  match job.kind with
  | .backup =>
      (db.backupJobs.get? job.id).map (fun row => (row.serverId, row.status.activeJob))
  | .restore =>
      (db.restoreJobs.get? job.id).map (fun row => (row.serverId, row.status.activeJob))

def otherActive (db : Database) (kind : JobKind) (serverId : Uuid) : Bool :=
  match kind with
  | .backup => (activeRestore db serverId).isSome
  | .restore => (activeBackup db serverId).isSome

/-- The reads of a restore request before it looks for other jobs. -/
def restoreSource (db : Database) (user : User) (serverId : String)
    (payload : CreateRestoreRequest)
    : Except HttpError (Server × Backup) :=
  if payload.confirm ≠ "RESTORE" then .error ⟨400, "Restore confirmation is required"⟩
  else do
    let server ← requireServer serverId user db
    let backup ← requireBackup server (uuidText payload.backupId) user db
    if backup.status ≠ .completed then .error ⟨409, "Backup is not completed"⟩
    else .ok (server, backup)

-- Actions

/-- How far a job has come since it was inserted. -/
inductive JobStage where
  | queued
  | locked
  | working
  | ended
deriving DecidableEq, Repr

/-- What is observed of a job: its server, its stage, and since when it has the lock from the
store of leases.
-/
structure JobState where
  serverId : Uuid
  stage : JobStage := .queued
  leasedAt : Option Instant := none
deriving DecidableEq, Repr

/-- A job has taken the lock and has not come to a terminal status. -/
def JobState.inSection (state : JobState) : Prop := state.stage = .locked ∨ state.stage = .working

/-- A job has passed its check and has not come to a terminal status. -/
def JobState.atWork (state : JobState) : Prop := state.stage = .working

structure JobWorld (Locks : Type) where
  db : Database
  locks : Locks
  jobs : JobRef → Option JobState := fun _ => none
  clock : Instant := 0

/-- What an action learns from outside: the time that has passed, whether Redis is there, an
exception, and the results of what is not modelled.
-/
structure JobOutside where
  elapsed : Nat := 0
  redisUp : Bool := true
  raises : Option JobRaised := none
  holds : Bool := false
  count : Nat := 0

inductive JobAction where
  | requireServer (user : User) (serverId : String)
  | restoreSource (user : User) (serverId : String) (payload : CreateRestoreRequest)
  | loadServer (serverId : Uuid)
  | activeBackup (serverId : Uuid)
  | activeRestore (serverId : Uuid)
  | insertBackup (server : Server) (ownerId : Uuid)
  | insertRestore (server : Server) (backup : Backup) (user : User)
      (payload : CreateRestoreRequest)
  | loadBackupJob (jobId : Uuid)
  | loadRestoreJob (jobId : Uuid)
  | acquire (job : JobRef)
  | release (job : JobRef)
  | findOther (job : JobRef)
  | setBackupStatus (jobId : Uuid) (status : BackupStatus)
  | setRestoreStatus (jobId : Uuid) (status : RestoreStatus)
  | work
  | probe
  | count

@[reducible] def JobAnswer : JobAction → Type
  | .requireServer .. => Except HttpError Server
  | .restoreSource .. => Except HttpError (Server × Backup)
  | .loadServer _ => Option Server
  | .activeBackup _ | .activeRestore _ | .findOther _ | .probe => Bool
  | .insertBackup .. | .insertRestore .. => Except JobRaised Uuid
  | .loadBackupJob _ => Option BackupJob
  | .loadRestoreJob _ => Option RestoreJob
  | .acquire _ | .release _ => Except JobRaised Unit
  | .setBackupStatus .. | .setRestoreStatus .. | .work => Except JobRaised Unit
  | .count => Nat

variable {Locks : Type}

def JobWorld.changeJob (job : JobRef) (change : JobState → JobState) (world : JobWorld Locks)
    : JobWorld Locks :=
  { world with
    jobs := fun other => if other = job then (world.jobs other).map change else world.jobs other }

def JobWorld.addJob (job : JobRef) (serverId : Uuid) (db : Database) (world : JobWorld Locks)
    : JobWorld Locks :=
  { world with
    db
    jobs := fun other => if other = job then some { serverId } else world.jobs other }

/-- A queued job has the lock now; `leasedAt` is the time of a lease from Redis. -/
def JobState.enter (leasedAt : Option Instant) (state : JobState) : JobState :=
  if state.stage = .queued then { state with stage := .locked, leasedAt } else state

/-- A job with the lock has found no active job of the other kind. -/
def JobState.pass (state : JobState) : JobState :=
  if state.stage = .locked then { state with stage := .working } else state

def JobState.leave (state : JobState) : JobState := { state with leasedAt := none }

def JobState.reach (active : Bool) (state : JobState) : JobState :=
  if active then state else { state with stage := .ended }

def lockTimeout : Instant := seconds 3600

/-- An action that may raise instead of taking effect. -/
def unlessRaised {Result : Type} (raises : Option JobRaised) (world : JobWorld Locks)
    (effect : JobWorld Locks × Result)
    : JobWorld Locks × Except JobRaised Result :=
  match raises with
  | some failure => (world, .error failure)
  | none => (effect.1, .ok effect.2)

/-- `lock.__enter__`: without Redis the lock is a new one of this thread. -/
def acquireLock (store : LeaseStore Uuid JobRef Locks) (redisUp : Bool) (job : JobRef)
    (world : JobWorld Locks)
    : JobWorld Locks :=
  match jobRow world.db job with
  | none => world
  | some (serverId, _) =>
      if redisUp then
        { world.changeJob job (JobState.enter (some world.clock)) with
          locks :=
            (store.acquire serverId job world.clock lockTimeout world.locks).getD world.locks }
      else world.changeJob job (JobState.enter none)

/-- `lock.__exit__` -/
def releaseLock (store : LeaseStore Uuid JobRef Locks) (job : JobRef) (world : JobWorld Locks)
    : JobWorld Locks :=
  match jobRow world.db job with
  | none => world
  | some (serverId, _) =>
      { world.changeJob job JobState.leave with
        locks := store.release serverId job world.locks }

def performJobAction (store : LeaseStore Uuid JobRef Locks) (action : JobAction)
    (outside : JobOutside) (world : JobWorld Locks)
    : JobWorld Locks × JobAnswer action :=
  let db := world.db
  match action with
  | .requireServer user serverId => (world, requireServer serverId user db)
  | .restoreSource user serverId payload => (world, restoreSource db user serverId payload)
  | .loadServer serverId => (world, db.servers.get? serverId)
  | .activeBackup serverId => (world, (activeBackup db serverId).isSome)
  | .activeRestore serverId => (world, (activeRestore db serverId).isSome)
  | .insertBackup server ownerId =>
      unlessRaised outside.raises world
        (world.addJob ⟨.backup, db.backupJobs.freshKey⟩ server.id (insertBackup server ownerId db),
          db.backupJobs.freshKey)
  | .insertRestore server backup user payload =>
      unlessRaised outside.raises world
        (world.addJob ⟨.restore, db.restoreJobs.freshKey⟩ server.id
            (insertRestore server backup user payload db),
          db.restoreJobs.freshKey)
  | .loadBackupJob jobId => (world, loadBackupJob jobId db)
  | .loadRestoreJob jobId => (world, loadRestoreJob jobId db)
  | .acquire job =>
      unlessRaised outside.raises world (acquireLock store outside.redisUp job world, ())
  | .release job => unlessRaised outside.raises world (releaseLock store job world, ())
  | .findOther job =>
      match jobRow db job with
      | none => (world, true)
      | some (serverId, _) =>
          if otherActive db job.kind serverId then (world, true)
          else (world.changeJob job JobState.pass, false)
  | .setBackupStatus jobId status =>
      unlessRaised outside.raises world
        ({ world.changeJob ⟨.backup, jobId⟩ (JobState.reach status.activeJob) with
            db := setBackupStatus jobId status db },
          ())
  | .setRestoreStatus jobId status =>
      unlessRaised outside.raises world
        ({ world.changeJob ⟨.restore, jobId⟩ (JobState.reach status.activeJob) with
            db := setRestoreStatus jobId status db },
          ())
  | .work => unlessRaised outside.raises world (world, ())
  | .probe => (world, outside.holds)
  | .count => (world, outside.count)

/-- Every action takes place some time after the one before. -/
def jobMachine (store : LeaseStore Uuid JobRef Locks)
    : Machine JobAction JobAnswer JobOutside (JobWorld Locks) :=
  fun action outside world =>
    performJobAction store action outside { world with clock := world.clock + outside.elapsed }

abbrev JobProgram (Result : Type) := Program JobAction JobAnswer JobRaised Result

def ask (action : JobAction) : JobProgram (JobAnswer action) := Program.perform action

def raising {Result : Type} : Except JobRaised Result → JobProgram Result
  | .error failure => throw failure
  | .ok result => pure result

def refusing {Result : Type} : Except HttpError Result → JobProgram Result
  | .error error => throw (.http error)
  | .ok result => pure result

-- Worker threads

/-- Steps that touch neither the database nor the lock, and may raise. -/
def work : JobProgram Unit := do raising (← ask .work)

def commitBackup (jobId : Uuid) (status : BackupStatus) : JobProgram Unit := do
  raising (← ask (.setBackupStatus jobId status))

def commitRestore (jobId : Uuid) (status : RestoreStatus) : JobProgram Unit := do
  raising (← ask (.setRestoreStatus jobId status))

/-- `with server_backup_restore_lock(server.id)`: the lock is given back before an exception goes
on to its handler.
-/
def withLock (job : JobRef) (body : JobProgram Unit) : JobProgram Unit := do
  raising (← ask (.acquire job))
  tryCatch body (fun failure => do
    raising (← ask (.release job))
    throw failure)
  raising (← ask (.release job))

/-- One update of the progress for each file. -/
def archiveFiles (jobId : Uuid) : Nat → JobProgram Unit
  | 0 => pure ()
  | files + 1 => do
      work
      commitBackup jobId .compressing
      archiveFiles jobId files

def backupSteps (jobId : Uuid) : JobProgram Unit := do
  commitBackup jobId .running
  work
  if ← ask .probe then commitBackup jobId .heldSaves else work
  commitBackup jobId .compressing
  work
  archiveFiles jobId (← ask .count)
  work
  commitBackup jobId .verifying
  work
  commitBackup jobId .completed
  work

def runBackupJob (jobId : Uuid) : JobProgram Unit := do
  match ← ask (.loadBackupJob jobId) with
  | none => pure ()
  | some _ =>
      tryCatch
        (withLock ⟨.backup, jobId⟩ (do
          if ← ask (.findOther ⟨.backup, jobId⟩) then
            throw (.failed ⟨"restore_active", "A restore is already active for this server"⟩)
          backupSteps jobId))
        (fun _ => do
          work
          commitBackup jobId .failed)

def restoreStages (jobId : Uuid) : List RestoreStatus → JobProgram Unit
  | [] => pure ()
  | status :: rest => do
      commitRestore jobId status
      work
      restoreStages jobId rest

def restoreStatuses (restart : Bool) : List RestoreStatus :=
  [.running, .validatingBackup, .stoppingServer, .extracting, .validatingRestore, .swapping]
    ++ (if restart then [.startingServer] else [])
    ++ [.completed]

/-- The world that was moved away comes back after the lock has been given back. -/
def runRestoreJob (jobId : Uuid) : JobProgram Unit := do
  match ← ask (.loadRestoreJob jobId) with
  | none => pure ()
  | some job =>
      tryCatch
        (withLock ⟨.restore, jobId⟩ (do
          if ← ask (.findOther ⟨.restore, jobId⟩) then
            throw (.failed ⟨"backup_active", "A backup is already active for this server"⟩)
          restoreStages jobId (restoreStatuses job.restartAfterRestore)))
        (fun _ => do
          let rolledBack ← ask .probe
          commitRestore jobId (if rolledBack then .rolledBack else .failed)
          work)

-- Requests and the scheduler

/-- `create_backup` and the job that it submits. An active backup, or an earlier one with the key
of the request, is returned instead.
-/
def createBackup (user : User) (serverId : String) : JobProgram Unit := do
  let server ← refusing (← ask (.requireServer user serverId))
  if ← ask (.activeRestore server.id) then
    throw (.http ⟨409, "Restore already active for this server"⟩)
  if ← ask (.activeBackup server.id) then pure ()
  else if ← ask .probe then pure ()
  else do
    work
    runBackupJob (← raising (← ask (.insertBackup server user.id)))

/-- `create_restore` and the job that it submits. -/
def createRestore (user : User) (serverId : String) (payload : CreateRestoreRequest)
    : JobProgram Unit := do
  let (server, backup) ← refusing (← ask (.restoreSource user serverId payload))
  work
  if ← ask (.activeBackup server.id) then
    throw (.http ⟨409, "Backup already active for this server"⟩)
  if ← ask (.activeRestore server.id) then
    throw (.http ⟨409, "Restore already active for this server"⟩)
  work
  runRestoreJob (← raising (← ask (.insertRestore server backup user payload)))

/-- A due schedule, and the job that it submits: restores are not looked at. -/
def dispatchSchedule (serverId ownerId : Uuid) (deferIfJobActive : Bool) : JobProgram Unit := do
  match ← ask (.loadServer serverId) with
  | none => pure ()
  | some server => do
      let skip ← ask .probe
      let defer ← if deferIfJobActive then ask (.activeBackup server.id) else pure false
      if skip || defer then pure ()
      else runBackupJob (← raising (← ask (.insertBackup server ownerId)))

/-- The programs that may take turns. -/
inductive JobHandler : JobProgram Unit → Prop where
  | backup (user : User) (serverId : String) : JobHandler (createBackup user serverId)
  | restore (user : User) (serverId : String) (payload : CreateRestoreRequest)
      : JobHandler (createRestore user serverId payload)
  | schedule (serverId ownerId : Uuid) (deferIfJobActive : Bool)
      : JobHandler (dispatchSchedule serverId ownerId deferIfJobActive)

abbrev JobPool (Locks : Type) := Pool JobAction JobAnswer JobRaised (JobWorld Locks)

end Blockhost.Jobs
