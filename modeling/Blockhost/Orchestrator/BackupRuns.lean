import Blockhost.Library.Faults
import Blockhost.Orchestrator.BackupPaths
import Mathlib.Data.List.Sort

/-! A single run of `run_backup_job` with the calls in it that may raise: those of the storage,
of the archive, of the agent and of the database. A commit that fails leaves a session that
refuses everything up to a rollback, which the job never asks for.
-/

namespace Blockhost.JobRuns

open Library

/-- What the handlers of the jobs read of an exception. -/
structure JobException where
  code : Option String := none
  message : Option String := none
  text : String
deriving DecidableEq, Repr

def restoreError (error : BackupRestoreError) : JobException :=
  ⟨some error.code, some error.message, error.message⟩

/-- What a session raises after a failed commit. -/
def pendingRollback : JobException where
  text := "This Session's transaction has been rolled back due to a previous exception"

-- Storage

/-- The archive of a backup, its checksum file, and the archive while it is written. -/
structure StoredArtifact where
  archive : Option Bytes := none
  checksum : Option String := none
  temporary : Option Bytes := none

abbrev Artifacts := Uuid → Uuid → StoredArtifact

def Artifacts.change (serverId backupId : Uuid) (f : StoredArtifact → StoredArtifact)
    (artifacts : Artifacts)
    : Artifacts :=
  fun server backup =>
    if server = serverId ∧ backup = backupId then f (artifacts server backup)
    else artifacts server backup

-- Steps

inductive BackupCommit where
  | running
  | measured
  | heldSaves
  | stopped
  | compressing
  | progress (member : Nat)
  | restarted
  | described
  | verifying
  | completed
  | schedule
  | retention
  | failed
deriving DecidableEq, Repr

/-- The calls of a backup job that may raise. -/
inductive BackupStep where
  | lock
  | unlock
  | findRestore
  | serverDir
  | diskUsage
  | collect
  | askRunning
  | holdSaves
  | resumeSaves
  | stopServer
  | startServer
  | restartServer
  | objectDir
  | clearTemp
  | checkContents
  | openArchive
  | addMember (member : Nat)
  | closeArchive
  | hashTemp
  | moveArchive
  | writeChecksum
  | verifyArtifact
  | removeArchive (backupId : Uuid)
  | removeChecksum (backupId : Uuid)
  | dropTemp
  | dropArchive
  | dropChecksum
  | commit (place : BackupCommit)
deriving DecidableEq, Repr

def BackupStep.isCommit : BackupStep → Bool
  | .commit _ => true
  | _ => false

/-- What a run learns from outside. `members` are the members of the archive in order, each with
whether it is a file, after which the progress is stored; `archive` is what they make up.
-/
structure BackupInput where
  now : Instant := 0
  restoreActive : Bool := false
  running : Bool := false
  holds : Bool := false
  members : List Bool := [false, true]
  archive : Bytes := [1]
  sha256 : Bytes → String
  backupRetentionCount : Int := 7
  faults : BackupStep → Option JobException := fun _ => none

/-- A job with its rows as they are loaded at the start. -/
structure BackupTask extends BackupInput where
  job : BackupJob
  backup : Backup
  server : Server

def BackupTask.raises (task : BackupTask) (step : BackupStep) : Option JobException :=
  match step, task.faults step with
  | .holdSaves, _ | .resumeSaves, _ => none
  | _, some failure => some failure
  | _, none =>
      match step with
      | .findRestore =>
          if task.restoreActive then
            some (restoreError
              ⟨"restore_active", "A restore is already active for this server"⟩)
          else none
      | .checkContents =>
          if task.members = [] then
            some (restoreError ⟨"invalid_backup_contents", "Backup contents are empty"⟩)
          else none
      | .hashTemp =>
          if task.archive = [] then
            some (restoreError ⟨"backup_temp_empty", "Backup archive is empty"⟩)
          else none
      | _ => none

/-- The session, the storage, and the variables that the handlers read. -/
structure BackupState where
  work : UnitOfWork Database
  artifacts : Artifacts
  saveHeld : Bool := false
  stoppedForBackup : Bool := false
  tempArchive : Bool := false
  finalArchive : Bool := false
  completed : Bool := false
  statusKnown : Bool := false

abbrev BackupM := EStateM JobException BackupState

def load : BackupM Unit := fun state =>
  if state.work.usable then .ok () state else .error pendingRollback state

def changeDb (f : Database → Database) : BackupM Unit := fun state =>
  .ok () { state with work := state.work.change f }

def commit (task : BackupTask) (place : BackupCommit) : BackupM Unit := fun state =>
  if state.work.usable then
    match task.raises (.commit place) with
    | some failure => .error failure { state with work := state.work.spoil }
    | none => .ok () { state with work := state.work.flush }
  else .error pendingRollback state

def perform (task : BackupTask) (step : BackupStep) : BackupM Unit :=
  attempt task.raises step id

def store (task : BackupTask) (step : BackupStep) (f : StoredArtifact → StoredArtifact)
    : BackupM Unit :=
  attempt task.raises step (fun state =>
    { state with artifacts := state.artifacts.change task.server.id task.backup.id f })

-- Rows

def setJobPhase (status : BackupStatus) (phase : String) : Change BackupJob.id where
  apply job := { job with status, phase }

def changeBackupJob (jobId : Uuid) (change : Change BackupJob.id) (db : Database) : Database :=
  { db with backupJobs := db.backupJobs.modify jobId change }

def changeBackup (backupId : Uuid) (change : Change Backup.id) (db : Database) : Database :=
  { db with backups := db.backups.modify backupId change }

def changeSchedule (scheduleId : Uuid) (change : Change BackupSchedule.id) (db : Database)
    : Database :=
  { db with backupSchedules := db.backupSchedules.modify scheduleId change }

def startJob : Change BackupJob.id where
  apply job := { job with status := .running, phase := "running", attempts := job.attempts + 1 }

def completeJob (now : Instant) : Change BackupJob.id where
  apply job := { job with status := .completed, phase := "completed", completedAt := some now }

def failJob (now : Instant) (code message : String) : Change BackupJob.id where
  apply job :=
    { job with
      status := .failed
      phase := "failed"
      errorCode := some code
      errorMessage := some message
      completedAt := some now }

def runBackup : Change Backup.id where
  apply backup := { backup with status := .running }

def describeBackup (worldName : String) : Change Backup.id where
  apply backup := { backup with worldName }

def completeBackup (now : Instant) (storageKey checksum : String) (size : Int)
    : Change Backup.id where
  apply backup :=
    { backup with
      status := .completed
      storageKey := some storageKey
      checksumSha256 := some checksum
      sizeBytes := size
      completedAt := some now
      failureCode := none
      failureMessage := none }

def failBackup (code message : String) : Change Backup.id where
  apply backup :=
    { backup with
      status := .failed
      failureCode := some code
      failureMessage := some message }

def deleteBackupRow (now : Instant) : Change Backup.id where
  apply backup := { backup with status := .deleted, deletedAt := some now }

def succeedSchedule (now : Instant) : Change BackupSchedule.id where
  apply schedule := { schedule with lastSuccessAt := some now, consecutiveFailures := 0 }

def failSchedule : Change BackupSchedule.id where
  apply schedule := { schedule with consecutiveFailures := schedule.consecutiveFailures + 1 }

-- The way to the completion

/-- `_update_backup_job` -/
def updateBackupJob (task : BackupTask) (status : BackupStatus) (phase : String)
    (place : BackupCommit)
    : BackupM Unit := do
  changeDb (changeBackupJob task.job.id (setJobPhase status phase))
  commit task place

/-- `_start_server` -/
def startServer (task : BackupTask) (step : BackupStep) : BackupM Unit := do
  load
  perform task step

/-- The saves of a running server are held, if the server can do so and may. -/
def BackupTask.holdsSaves (task : BackupTask) : Bool :=
  task.running && !task.job.forceOffline && task.holds

def quiesce (task : BackupTask) : BackupM Unit :=
  if task.holdsSaves then do
    attempt task.raises .holdSaves (fun state => { state with saveHeld := true })
    updateBackupJob task .heldSaves "held_saves" .heldSaves
  else if task.running then do
    attempt task.raises .stopServer (fun state => { state with stoppedForBackup := true })
    commit task .stopped
  else pure ()

/-- `_add_to_tar_with_progress`, from one member on. -/
def addMembers (task : BackupTask) : Nat → List Bool → BackupM Unit
  | _, [] => pure ()
  | member, isFile :: rest => do
      perform task (.addMember member)
      (if isFile then updateBackupJob task .compressing "compressing" (.progress member)
      else pure ())
      addMembers task (member + 1) rest

def unquiesce (task : BackupTask) : BackupM Unit :=
  if task.holdsSaves then
    attempt task.raises .resumeSaves (fun state => { state with saveHeld := false })
  else if task.running then do
    startServer task .startServer
    modify (fun state => { state with stoppedForBackup := false })
    commit task .restarted
  else pure ()

/-- `_commit_local_backup_artifact` -/
def commitArtifact (task : BackupTask) : BackupM Unit := do
  perform task .hashTemp
  store task .moveArchive (fun stored =>
    { stored with archive := stored.temporary, temporary := none })
  store task .writeChecksum (fun stored =>
    { stored with checksum := some (task.sha256 task.archive) })
  attempt task.raises .verifyArtifact (fun state => { state with tempArchive := false })

def completeRows (task : BackupTask) (db : Database) : Database :=
  changeBackupJob task.job.id (completeJob task.now)
    (changeBackup task.backup.id
      (completeBackup task.now (backupStorageKey task.server.id task.backup.id)
        (task.sha256 task.archive) task.archive.length) db)

def completeRun (task : BackupTask) : BackupM Unit := do
  changeDb (completeRows task)
  commit task .completed
  modify (fun state => { state with completed := true })

def makeBackup (task : BackupTask) : BackupM Unit := do
  perform task .findRestore
  changeDb (fun db =>
    changeBackup task.backup.id runBackup (changeBackupJob task.job.id startJob db))
  commit task .running
  perform task .serverDir
  perform task .diskUsage
  perform task .collect
  commit task .measured
  perform task .askRunning
  quiesce task
  updateBackupJob task .compressing "compressing" .compressing
  attempt task.raises .objectDir (fun state =>
    { state with finalArchive := true, tempArchive := true })
  store task .clearTemp (fun stored => { stored with temporary := none })
  perform task .checkContents
  store task .openArchive (fun stored => { stored with temporary := some [] })
  addMembers task 0 task.members
  store task .closeArchive (fun stored => { stored with temporary := some task.archive })
  unquiesce task
  changeDb (changeBackup task.backup.id (describeBackup (worldName task.server)))
  commit task .described
  updateBackupJob task .verifying "verifying" .verifying
  commitArtifact task
  completeRun task

-- After the completion

/-- The rows that the query of the retention finds, the newest first. -/
def retainable (serverId : Uuid) (db : Database) : List Backup :=
  (db.backups.rows.filter (fun backup =>
      backup.serverId = serverId && backup.status = .completed && backup.deletedAt.isNone
      && !backup.pinned)).insertionSort
    (fun first second => second.createdAt ≤ first.createdAt)

/-- How many backups are kept at least. -/
def keepCount (retentionCount : Option Int) (default : Int) : Int :=
  match retentionCount with
  | none | some 0 => max 1 default
  | some count => max 1 count

/-- The files of a backup go before its row is marked. -/
def removeExcess (task : BackupTask) : List Backup → BackupM Unit
  | [] => pure ()
  | backup :: rest => do
      attempt task.raises (.removeArchive backup.id) (fun state =>
        { state with
          artifacts := state.artifacts.change task.server.id backup.id
            (fun stored => { stored with archive := none }) })
      attempt task.raises (.removeChecksum backup.id) (fun state =>
        { state with
          artifacts := state.artifacts.change task.server.id backup.id
            (fun stored => { stored with checksum := none }) })
      changeDb (changeBackup backup.id (deleteBackupRow task.now))
      removeExcess task rest

/-- `apply_backup_retention` -/
def applyBackupRetention (task : BackupTask) (retentionCount : Option Int) : BackupM Unit := do
  load
  let state ← get
  let keep := keepCount retentionCount task.backupRetentionCount
  removeExcess task ((retainable task.server.id state.work.committed).drop keep.toNat)
  commit task .retention

def scheduleOf (task : BackupTask) (db : Database) : Option BackupSchedule :=
  task.backup.scheduleId.bind db.backupSchedules.get?

def afterCompletion (task : BackupTask) : BackupM Unit := do
  load
  let state ← get
  match scheduleOf task state.work.current with
  | none => applyBackupRetention task none
  | some schedule => do
      changeDb (changeSchedule schedule.id (succeedSchedule task.now))
      commit task .schedule
      applyBackupRetention task (some schedule.retentionCount)

def backupBody (task : BackupTask) : BackupM Unit := do
  makeBackup task
  afterCompletion task

-- Failures

/-- The inner handler ends with the name of the exception deleted, which the outer one reads
next.
-/
def unboundException : JobException where
  text := "cannot access local variable 'exc' where it is not associated with a value"

/-- The restart of a server that the job has stopped. -/
def recoverServer (task : BackupTask) : BackupM Unit :=
  tryCatch (startServer task .restartServer) (fun _ => do
    load
    throw unboundException)

def failRows (task : BackupTask) (failure : JobException) (db : Database) : Database :=
  let code := failure.code.getD "backup_failed"
  let message := failure.message.getD failure.text
  changeBackup task.backup.id (failBackup code message)
    (changeBackupJob task.job.id (failJob task.now code message) db)

def failScheduleOf (task : BackupTask) (db : Database) : Database :=
  match scheduleOf task db with
  | none => db
  | some schedule => changeSchedule schedule.id failSchedule db

def recordFailure (task : BackupTask) (failure : JobException) : BackupM Unit := do
  changeDb (failRows task failure)
  modify (fun state => { state with statusKnown := true })
  load
  changeDb (failScheduleOf task)
  commit task .failed

def backupFailed (task : BackupTask) (failure : JobException) : BackupM Unit := do
  let state ← get
  (if state.saveHeld then load else pure ())
  (if state.stoppedForBackup then recoverServer task else pure ())
  recordFailure task failure

def knownStatus (task : BackupTask) (state : BackupState) : Option BackupStatus :=
  (state.work.current.backups.get? task.backup.id).map Backup.status

/-- What is left of a backup that is not completed goes. -/
def dropFinal (task : BackupTask) : BackupM Unit := do
  let state ← get
  if state.finalArchive && !state.completed then do
    (if state.statusKnown then pure () else load)
    if knownStatus task state = some .completed then pure ()
    else do
      store task .dropArchive (fun stored => { stored with archive := none })
      store task .dropChecksum (fun stored => { stored with checksum := none })
  else pure ()

def backupCleanUp (task : BackupTask) : BackupM Unit := do
  let state ← get
  (if state.tempArchive
      && (state.artifacts task.server.id task.backup.id).temporary.isSome then
    store task .dropTemp (fun stored => { stored with temporary := none })
  else pure ())
  dropFinal task

/-- The job under the lock of its server. -/
def lockedBackup (task : BackupTask) : BackupM Unit := do
  perform task .lock
  closing (backupBody task) (perform task .unlock)

/-- `run_backup_job` on loaded rows. -/
def backupRun (task : BackupTask) : BackupM Unit :=
  closing (tryCatch (lockedBackup task) (backupFailed task)) (backupCleanUp task)

/-- What is committed and stored after `run_backup_job`. -/
structure JobOutcome where
  db : Database
  artifacts : Artifacts

/-- `run_backup_job` -/
def runBackupJob (input : BackupInput) (jobId : Uuid) (db : Database) (artifacts : Artifacts)
    : JobOutcome :=
  match db.backupJobs.get? jobId with
  | none => ⟨db, artifacts⟩
  | some job =>
      match db.backups.get? job.backupId, db.servers.get? job.serverId with
      | some backup, some server =>
          let task : BackupTask := { input with job, backup, server }
          let state := finalState (backupRun task { work := { committed := db }, artifacts })
          ⟨state.work.committed, state.artifacts⟩
      | _, _ => ⟨db, artifacts⟩

end Blockhost.JobRuns
