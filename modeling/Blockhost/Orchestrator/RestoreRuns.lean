import Blockhost.Library.Transactions
import Blockhost.Orchestrator.BackupJobs
import Blockhost.Orchestrator.BackupRuns

/-! A single run of `run_restore_job` with the calls in it that may raise. Of the server's
directory it has the places that the job works on: the world, the configuration files, and what
lies under `runtime/tmp` for the job.
-/

namespace Blockhost.RestoreRuns

open Library
open JobRuns (JobException restoreError pendingRollback)

variable {World Content : Type}

-- Files

structure WorldFiles (World Content : Type) where
  world : Option World := none
  configs : String → Option Content := fun _ => none

/-- The places of a restore: what is active, what the archive brought, the world that was moved
away, and the one that a failed restore left.
-/
structure ServerFiles (World Content : Type) where
  active : WorldFiles World Content
  restored : WorldFiles World Content := {}
  rollback : Option World := none
  failedRestore : Option World := none

/-- The files, and the variables that the handler reads. -/
structure RestoreVars (World Content : Type) where
  files : ServerFiles World Content
  restoreTmp : Bool := false
  rollbackWorlds : Bool := false
  activeWorlds : Bool := false
  serverWasRunning : Bool := false

def onFiles (change : ServerFiles World Content → ServerFiles World Content)
    (vars : RestoreVars World Content)
    : RestoreVars World Content :=
  { vars with files := change vars.files }

namespace ServerFiles

/-- `os.replace(active_worlds, rollback_worlds)`, when there is a world. -/
def moveAway (files : ServerFiles World Content) : ServerFiles World Content :=
  if files.active.world.isSome then
    { files with
      active := { files.active with world := none }
      rollback := files.active.world }
  else files

/-- `os.replace(restored_worlds, active_worlds)` -/
def moveIn (files : ServerFiles World Content) : ServerFiles World Content :=
  { files with
    active := { files.active with world := files.restored.world }
    restored := { files.restored with world := none } }

/-- `os.replace(rollback_worlds, active_worlds)` -/
def moveBack (files : ServerFiles World Content) : ServerFiles World Content :=
  { files with
    active := { files.active with world := files.rollback }
    rollback := none }

/-- `os.replace(active_worlds, failed_path)` -/
def setAside (files : ServerFiles World Content) : ServerFiles World Content :=
  { files with
    active := { files.active with world := none }
    failedRestore := files.active.world }

def setConfig (filename : String) (content : Option Content) (files : ServerFiles World Content)
    : ServerFiles World Content :=
  { files with
    active :=
      { files.active with configs := Function.update files.active.configs filename content } }

/-- A file is copied when the archive brought it; `left` is what then lies in its place. -/
def copyConfig (filename : String) (left : Option Content) (files : ServerFiles World Content)
    : ServerFiles World Content :=
  if (files.restored.configs filename).isSome then files.setConfig filename left else files

def configure (written : String → Option Content → Option Content)
    (files : ServerFiles World Content)
    : ServerFiles World Content :=
  { files with
    active :=
      { files.active with
        configs := fun filename => written filename (files.active.configs filename) } }

end ServerFiles

-- Steps

inductive RestoreCommit where
  | running
  | validatingBackup
  | wasRunning
  | stoppingServer
  | stopped
  | extracting
  | validatingRestore
  | rollbackPath
  | swapping
  | startingServer
  | completed
  | failed
  | restarted
deriving DecidableEq

/-- The calls of a restore job that may raise. -/
inductive RestoreStep where
  | lock
  | unlock
  | findBackup
  | checkBackup
  | verifyArtifact
  | validateMembers
  | serverDir
  | worldPath
  | askRunning
  | stopServer
  | clearTmp
  | makeTmp
  | extract
  | findRestored
  | clearRollback
  | makeRollback
  | moveAway
  | moveIn
  | undoMove
  | copyConfig (filename : String)
  | startServer
  | dropRollback
  | findRollback
  | dropFailed
  | setAside
  | moveBack
  | askStopped
  | restartServer
  | dropTmp
  | commit (place : RestoreCommit)
deriving DecidableEq

def RestoreStep.isCommit : RestoreStep → Bool
  | .commit _ => true
  | _ => false

/-- What a run learns from outside: `torn` is what a copy that raises leaves of a file, `started`
and `halfStarted` what the agent makes of the configuration files in a start that passes and in
one that raises.
-/
structure RestoreInput (World Content : Type) where
  now : Instant := 0
  backupActive : Bool := false
  running : Bool := false
  runningAfter : Bool := false
  archive : WorldFiles World Content
  torn : String → Option Content := fun _ => none
  started : String → Option Content → Option Content := fun _ => id
  halfStarted : String → Option Content → Option Content := fun _ => id
  faults : RestoreStep → Option JobException := fun _ => none

/-- A job with its rows as they are loaded at the start. -/
structure RestoreTask (World Content : Type) extends RestoreInput World Content where
  job : RestoreJob
  backup : Backup
  server : Server

def RestoreTask.raises (task : RestoreTask World Content) (step : RestoreStep)
    : Option JobException :=
  match task.faults step with
  | some failure => some failure
  | none =>
      match step with
      | .findBackup =>
          if task.backupActive then
            some (restoreError ⟨"backup_active", "A backup is already active for this server"⟩)
          else none
      | .checkBackup =>
          if task.backup.status ≠ .completed then
            some (restoreError ⟨"backup_not_completed", "Backup is not completed"⟩)
          else if task.backup.serverId ≠ task.server.id then
            some (restoreError
              ⟨"backup_server_mismatch", "Backup does not belong to this server"⟩)
          else none
      | .findRestored =>
          if task.archive.world.isNone then
            some (restoreError
              ⟨"restored_world_missing", "Extracted backup has no world directory"⟩)
          else none
      | _ => none

abbrev RestoreM (World Content : Type) :=
  EStateM JobException (Transacted Database (RestoreVars World Content))

section Operations

variable (task : RestoreTask World Content)

def load : RestoreM World Content Unit := loadRow pendingRollback

def commit (place : RestoreCommit) : RestoreM World Content Unit :=
  commitData pendingRollback task.raises (.commit place)

def act (step : RestoreStep) (change : RestoreVars World Content → RestoreVars World Content)
    : RestoreM World Content Unit :=
  actOn task.raises step change

def perform (step : RestoreStep) : RestoreM World Content Unit := act task step id

-- Rows

def changeRestoreJob (jobId : Uuid) (change : Change RestoreJob.id) (db : Database) : Database :=
  { db with restoreJobs := db.restoreJobs.modify jobId change }

def setJobPhase (status : RestoreStatus) (phase : String) : Change RestoreJob.id where
  apply job := { job with status, phase }

def startJob : Change RestoreJob.id where
  apply job := { job with status := .running, phase := "running", attempts := job.attempts + 1 }

def completeJob (now : Instant) : Change RestoreJob.id where
  apply job := { job with status := .completed, phase := "completed", completedAt := some now }

def recordError (now : Instant) (code message : String) : Change RestoreJob.id where
  apply job :=
    { job with
      errorCode := some code
      errorMessage := some message
      completedAt := some now }

-- The way to the completion

/-- `_update_restore_job` -/
def updateRestoreJob (status : RestoreStatus) (phase : String) (place : RestoreCommit)
    : RestoreM World Content Unit := do
  changeData (changeRestoreJob task.job.id (setJobPhase status phase))
  commit task place

/-- `_start_server` -/
def startServer (step : RestoreStep) : RestoreM World Content Unit := do
  load
  actTorn task.raises step (onFiles fun files => files.configure task.started)
    (onFiles fun files => files.configure task.halfStarted)

def stopServer : RestoreM World Content Unit :=
  if task.running then do
    perform task .stopServer
    commit task .stopped
  else pure ()

def checkRestore : RestoreM World Content Unit := do
  perform task .findBackup
  changeData (changeRestoreJob task.job.id startJob)
  commit task .running
  perform task .checkBackup
  updateRestoreJob task .validatingBackup "validating_backup" .validatingBackup
  perform task .verifyArtifact
  perform task .validateMembers
  perform task .serverDir
  act task .worldPath (fun vars => { vars with activeWorlds := true })
  act task .askRunning (fun vars => { vars with serverWasRunning := task.running })
  commit task .wasRunning

/-- The archive is extracted into an empty directory. -/
def stageRestore : RestoreM World Content Unit := do
  updateRestoreJob task .stoppingServer "stopping_server" .stoppingServer
  stopServer task
  setVars (fun vars => { vars with restoreTmp := true })
  act task .clearTmp (onFiles fun files => { files with restored := {} })
  perform task .makeTmp
  updateRestoreJob task .extracting "extracting" .extracting
  act task .extract (onFiles fun files => { files with restored := task.archive })
  perform task .findRestored

/-- The restored world comes into the place of the active one; a move that fails brings the old
world back.
-/
def moveIn : RestoreM World Content Unit :=
  tryCatch (act task .moveIn (onFiles ServerFiles.moveIn)) (fun failure => do
    let state ← get
    (if state.vars.files.rollback.isSome && state.vars.files.active.world.isNone then
      act task .undoMove (onFiles ServerFiles.moveBack)
    else pure ())
    throw failure)

def swapWorlds : RestoreM World Content Unit := do
  updateRestoreJob task .validatingRestore "validating_restore" .validatingRestore
  setVars (fun vars => { vars with rollbackWorlds := true })
  act task .clearRollback (onFiles fun files => { files with rollback := none })
  perform task .makeRollback
  commit task .rollbackPath
  updateRestoreJob task .swapping "swapping" .swapping
  act task .moveAway (onFiles ServerFiles.moveAway)
  moveIn task

def copyConfigs : List String → RestoreM World Content Unit
  | [] => pure ()
  | filename :: rest => do
      actTorn task.raises (.copyConfig filename)
        (onFiles fun files => files.copyConfig filename (files.restored.configs filename))
        (onFiles fun files => files.copyConfig filename (task.torn filename))
      copyConfigs rest

def restartServer : RestoreM World Content Unit :=
  if task.job.restartAfterRestore then do
    updateRestoreJob task .startingServer "starting_server" .startingServer
    startServer task .startServer
  else pure ()

def restoreBody : RestoreM World Content Unit := do
  checkRestore task
  stageRestore task
  swapWorlds task
  copyConfigs task restoredConfigFiles
  restartServer task
  changeData (changeRestoreJob task.job.id (completeJob task.now))
  commit task .completed
  act task .dropRollback (onFiles fun files => { files with rollback := none })

def lockedRestore : RestoreM World Content Unit := do
  perform task .lock
  closing (restoreBody task) (perform task .unlock)

-- Failures

/-- What lies in the world's place makes room for the world that was moved away. -/
def moveBack : RestoreM World Content Unit := do
  let state ← get
  (if state.vars.files.active.world.isSome then do
    act task .dropFailed (onFiles fun files => { files with failedRestore := none })
    act task .setAside (onFiles ServerFiles.setAside)
  else pure ())
  act task .moveBack (onFiles ServerFiles.moveBack)

def endJob (status : RestoreStatus) (phase : String) : RestoreM World Content Unit :=
  changeData (changeRestoreJob task.job.id (setJobPhase status phase))

/-- The world that was moved away comes back, if that is wanted and there is one. -/
def rollBack : RestoreM World Content Unit := do
  load
  let state ← get
  if task.job.rollbackEnabled && state.vars.activeWorlds && state.vars.rollbackWorlds then do
    perform task .findRollback
    if state.vars.files.rollback.isSome then do
      moveBack task
      endJob task .rolledBack "rolled_back"
    else endJob task .failed "failed"
  else endJob task .failed "failed"

/-- The server goes on, if the job has found it running. -/
def restartStopped : RestoreM World Content Unit := do
  let state ← get
  if state.vars.serverWasRunning then do
    load
    perform task .askStopped
    if task.runningAfter then pure ()
    else
      tryCatch (do startServer task .restartServer; commit task .restarted)
        (fun _ => load)
  else pure ()

def recordFailure (failure : JobException) (rollbackFailure : Option JobException)
    : Change RestoreJob.id :=
  let message := failure.message.getD failure.text
  match rollbackFailure with
  | none => recordError task.now (failure.code.getD "restore_failed") message
  | some other =>
      recordError task.now "rollback_failed" (message ++ "; rollback failed: " ++ other.text)

def restoreFailed (failure : JobException) : RestoreM World Content Unit := do
  let rollbackFailure ← tryCatch (do rollBack task; pure none) (fun other => do
    endJob task .failed "failed"
    pure (some other))
  changeData (changeRestoreJob task.job.id (recordFailure task failure rollbackFailure))
  commit task .failed
  restartStopped task

def restoreCleanUp : RestoreM World Content Unit := do
  let state ← get
  if state.vars.restoreTmp then
    act task .dropTmp (onFiles fun files => { files with restored := {} })
  else pure ()

/-- `run_restore_job` on loaded rows. -/
def restoreRun : RestoreM World Content Unit :=
  closing (tryCatch (lockedRestore task) (restoreFailed task)) (restoreCleanUp task)

end Operations

/-- What is committed and stored after `run_restore_job`. -/
structure JobOutcome (World Content : Type) where
  db : Database
  files : ServerFiles World Content

/-- `run_restore_job` -/
def runRestoreJob (input : RestoreInput World Content) (jobId : Uuid) (db : Database)
    (files : ServerFiles World Content)
    : JobOutcome World Content :=
  match db.restoreJobs.get? jobId with
  | none => ⟨db, files⟩
  | some job =>
      match db.backups.get? job.backupId, db.servers.get? job.serverId with
      | some backup, some server =>
          let task : RestoreTask World Content := { input with job, backup, server }
          let state := finalState (restoreRun task ⟨{ committed := db }, { files }⟩)
          ⟨state.work.committed, state.vars.files⟩
      | _, _ => ⟨db, files⟩

end Blockhost.RestoreRuns
