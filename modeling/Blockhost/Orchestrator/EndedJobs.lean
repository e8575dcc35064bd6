import Blockhost.Orchestrator.EndedBackups
import Blockhost.Orchestrator.EndedRestores

/-! Jobs that a worker takes, and when they end. An active job locks its server out of later
backups and restores.
-/

namespace Blockhost.JobRuns

open Library

variable {World Content : Type}

/-- An active backup job with its rows, and all that its run learns from outside. -/
structure TakenBackup where
  db : Database
  artifacts : Artifacts
  input : BackupInput
  job : BackupJob
  backup : Backup
  server : Server
  jobFound : db.backupJobs.get? job.id = some job
  backupFound : db.backups.get? job.backupId = some backup
  serverFound : db.servers.get? job.serverId = some server
  active : job.status.activeJob = true

structure TakenRestore (World Content : Type) where
  db : Database
  files : RestoreRuns.ServerFiles World Content
  input : RestoreRuns.RestoreInput World Content
  job : RestoreJob
  backup : Backup
  server : Server
  jobFound : db.restoreJobs.get? job.id = some job
  backupFound : db.backups.get? job.backupId = some backup
  serverFound : db.servers.get? job.serverId = some server
  active : job.status.activeJob = true

inductive TakenJob (World Content : Type) where
  | backup (taken : TakenBackup)
  | restore (taken : TakenRestore World Content)

namespace TakenBackup

variable (taken : TakenBackup)

def task : BackupTask :=
  { taken.input with
    job := taken.job
    backup := taken.backup
    server := taken.server }

def outcome : JobOutcome :=
  runBackupJob taken.input taken.job.id taken.db taken.artifacts

theorem outcome_db
    : taken.outcome.db
      = (finalState (backupRun taken.task
          { work := { committed := taken.db }, artifacts := taken.artifacts })).work.committed
      := by
  unfold outcome runBackupJob
  rw [taken.jobFound]
  dsimp only
  rw [taken.backupFound, taken.serverFound]
  rfl

theorem ends_iff
    : JobMeets taken.job.id EndedBackupJob taken.outcome.db ↔ BackupEnds taken.task := by
  rw [outcome_db]
  exact backupRun_ends_iff ⟨rfl, rfl, taken.job, taken.jobFound, taken.active⟩ rfl

end TakenBackup

namespace TakenRestore

variable (taken : TakenRestore World Content)

def task : RestoreRuns.RestoreTask World Content :=
  { taken.input with
    job := taken.job
    backup := taken.backup
    server := taken.server }

def outcome : RestoreRuns.JobOutcome World Content :=
  RestoreRuns.runRestoreJob taken.input taken.job.id taken.db taken.files

theorem outcome_db
    : taken.outcome.db
      = (finalState (RestoreRuns.restoreRun taken.task
          ⟨{ committed := taken.db }, { files := taken.files }⟩)).work.committed := by
  unfold outcome RestoreRuns.runRestoreJob
  rw [taken.jobFound]
  dsimp only
  rw [taken.backupFound, taken.serverFound]
  rfl

theorem ends_iff
    : RestoreRuns.JobMeets taken.job.id RestoreRuns.EndedRestoreJob taken.outcome.db
      ↔ RestoreRuns.RestoreEnds taken.task := by
  rw [outcome_db]
  exact RestoreRuns.restoreRun_ends_iff ⟨rfl, rfl⟩ ⟨taken.job, taken.jobFound, taken.active⟩

end TakenRestore

/-- The job is left in a terminal status, with its error unless it is completed. -/
def TakenJob.Ends : TakenJob World Content → Prop
  | .backup taken => JobMeets taken.job.id EndedBackupJob taken.outcome.db
  | .restore taken =>
      RestoreRuns.JobMeets taken.job.id RestoreRuns.EndedRestoreJob taken.outcome.db

def TakenJob.Recordable : TakenJob World Content → Prop
  | .backup taken => BackupEnds taken.task
  | .restore taken => RestoreRuns.RestoreEnds taken.task

/-- A job ends exactly when it comes to its completion or its failure can be recorded. -/
theorem taken_job_ends_iff (taken : TakenJob World Content) : taken.Ends ↔ taken.Recordable := by
  cases taken with
  | backup taken => exact taken.ends_iff
  | restore taken => exact taken.ends_iff

-- A job that does not end

private def nightlyBackup : Backup where
  id := 31
  serverId := 7
  ownerId := 1
  worldName := "overworld"

private def nightlyJob : BackupJob where
  id := 41
  backupId := 31
  serverId := 7

private def busyServer : Server where
  id := 7
  nodeId := some 3
  ownerId := 1
  worldName := "overworld"
  lastActivity := 0

/-- A member of the world cannot be read, and then the server cannot be started again. -/
private def lostRestart : TakenBackup where
  db :=
    { backupJobs := ⟨[nightlyJob], by decide⟩
      backups := ⟨[nightlyBackup], by decide⟩
      servers := ⟨[busyServer], by decide⟩ }
  artifacts _ _ := {}
  input :=
    { running := true
      sha256 _ := "0"
      faults step :=
        if step = .addMember 0 then some { text := "Input/output error" }
        else if step = .restartServer then some { text := "Agent request failed" }
        else none }
  job := nightlyJob
  backup := nightlyBackup
  server := busyServer
  jobFound := rfl
  backupFound := rfl
  serverFound := rfl
  active := rfl

/-- The handler reads the name of an exception that is already gone, and leaves the job in the
status `compressing`.
-/
theorem lost_restart_leaves_job_active : ¬ ∀ taken : TakenJob Unit Unit, taken.Ends := by
  intro all
  obtain ⟨job, found, ended⟩ := all (.backup lostRestart)
  have stored : lostRestart.outcome.db.backupJobs.get? lostRestart.job.id
      = some
          { nightlyJob with status := .compressing, phase := "compressing", attempts := 1 } :=
    rfl
  cases found.symm.trans stored
  cases ended.inactive

end Blockhost.JobRuns
