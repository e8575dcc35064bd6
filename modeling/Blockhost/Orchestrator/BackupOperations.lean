import Blockhost.Api.Restores
import Blockhost.Library.Run
import Blockhost.Library.Transactions
import Blockhost.Orchestrator.EndedBackups

/-! The retention on request and the deletion of a backup. Any step of them may raise; they leave
what is committed by then and what is stored.
-/

namespace Blockhost.JobRuns

open Library

abbrev StoredBackups := JobOutcome

-- Retention on request

/-- A retention without a job; it reads nothing of the rows that stand for it here. -/
def retentionTask (input : BackupInput) (server : Server) : BackupTask :=
  { input with
    job := { id := 0, backupId := 0, serverId := server.id }
    backup :=
      { id := 0
        serverId := server.id
        ownerId := server.ownerId
        worldName := server.worldName }
    server := server }

-- Rows and files

theorem Artifacts.change_own (serverId backupId : Uuid) (f : StoredArtifact → StoredArtifact)
    (artifacts : Artifacts)
    : artifacts.change serverId backupId f serverId backupId
      = f (artifacts serverId backupId) :=
  if_pos ⟨rfl, rfl⟩

theorem Artifacts.change_other {serverId backupId server backup : Uuid}
    (f : StoredArtifact → StoredArtifact) (artifacts : Artifacts) (other : backup ≠ backupId)
    : artifacts.change serverId backupId f server backup = artifacts server backup :=
  if_neg fun same => other same.2

def BackupState.seen (state : BackupState) : StoredBackups := ⟨state.work.current, state.artifacts⟩

def BackupState.kept (state : BackupState) : StoredBackups :=
  ⟨state.work.committed, state.artifacts⟩

theorem breaks_kept (task : BackupTask) (step : BackupStep) (state : BackupState)
    : (task.breaks step state).kept = state.kept := by
  cases step with
  | commit place => cases place <;> rfl
  | _ => rfl

-- Deletion

structure DeleteBackupRequest where
  deleteEvenIfPinned : Bool := false

inductive DeletionStep where
  | removeArchive
  | removeChecksum
  | removeTemp
  | removeObjectDir
  | removeServerDir
  | commit
deriving DecidableEq, Repr

structure Deletion where
  now : Instant := 0
  user : User
  serverId : String
  backupId : String
  payload : Option DeleteBackupRequest := none
  raises : DeletionStep → Option JobException := fun _ => none

def Deletion.target (deletion : Deletion) (db : Database) : Except HttpError (Server × Backup) := do
  let server ← requireServer deletion.serverId deletion.user db
  let backup ← requireBackup server deletion.backupId deletion.user db
  if backup.status.activeJob then .error ⟨409, "Backup job is still active"⟩
  else if backup.pinned && !deletion.payload.any DeleteBackupRequest.deleteEvenIfPinned then
    .error ⟨409, "Backup is pinned"⟩
  else .ok (server, backup)

def deletionSteps : List DeletionStep :=
  [.removeArchive, .removeChecksum, .removeTemp, .removeObjectDir, .removeServerDir, .commit]

def deletionMeaning (deletion : Deletion) (server : Server) (backup : Backup)
    : StepMeaning DeletionStep Database Artifacts where
  stores
    | .commit => some (changeBackup backup.id (deleteBackupRow deletion.now))
    | _ => none
  acts
    | .removeArchive =>
        Artifacts.change server.id backup.id (fun stored => { stored with archive := none })
    | .removeChecksum =>
        Artifacts.change server.id backup.id (fun stored => { stored with checksum := none })
    | .removeTemp =>
        Artifacts.change server.id backup.id (fun stored => { stored with temporary := none })
    | _ => id

variable {deletion : Deletion} {server : Server} {backup : Backup}

theorem requireBackup_ok {db : Database} {user : User} {backupId : String}
    (required : requireBackup server backupId user db = .ok backup)
    : db.backups.get? backup.id = some backup ∧ backup.serverId = server.id := by
  unfold requireBackup at required
  repeat' split at required
  all_goals try cases required
  rename_i backupId _ row stored owns
  simp only [Bool.and_eq_true, decide_eq_true_eq] at owns
  obtain ⟨member, _⟩ := Table.get?_some stored
  exact ⟨Table.get?_of_mem member, owns.1⟩

end Blockhost.JobRuns
