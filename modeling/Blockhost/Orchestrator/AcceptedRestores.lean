import Blockhost.Orchestrator.JobPrograms
import Blockhost.Orchestrator.RetentionPasses

/-! Restores that have been accepted, while backups are deleted. The requests, the restore jobs,
the deletions and the retentions go on in threads of their own, a call or a commit at a time; a
deletion or a retention picks its backups with its first read and never looks again.
-/

namespace Blockhost.AcceptedRestores

open Library JobRuns

-- Threads

/-- How the files of the storage are read. -/
structure StorageFormat where
  functions : ArtifactFunctions
  root : String
  /-- The content of a checksum file. -/
  checksumFile : String → Bytes

/-- The files of a backup as its verification finds them. -/
def StorageFormat.storage (format : StorageFormat) (backup : Backup) (stored : StoredArtifact)
    : BackupStorage where
  root := format.root
  files path :=
    if path = backupObjectPath format.root backup.serverId backup.id then stored.archive
    else if path = backupObjectPath format.root backup.serverId backup.id ++ ".sha256" then
      stored.checksum.map format.checksumFile
    else none

/-- The checks of a restore request after it has read the row of the backup. -/
inductive RestoreCheck where
  | artifact
  | backups
  | restores
  | disk
deriving DecidableEq, Repr

def restoreChecks : List RestoreCheck := [.artifact, .backups, .restores, .disk]

def RestoreCheck.Passes (format : StorageFormat) (stored : StoredBackups) (server : Server)
    (backup : Backup)
    : RestoreCheck → Prop
  | .artifact =>
      ∃ path, verifyBackupArtifact format.functions
          (format.storage backup (stored.artifacts backup.serverId backup.id)) backup
        = .ok path
  | .backups => activeBackup stored.db server.id = none
  | .restores => activeRestore stored.db server.id = none
  | .disk => True

/-- A request or a job under way, with what it still has to do: a restore request its checks, a
restore job the statuses that it commits, a deletion and a retention their steps. A retention
marks the rows in its session only, up to its commit.
-/
inductive Thread where
  | accepting (server : Server) (backup : Backup) (user : User)
      (payload : CreateRestoreRequest) (checks : List RestoreCheck)
  | restoring (jobId serverId backupId : Uuid) (statuses : List RestoreStatus)
  | deleting (deletion : Deletion) (server : Server) (backup : Backup)
      (steps : List DeletionStep)
  | retaining (task : BackupTask) (excess : List Backup) (marks : Database → Database)
      (steps : List BackupStep)
  | ended

def Thread.picked : Thread → List Uuid
  | .deleting _ _ backup _ => [backup.id]
  | .retaining _ excess _ _ => excess.map Backup.id
  | _ => []

def Thread.restores : Thread → Option (Uuid × Uuid)
  | .accepting _ backup _ _ _ => some (backup.serverId, backup.id)
  | .restoring _ serverId backupId (_ :: _) => some (serverId, backupId)
  | _ => none

def Thread.Verified : Thread → Prop
  | .accepting _ _ _ _ checks => .artifact ∉ checks
  | _ => True

def performDeletion (deletion : Deletion) (server : Server) (backup : Backup)
    (step : DeletionStep) (stored : StoredBackups)
    : StoredBackups :=
  let reached := (deletionMeaning deletion server backup).effect step
    ⟨{ committed := stored.db }, stored.artifacts⟩
  ⟨reached.work.committed, reached.vars⟩

/-- The session of a retention within a step. -/
def sessionOf (stored : StoredBackups) (marks : Database → Database) : BackupState where
  work := { committed := stored.db, changes := marks }
  artifacts := stored.artifacts

/-- A thread takes a step, or something raises and ends it. -/
inductive ThreadStep (format : StorageFormat)
    : StoredBackups → Thread → StoredBackups → Thread → Prop where
  | check {stored : StoredBackups} {server : Server} {backup : Backup} {user : User}
      {payload : CreateRestoreRequest} {check : RestoreCheck} {rest : List RestoreCheck}
      (passes : check.Passes format stored server backup)
      : ThreadStep format stored (.accepting server backup user payload (check :: rest)) stored
          (.accepting server backup user payload rest)
  | insert {stored : StoredBackups} {server : Server} {backup : Backup} {user : User}
      {payload : CreateRestoreRequest}
      : ThreadStep format stored (.accepting server backup user payload [])
          ⟨Jobs.insertRestore server backup user payload stored.db, stored.artifacts⟩
          (.restoring stored.db.restoreJobs.freshKey server.id backup.id
            (Jobs.restoreStatuses payload.restartAfterRestore))
  | commitStatus {stored : StoredBackups} {jobId serverId backupId : Uuid}
      {status : RestoreStatus} {rest : List RestoreStatus}
      : ThreadStep format stored (.restoring jobId serverId backupId (status :: rest))
          ⟨Jobs.setRestoreStatus jobId status stored.db, stored.artifacts⟩
          (.restoring jobId serverId backupId rest)
  | delete {stored : StoredBackups} {deletion : Deletion} {server : Server} {backup : Backup}
      {step : DeletionStep} {rest : List DeletionStep}
      : ThreadStep format stored (.deleting deletion server backup (step :: rest))
          (performDeletion deletion server backup step stored)
          (.deleting deletion server backup rest)
  | retain {stored : StoredBackups} {task : BackupTask} {excess : List Backup}
      {marks : Database → Database} {step : BackupStep} {rest : List BackupStep}
      : ThreadStep format stored (.retaining task excess marks (step :: rest))
          (task.effect step (sessionOf stored marks)).kept
          (.retaining task excess (task.effect step (sessionOf stored marks)).work.changes rest)
  | failRestore {stored : StoredBackups} {jobId serverId backupId : Uuid}
      {statuses : List RestoreStatus} {status : RestoreStatus}
      (ends : status = .failed ∨ status = .rolledBack)
      : ThreadStep format stored (.restoring jobId serverId backupId statuses)
          ⟨Jobs.setRestoreStatus jobId status stored.db, stored.artifacts⟩ .ended
  | raise {stored : StoredBackups} {thread : Thread}
      : ThreadStep format stored thread stored .ended

-- Interleavings

structure World where
  stored : StoredBackups
  threads : List Thread := []

/-- A request comes in, a retention begins after a backup, a backup is completed, a thread goes
on, or something else happens.
-/
inductive Turn where
  | createRestore (user : User) (serverId : String) (payload : CreateRestoreRequest)
  | deleteBackup (deletion : Deletion)
  | applyRetentionNow (input : BackupInput) (user : User) (serverId : String)
  | retainAfter (task : BackupTask) (retentionCount : Option Int)
  | completeBackup (task : BackupTask)
  | advance (index : Nat)
  | other

def World.start (world : World) (thread : Thread) : World :=
  { world with threads := world.threads ++ [thread] }

/-- A retention that has made its query. -/
def beginRetention (task : BackupTask) (retentionCount : Option Int) (db : Database) : Thread :=
  .retaining task (excessBackups task retentionCount db) id
    (retentionSteps task retentionCount db)

/-- What a backup job leaves when it is completed. -/
def completed (task : BackupTask) (stored : StoredBackups) : StoredBackups where
  db := completeRows task stored.db
  artifacts := stored.artifacts.change task.server.id task.backup.id (fun files =>
    { files with archive := some task.archive, checksum := some (task.sha256 task.archive) })

/-- Every turn but that of a thread is one read or commit. All else leaves restores and files
alone, and the status of every backup.
-/
inductive Step (format : StorageFormat) : World → Turn → World → Prop where
  | createRestore {world : World} {user : User} {serverId : String}
      {payload : CreateRestoreRequest} {server : Server} {backup : Backup}
      (found : Jobs.restoreSource world.stored.db user serverId payload = .ok (server, backup))
      : Step format world (.createRestore user serverId payload)
          (world.start (.accepting server backup user payload restoreChecks))
  | deleteBackup {world : World} {deletion : Deletion} {server : Server} {backup : Backup}
      (found : deletion.target world.stored.db = .ok (server, backup))
      : Step format world (.deleteBackup deletion)
          (world.start (.deleting deletion server backup deletionSteps))
  | applyRetentionNow {world : World} {input : BackupInput} {user : User} {serverId : String}
      {server : Server} (found : requireServer serverId user world.stored.db = .ok server)
      : Step format world (.applyRetentionNow input user serverId)
          (world.start (beginRetention (retentionTask input server) none world.stored.db))
  | retainAfter {world : World} {task : BackupTask} {retentionCount : Option Int}
      : Step format world (.retainAfter task retentionCount)
          (world.start (beginRetention task retentionCount world.stored.db))
  | completeBackup {world : World} {task : BackupTask}
      : Step format world (.completeBackup task)
          { world with stored := completed task world.stored }
  | advance {world : World} {index : Nat} {thread next : Thread} {stored : StoredBackups}
      (turn : world.threads[index]? = some thread)
      (taken : ThreadStep format world.stored thread stored next)
      : Step format world (.advance index) ⟨stored, world.threads.set index next⟩
  | other {world : World} {stored : StoredBackups}
      (restoreJobs : stored.db.restoreJobs = world.stored.db.restoreJobs)
      (artifacts : stored.artifacts = world.stored.artifacts)
      (backups
        : ∀ id backup, world.stored.db.backups.get? id = some backup
          → ∃ row, stored.db.backups.get? id = some row ∧ row.status = backup.status)
      : Step format world .other { world with stored }

-- Backups in use

/-- The row of a backup is there and not marked deleted. -/
def Unmarked (stored : StoredBackups) (backupId : Uuid) : Prop :=
  ∃ row, stored.db.backups.get? backupId = some row ∧ row.status ≠ .deleted

def Archived (stored : StoredBackups) (serverId backupId : Uuid) : Prop :=
  (stored.artifacts serverId backupId).archive.isSome

/-- The backup of every restore job in an active status has its archive and is not marked. -/
def RestoresIntact (stored : StoredBackups) : Prop :=
  ∀ job ∈ stored.db.restoreJobs.rows, job.status.activeJob = true
    → Archived stored job.serverId job.backupId ∧ Unmarked stored job.backupId

/-- A backup that a restore request has read, or that a restore job under way or in an active
status names.
-/
def World.InUse (world : World) (backupId : Uuid) : Prop :=
  (∃ thread ∈ world.threads, ∃ serverId, thread.restores = some (serverId, backupId))
  ∨ ∃ job ∈ world.stored.db.restoreJobs.rows,
    job.status.activeJob = true ∧ job.backupId = backupId

/-- A backup that a deletion or a retention under way has picked. -/
def World.Picked (world : World) (backupId : Uuid) : Prop :=
  ∃ thread ∈ world.threads, backupId ∈ thread.picked

def Careful (world : World) : Turn → Prop
  | .createRestore user serverId payload =>
      ∀ server backup,
        Jobs.restoreSource world.stored.db user serverId payload = .ok (server, backup)
        → ¬ world.Picked backup.id
  | .deleteBackup deletion =>
      ∀ server backup, deletion.target world.stored.db = .ok (server, backup)
        → ¬ world.InUse backup.id
  | .applyRetentionNow input user serverId =>
      ∀ server, requireServer serverId user world.stored.db = .ok server
        → ∀ backup ∈ excessBackups (retentionTask input server) none world.stored.db,
          ¬ world.InUse backup.id
  | .retainAfter task retentionCount =>
      ∀ backup ∈ excessBackups task retentionCount world.stored.db, ¬ world.InUse backup.id
  | .completeBackup _ | .advance _ | .other => True

def CarefulStep (format : StorageFormat) (before : World) (turn : Turn) (after : World) : Prop :=
  Step format before turn after ∧ Careful before turn

-- Threads and rows

/-- What a thread holds agrees with the rows, and it touches only what it has picked. -/
def Thread.Fits (db : Database) : Thread → Prop
  | .accepting server backup _ _ _ => backup.serverId = server.id
  | .restoring jobId serverId backupId _ =>
      ∃ job, db.restoreJobs.get? jobId = some job
        ∧ job.serverId = serverId ∧ job.backupId = backupId
  | .retaining _ excess marks steps =>
      MarksOnly (excess.map Backup.id) marks
      ∧ ∀ step ∈ steps, RemovalStep (excess.map Backup.id) step
  | _ => True

/-- A backup loses neither its row nor its archive. -/
structure Spares (before after : StoredBackups) (backupId : Uuid) : Prop where
  row : Unmarked before backupId → Unmarked after backupId
  archive : ∀ serverId, Archived before serverId backupId → Archived after serverId backupId

theorem Spares.of_touches {picked : List Uuid} {before after : StoredBackups} {backupId : Uuid}
    (touches : TouchesOnly picked before after) (other : backupId ∉ picked)
    : Spares before after backupId where
  row := by
    unfold Unmarked
    rw [touches.rows backupId other]
    exact id
  archive serverId := by
    unfold Archived
    rw [touches.files serverId backupId other]
    exact id

theorem Spares.refl (stored : StoredBackups) (backupId : Uuid) : Spares stored stored backupId :=
  ⟨id, fun _ => id⟩

/-- The invariant of careful interleavings. -/
structure Sound (world : World) : Prop where
  fits : ∀ thread ∈ world.threads, thread.Fits world.stored.db
  restores
    : ∀ thread ∈ world.threads, ∀ serverId backupId,
      thread.restores = some (serverId, backupId)
      → Unmarked world.stored backupId
        ∧ (thread.Verified → Archived world.stored serverId backupId)
  active : RestoresIntact world.stored
  apart : ∀ backupId, world.InUse backupId → ¬ world.Picked backupId

/-- What a step of a thread leaves to the others and to itself. -/
structure Advances (world : World) (thread next : Thread) (stored : StoredBackups) : Prop where
  fits : next.Fits stored.db
  others : ∀ other : Thread, other.Fits world.stored.db → other.Fits stored.db
  picks : ∀ backupId ∈ next.picked, backupId ∈ thread.picked
  restores
    : ∀ serverId backupId, next.restores = some (serverId, backupId)
      → thread.restores = some (serverId, backupId)
        ∧ (next.Verified → thread.Verified ∨ Archived stored serverId backupId)
  jobs
    : ∀ job ∈ stored.db.restoreJobs.rows, job.status.activeJob = true
      → (∃ old ∈ world.stored.db.restoreJobs.rows, old.status.activeJob = true
          ∧ old.serverId = job.serverId ∧ old.backupId = job.backupId)
        ∨ thread.restores = some (job.serverId, job.backupId) ∧ thread.Verified
  spares : ∀ backupId, world.InUse backupId → Spares world.stored stored backupId

/-- A thread's step keeps the invariant. -/
theorem Sound.advance {world : World} {index : Nat} {thread next : Thread}
    {stored : StoredBackups} (sound : Sound world) (turn : world.threads[index]? = some thread)
    (advances : Advances world thread next stored)
    : Sound ⟨stored, world.threads.set index next⟩ := by
  have acting : thread ∈ world.threads := List.mem_of_getElem? turn
  have used {backupId : Uuid}
      (uses : World.InUse ⟨stored, world.threads.set index next⟩ backupId)
      : world.InUse backupId := by
    rcases uses with ⟨other, member, serverId, restores⟩ | ⟨job, member, active, rfl⟩
    · rcases List.mem_or_eq_of_mem_set member with old | rfl
      · exact .inl ⟨other, old, serverId, restores⟩
      · exact .inl ⟨thread, acting, serverId, (advances.restores _ _ restores).1⟩
    · rcases advances.jobs job member active with ⟨old, stored, wasActive, _, same⟩ | ⟨own, _⟩
      · exact .inr ⟨old, stored, wasActive, same⟩
      · exact .inl ⟨thread, acting, job.serverId, own⟩
  refine ⟨?_, ?_, ?_, ?_⟩
  · intro other member
    rcases List.mem_or_eq_of_mem_set member with old | rfl
    · exact advances.others other (sound.fits other old)
    · exact advances.fits
  · intro other member serverId backupId restores
    have spares := advances.spares backupId (used (.inl ⟨other, member, serverId, restores⟩))
    rcases List.mem_or_eq_of_mem_set member with old | rfl
    · obtain ⟨unmarked, archived⟩ := sound.restores other old serverId backupId restores
      exact ⟨spares.row unmarked, fun verified => spares.archive serverId (archived verified)⟩
    · obtain ⟨own, verifies⟩ := advances.restores serverId backupId restores
      obtain ⟨unmarked, archived⟩ := sound.restores thread acting serverId backupId own
      refine ⟨spares.row unmarked, ?_⟩
      intro verified
      rcases verifies verified with before | now
      · exact spares.archive serverId (archived before)
      · exact now
  · intro job member active
    have spares := advances.spares job.backupId (used (.inr ⟨job, member, active, rfl⟩))
    rcases advances.jobs job member active with ⟨old, stored, wasActive, server, same⟩ | own
    · obtain ⟨archived, unmarked⟩ := sound.active old stored wasActive
      rw [server, same] at archived
      rw [same] at unmarked
      exact ⟨spares.archive _ archived, spares.row unmarked⟩
    · obtain ⟨unmarked, archived⟩ := sound.restores thread acting _ _ own.1
      exact ⟨spares.archive _ (archived own.2), spares.row unmarked⟩
  · rintro backupId uses ⟨other, member, picked⟩
    refine sound.apart backupId (used uses) ?_
    rcases List.mem_or_eq_of_mem_set member with old | rfl
    · exact ⟨other, old, picked⟩
    · exact ⟨thread, acting, advances.picks backupId picked⟩

-- Steps of threads

variable {format : StorageFormat} {stored : StoredBackups}

theorem archived_of_verified {server : Server} {backup : Backup}
    (passes : RestoreCheck.artifact.Passes format stored server backup)
    : Archived stored backup.serverId backup.id := by
  obtain ⟨path, verified⟩ := passes
  unfold Archived
  cases found : (stored.artifacts backup.serverId backup.id).archive with
  | some archive => rfl
  | none => simp [verifyBackupArtifact, StorageFormat.storage, found] at verified

theorem Thread.Fits.kept {before after : Database} {thread : Thread} (fits : thread.Fits before)
    (kept
      : ∀ id job, before.restoreJobs.get? id = some job
        → ∃ row, after.restoreJobs.get? id = some row
          ∧ row.serverId = job.serverId ∧ row.backupId = job.backupId)
    : thread.Fits after := by
  cases thread with
  | restoring jobId serverId backupId statuses =>
      obtain ⟨job, found, server, backup⟩ := fits
      obtain ⟨row, there, sameServer, sameBackup⟩ := kept jobId job found
      exact ⟨row, there, sameServer.trans server, sameBackup.trans backup⟩
  | accepting | deleting | retaining | ended => exact fits

theorem insertRestore_kept (server : Server) (backup : Backup) (user : User)
    (payload : CreateRestoreRequest) (db : Database) (id : Uuid) (job : RestoreJob)
    (found : db.restoreJobs.get? id = some job)
    : ∃ row, (Jobs.insertRestore server backup user payload db).restoreJobs.get? id = some row
      ∧ row.serverId = job.serverId ∧ row.backupId = job.backupId := by
  have differs : id ≠ db.restoreJobs.freshKey := by
    rintro rfl
    rw [Table.get?_freshKey] at found
    cases found
  exact ⟨job, (Table.get?_create _ _ _).trans ((if_neg differs).trans found), rfl, rfl⟩

theorem setRestoreStatus_kept (jobId : Uuid) (status : RestoreStatus) (db : Database)
    (id : Uuid) (job : RestoreJob) (found : db.restoreJobs.get? id = some job)
    : ∃ row, (Jobs.setRestoreStatus jobId status db).restoreJobs.get? id = some row
      ∧ row.serverId = job.serverId ∧ row.backupId = job.backupId := by
  unfold Jobs.setRestoreStatus
  rw [Table.get?_modify, found]
  split
  · exact ⟨_, rfl, rfl, rfl⟩
  · exact ⟨job, rfl, rfl, rfl⟩

theorem of_setRestoreStatus {jobId : Uuid} {status : RestoreStatus} {db : Database}
    {job : RestoreJob} (member : job ∈ (Jobs.setRestoreStatus jobId status db).restoreJobs.rows)
    : job ∈ db.restoreJobs.rows
      ∨ job.status = status ∧ ∃ old, db.restoreJobs.get? jobId = some old
        ∧ job.serverId = old.serverId ∧ job.backupId = old.backupId := by
  obtain ⟨old, known, _, ⟨same, rfl⟩ | ⟨_, rfl⟩⟩ := Table.of_mem_modify member
  · exact .inr ⟨rfl, old, same ▸ Table.get?_of_mem known, rfl, rfl⟩
  · exact .inl known

theorem performDeletion_touches (deletion : Deletion) (server : Server) (backup : Backup)
    (step : DeletionStep) (stored : StoredBackups)
    : TouchesOnly [backup.id] stored (performDeletion deletion server backup step stored) := by
  have own : backup.id ∈ [backup.id] := List.mem_cons_self
  cases step with
  | removeArchive => exact .change_files own (fun files => { files with archive := none }) stored
  | removeChecksum =>
      exact .change_files own (fun files => { files with checksum := none }) stored
  | removeTemp => exact .change_files own (fun files => { files with temporary := none }) stored
  | removeObjectDir | removeServerDir => exact .refl stored
  | commit => exact .change_row own (deleteBackupRow deletion.now) stored

theorem ThreadStep.advances {world : World} {thread next : Thread} (sound : Sound world)
    (member : thread ∈ world.threads)
    (taken : ThreadStep format world.stored thread stored next)
    : Advances world thread next stored := by
  have fits := sound.fits thread member
  have old {job : RestoreJob} (known : job ∈ world.stored.db.restoreJobs.rows)
      (active : job.status.activeJob = true)
      : ∃ old ∈ world.stored.db.restoreJobs.rows, old.status.activeJob = true
        ∧ old.serverId = job.serverId ∧ old.backupId = job.backupId :=
    ⟨job, known, active, rfl, rfl⟩
  have unpicked {backupId : Uuid} (uses : world.InUse backupId) : backupId ∉ thread.picked :=
    fun picked => sound.apart backupId uses ⟨thread, member, picked⟩
  cases taken with
  | @check server backup user payload check rest passes =>
      refine ⟨fits, fun _ => id, fun _ => id, ?_,
        fun job known active => .inl (old known active), fun _ _ => .refl _ _⟩
      intro serverId backupId restores
      cases restores
      refine ⟨rfl, ?_⟩
      intro verified
      by_cases artifact : check = .artifact
      · subst artifact
        exact .inr (archived_of_verified passes)
      · exact .inl (List.not_mem_cons_of_ne_of_not_mem (Ne.symm artifact) verified)
  | @insert server backup user payload =>
      have own : backup.serverId = server.id := fits
      refine ⟨?_, ?_, fun _ => id, ?_, ?_, fun _ _ => ⟨id, fun _ => id⟩⟩
      · exact ⟨_, (Table.get?_create _ _ _).trans (if_pos rfl), rfl, rfl⟩
      · exact fun other before => before.kept (insertRestore_kept server backup user payload _)
      · intro serverId backupId restores
        cases restores
        exact ⟨by rw [Thread.restores, own], fun _ => .inl List.not_mem_nil⟩
      · intro job known active
        rcases List.mem_append.mp known with before | new
        · exact .inl (old before active)
        · cases List.mem_singleton.mp new
          exact .inr ⟨by rw [Thread.restores, own]; rfl, List.not_mem_nil⟩
  | @commitStatus jobId serverId backupId status rest =>
      refine ⟨?_, ?_, fun _ => id, ?_, ?_, fun _ _ => ⟨id, fun _ => id⟩⟩
      · exact fits.kept (setRestoreStatus_kept jobId status _)
      · exact fun other before => before.kept (setRestoreStatus_kept jobId status _)
      · intro server backup restores
        cases rest with
        | nil => cases restores
        | cons => exact ⟨restores, fun _ => .inl trivial⟩
      · intro job known active
        rcases of_setRestoreStatus known with before | ⟨_, row, found, server, backup⟩
        · exact .inl (old before active)
        · obtain ⟨job, there, rfl, rfl⟩ := fits
          cases there.symm.trans found
          exact .inr ⟨by rw [Thread.restores, server, backup], trivial⟩
  | @failRestore jobId serverId backupId statuses status ends =>
      refine ⟨trivial, ?_, nofun, nofun, ?_, fun _ _ => ⟨id, fun _ => id⟩⟩
      · exact fun other before => before.kept (setRestoreStatus_kept jobId status _)
      · intro job known active
        rcases of_setRestoreStatus known with before | ⟨same, _⟩
        · exact .inl (old before active)
        · rw [same] at active
          rcases ends with rfl | rfl <;> cases active
  | @delete deletion server backup step rest =>
      have touches : TouchesOnly [backup.id] world.stored
          (performDeletion deletion server backup step world.stored) :=
        performDeletion_touches deletion server backup step world.stored
      refine ⟨trivial, ?_, fun _ => id, nofun, ?_, ?_⟩
      · exact fun other before => before.kept fun id job found =>
          ⟨job, touches.restores ▸ found, rfl, rfl⟩
      · exact fun job known active => .inl (old (touches.restores ▸ known) active)
      · exact fun backupId uses => .of_touches touches (unpicked uses)
  | @retain task excess marks step rest =>
      obtain ⟨marked, removals⟩ := fits
      obtain ⟨removal, later⟩ := List.forall_mem_cons.mp removals
      have session : MarksOnly (excess.map Backup.id)
          (sessionOf world.stored marks).work.changes :=
        marked
      obtain ⟨touches, marks⟩ := removal.touches task session
      refine ⟨⟨marks, later⟩, ?_, fun _ => id, nofun, ?_, ?_⟩
      · exact fun other before => before.kept fun id job found =>
          ⟨job, touches.restores ▸ found, rfl, rfl⟩
      · exact fun job known active => .inl (old (touches.restores ▸ known) active)
      · exact fun backupId uses => .of_touches touches (unpicked uses)
  | raise =>
      exact ⟨trivial, fun _ => id, nofun, nofun,
        fun job known active => .inl (old known active), fun _ _ => .refl _ _⟩

-- Interleavings that spare restores

theorem Sound.start {world : World} {thread : Thread} (sound : Sound world)
    (fits : thread.Fits world.stored.db)
    (restores
      : ∀ serverId backupId, thread.restores = some (serverId, backupId)
        → Unmarked world.stored backupId
          ∧ (thread.Verified → Archived world.stored serverId backupId)
          ∧ ¬ world.Picked backupId ∧ thread.picked = [])
    (picks : ∀ backupId ∈ thread.picked, ¬ world.InUse backupId)
    : Sound (world.start thread) := by
  refine ⟨?_, ?_, sound.active, ?_⟩
  · exact List.forall_mem_append.mpr ⟨sound.fits, List.forall_mem_singleton.mpr fits⟩
  · refine List.forall_mem_append.mpr ⟨sound.restores, List.forall_mem_singleton.mpr ?_⟩
    intro serverId backupId uses
    obtain ⟨unmarked, archived, _⟩ := restores serverId backupId uses
    exact ⟨unmarked, archived⟩
  · rintro backupId uses ⟨picker, member, picked⟩
    have used : world.InUse backupId
        ∨ ∃ serverId, thread.restores = some (serverId, backupId) := by
      rcases uses with ⟨user, known, serverId, uses⟩ | active
      · rcases List.mem_append.mp known with old | new
        · exact .inl (.inl ⟨user, old, serverId, uses⟩)
        · cases List.mem_singleton.mp new
          exact .inr ⟨serverId, uses⟩
      · exact .inl (.inr active)
    rcases List.mem_append.mp member with old | new
    · rcases used with before | ⟨serverId, uses⟩
      · exact sound.apart backupId before ⟨picker, old, picked⟩
      · exact (restores serverId backupId uses).2.2.1 ⟨picker, old, picked⟩
    · cases List.mem_singleton.mp new
      rcases used with before | ⟨serverId, uses⟩
      · exact picks backupId picked before
      · rw [(restores serverId backupId uses).2.2.2] at picked
        cases picked

theorem Sound.spared {world : World} (sound : Sound world)
    (restoreJobs : stored.db.restoreJobs = world.stored.db.restoreJobs)
    (spares : ∀ backupId, Spares world.stored stored backupId)
    : Sound { world with stored } := by
  have used {backupId : Uuid} (uses : World.InUse { world with stored } backupId)
      : world.InUse backupId := by
    rcases uses with thread | ⟨job, member, active⟩
    · exact .inl thread
    · exact .inr ⟨job, restoreJobs ▸ member, active⟩
  refine ⟨?_, ?_, ?_, fun backupId uses => sound.apart backupId (used uses)⟩
  · exact fun thread member => (sound.fits thread member).kept fun id job found =>
      ⟨job, restoreJobs ▸ found, rfl, rfl⟩
  · intro thread member serverId backupId uses
    obtain ⟨unmarked, archived⟩ := sound.restores thread member serverId backupId uses
    exact ⟨(spares backupId).row unmarked,
      fun verified => (spares backupId).archive serverId (archived verified)⟩
  · intro job member active
    obtain ⟨archived, unmarked⟩ := sound.active job (restoreJobs ▸ member) active
    exact ⟨(spares job.backupId).archive _ archived, (spares job.backupId).row unmarked⟩

theorem spares_completed (task : BackupTask) (stored : StoredBackups) (backupId : Uuid)
    : Spares stored (completed task stored) backupId where
  row := by
    rintro ⟨row, found, unmarked⟩
    have after := Table.get?_modify stored.db.backups task.backup.id backupId
      (completeBackup task.now (backupStorageKey task.server.id task.backup.id)
        (task.sha256 task.archive) task.archive.length)
    rw [found] at after
    by_cases own : backupId = task.backup.id
    · rw [if_pos own] at after
      exact ⟨_, after, nofun⟩
    · rw [if_neg own] at after
      exact ⟨row, after, unmarked⟩
  archive serverId kept := by
    unfold Archived completed Artifacts.change
    dsimp only
    split
    · rfl
    · exact kept

theorem restoreSource_ok {db : Database} {user : User} {serverId : String}
    {payload : CreateRestoreRequest} {server : Server} {backup : Backup}
    (found : Jobs.restoreSource db user serverId payload = .ok (server, backup))
    : backup.serverId = server.id ∧ backup.status = .completed
      ∧ db.backups.get? backup.id = some backup := by
  unfold Jobs.restoreSource at found
  split at found
  · cases found
  · obtain ⟨someServer, _, found⟩ := except_bind_ok found
    obtain ⟨someBackup, required, found⟩ := except_bind_ok found
    obtain ⟨row, own⟩ := requireBackup_ok required
    split at found
    · cases found
    · rename_i completed
      cases found
      exact ⟨own, not_not.mp completed, row⟩

theorem Step.kept {before after : World} {turn : Turn}
    (taken : CarefulStep format before turn after) (sound : Sound before)
    : Sound after := by
  obtain ⟨step, careful⟩ := taken
  have begins {task : BackupTask} {retentionCount : Option Int}
      (free : ∀ backup ∈ excessBackups task retentionCount before.stored.db,
        ¬ before.InUse backup.id)
      : Sound (before.start (beginRetention task retentionCount before.stored.db)) := by
    refine sound.start ⟨marksOnly_id _, fun step => mem_retentionSteps⟩ nofun ?_
    intro backupId picked
    obtain ⟨backup, excess, rfl⟩ := List.mem_map.mp picked
    exact free backup excess
  cases step with
  | @createRestore user serverId payload server backup found =>
      obtain ⟨own, completed, row⟩ := restoreSource_ok found
      refine sound.start own ?_ nofun
      intro serverId backupId uses
      cases uses
      refine ⟨⟨backup, row, by rw [completed]; nofun⟩, ?_, careful server backup found, rfl⟩
      exact fun verified => absurd List.mem_cons_self verified
  | @deleteBackup deletion server backup found =>
      refine sound.start trivial nofun ?_
      intro backupId picked
      cases List.mem_singleton.mp picked
      exact careful server backup found
  | @applyRetentionNow input user serverId server found => exact begins (careful server found)
  | retainAfter => exact begins careful
  | completeBackup => exact sound.spared rfl (spares_completed _ _)
  | advance turn taken =>
      exact sound.advance turn (taken.advances sound (List.mem_of_getElem? turn))
  | other restoreJobs artifacts backups =>
      refine sound.spared restoreJobs fun backupId => ⟨?_, ?_⟩
      · rintro ⟨row, found, unmarked⟩
        obtain ⟨after, there, same⟩ := backups backupId row found
        exact ⟨after, there, same ▸ unmarked⟩
      · unfold Archived
        rw [artifacts]
        exact fun _ => id

/-- Where deletions and retentions pick no backup in use, and no request reads a picked one,
every restore job in an active status has its backup, and every retention keeps the newest ones.
-/
theorem careful_removals_spare_restores {start finish : World} {turns : List Turn}
    (fresh : start.threads = []) (intact : RestoresIntact start.stored)
    (run : Run (CarefulStep format) start turns finish)
    : RestoresIntact finish.stored
      ∧ ∀ task retentionCount, RetainsNewest task retentionCount finish.stored := by
  have initial : Sound start := by
    refine ⟨?_, ?_, intact, ?_⟩
    · rw [fresh]
      exact List.forall_mem_nil _
    · rw [fresh]
      exact List.forall_mem_nil _
    · rintro backupId _ ⟨thread, member, _⟩
      rw [fresh] at member
      cases member
  have sound : Sound finish :=
    run.invariant Sound (fun _ => True) (fun _ taken => Step.kept taken) (fun _ _ => trivial)
      initial
  exact ⟨sound.active, fun task retentionCount => retainsNewest task retentionCount _⟩

/-- Files of a backup whose archive is a single byte. -/
def byteFormat : StorageFormat where
  functions :=
    { sha256 := fun _ => "4bf5122f344554c53bde2ebb8cd2b7e3d1600ad631c385a5d7cce23c7785459a"
      strippedText := fun content => String.ofList (content.map fun byte => .ofNat byte.toNat) }
  root := "/backups"
  checksumFile text := text.toList.map fun letter => .ofNat letter.toNat

def restorableServer : Server where
  id := 0
  nodeId := some 1
  ownerId := 7
  worldName := "lobby"
  lastActivity := 0

def restorableBackup : Backup where
  id := 5
  serverId := 0
  ownerId := 7
  status := .completed
  worldName := "lobby"
  checksumSha256 := some "4bf5122f344554c53bde2ebb8cd2b7e3d1600ad631c385a5d7cce23c7785459a"
  sizeBytes := 1

def restorable : StoredBackups where
  db :=
    { servers := ⟨[restorableServer], by simp⟩
      backups := ⟨[restorableBackup], by simp⟩ }
  artifacts _ _ :=
    { archive := some [1]
      checksum := some "4bf5122f344554c53bde2ebb8cd2b7e3d1600ad631c385a5d7cce23c7785459a" }

def restorableOwner : User where
  id := 7
  email := "owner@host"
  authHash := ""
  nickname := "owner"

def restoreRequest : CreateRestoreRequest where
  backupId := 5
  confirm := "RESTORE"

def backupDeletion : Deletion where
  user := restorableOwner
  serverId := uuidText 0
  backupId := uuidText 5

def accepted : World where
  stored :=
    ⟨Jobs.insertRestore restorableServer restorableBackup restorableOwner restoreRequest
        restorable.db,
      restorable.artifacts⟩
  threads := [.restoring 0 0 5 (Jobs.restoreStatuses true)]

theorem accepts
    : Run (CarefulStep byteFormat) ⟨restorable, []⟩
        [.createRestore restorableOwner (uuidText 0) restoreRequest, .advance 0, .advance 0,
          .advance 0, .advance 0, .advance 0]
        accepted := by
  have found : Jobs.restoreSource restorable.db restorableOwner (uuidText 0) restoreRequest
      = .ok (restorableServer, restorableBackup) := by
    decide +kernel
  have verified : verifyBackupArtifact byteFormat.functions
      (byteFormat.storage restorableBackup (restorable.artifacts 0 5)) restorableBackup
      = .ok (backupObjectPath "/backups" 0 5) := by
    decide +kernel
  refine .cons ⟨.createRestore found, ?_⟩ ?_
  · rintro _ _ _ ⟨_, member, _⟩
    cases member
  · refine .cons ⟨.advance rfl (.check ⟨_, verified⟩), trivial⟩ ?_
    refine .cons ⟨.advance rfl (.check rfl), trivial⟩ ?_
    refine .cons ⟨.advance rfl (.check rfl), trivial⟩ ?_
    refine .cons ⟨.advance rfl (.check trivial), trivial⟩ ?_
    exact .cons ⟨.advance rfl .insert, trivial⟩ .done

/-- A retention on request, while the restore of the only backup waits. -/
theorem waiting_restore_spared
    : RestoresIntact accepted.stored
      ∧ ∃ job ∈ accepted.stored.db.restoreJobs.rows,
        job.backupId = 5 ∧ job.status.activeJob = true := by
  have found : requireServer (uuidText 0) restorableOwner accepted.stored.db
      = .ok restorableServer := by
    decide +kernel
  let task := retentionTask { sha256 := byteFormat.functions.sha256 } restorableServer
  have nothing : excessBackups task none accepted.stored.db = [] := by decide +kernel
  have retention : Run (CarefulStep byteFormat) accepted
      [.applyRetentionNow { sha256 := byteFormat.functions.sha256 } restorableOwner (uuidText 0),
        .advance 1]
      ⟨accepted.stored,
        accepted.threads
          ++ [.retaining task (excessBackups task none accepted.stored.db) id []]⟩ := by
    refine .cons ⟨.applyRetentionNow found, ?_⟩ (.single ⟨.advance rfl .retain, trivial⟩)
    intro server required backup excess
    cases found.symm.trans required
    rw [nothing] at excess
    cases excess
  have nobody : RestoresIntact restorable := List.forall_mem_nil _
  exact ⟨(careful_removals_spare_restores rfl nobody (accepts.append retention)).1,
    _, List.mem_cons_self, rfl, rfl⟩

/-- The deletion of a completed backup does not look for restore jobs. -/
theorem deletion_breaks_accepted_restore
    : ¬ ∀ (format : StorageFormat) (start finish : World) (turns : List Turn),
      start.threads = [] → RestoresIntact start.stored → Run (Step format) start turns finish
      → RestoresIntact finish.stored := by
  intro always
  have found : backupDeletion.target accepted.stored.db
      = .ok (restorableServer, restorableBackup) := by
    decide +kernel
  have accepting : Run (Step byteFormat) ⟨restorable, []⟩ _ accepted :=
    accepts.map id fun _ _ _ taken => taken.1
  have deletion : Run (Step byteFormat) accepted [.deleteBackup backupDeletion, .advance 1] _ :=
    .cons (.deleteBackup found) (.single (.advance rfl .delete))
  have nobody : RestoresIntact restorable := List.forall_mem_nil _
  have intact := always byteFormat _ _ _ rfl nobody (accepting.append deletion)
  obtain ⟨archived, _⟩ := intact _ List.mem_cons_self rfl
  cases archived

end Blockhost.AcceptedRestores
