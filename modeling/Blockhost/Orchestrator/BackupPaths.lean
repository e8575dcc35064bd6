import Blockhost.Database.Identifiers
import Blockhost.Library.RawPath

/-! Backup archives on the control plane's disk, and the choice of the archive that a restore
job extracts.
-/

namespace Blockhost

open Library

abbrev Bytes := List UInt8

structure BackupRestoreError where
  code : String
  message : String
deriving DecidableEq, Repr

/-- The storage directory, and the contents of the files under it by path. -/
structure BackupStorage where
  root : String
  files : String → Option Bytes

/-- Digest and text functions that the verification calls. -/
structure ArtifactFunctions where
  sha256 : Bytes → String
  strippedText : Bytes → String

def backupStorageKey (serverId backupId : Uuid) : String :=
  uuidText serverId ++ "/objects/" ++ uuidText backupId ++ ".tar.gz"

def backupObjectPath (root : String) (serverId backupId : Uuid) : String :=
  root ++ "/" ++ backupStorageKey serverId backupId

/-- The path of a backup's archive, when size, checksum and checksum file fit the row. -/
def verifyBackupArtifact (functions : ArtifactFunctions) (storage : BackupStorage)
    (backup : Backup)
    : Except BackupRestoreError String :=
  let path := backupObjectPath storage.root backup.serverId backup.id
  match storage.files path with
  | none =>
      .error ⟨"backup_object_missing", "Backup archive is missing from storage"⟩
  | some content =>
      if content.length = 0 then .error ⟨"backup_object_empty", "Backup archive is empty"⟩
      else if backup.sizeBytes ≠ 0 && backup.sizeBytes ≠ content.length then
        .error ⟨"backup_object_size_mismatch", "Backup archive size does not match metadata"⟩
      else
        match backup.checksumSha256, storage.files (path ++ ".sha256") with
        | none, _ | some "", _ => .ok path
        | some expected, sidecar =>
            if functions.sha256 content ≠ expected then
              .error ⟨"checksum_mismatch", "Backup archive checksum verification failed"⟩
            else
              match sidecar with
              | none =>
                  .error ⟨"checksum_sidecar_missing", "Backup checksum sidecar is missing"⟩
              | some recorded =>
                  if functions.strippedText recorded ≠ expected then
                    .error ⟨"checksum_sidecar_mismatch",
                      "Backup checksum sidecar does not match metadata"⟩
                  else .ok path

theorem verifyBackupArtifact_ok {functions : ArtifactFunctions} {storage : BackupStorage}
    {backup : Backup} {path : String}
    (verified : verifyBackupArtifact functions storage backup = .ok path)
    : path = backupObjectPath storage.root backup.serverId backup.id := by
  unfold verifyBackupArtifact at verified
  dsimp only at verified
  repeat' split at verified
  all_goals first
    | exact (Except.ok.inj verified).symm
    | cases verified

/-- Backups that are still being made. -/
def BackupStatus.activeJob : BackupStatus → Bool
  | .pending | .running | .heldSaves | .copying | .compressing | .verifying => true
  | _ => false

/-- Restores that are still being made. -/
def RestoreStatus.activeJob : RestoreStatus → Bool
  | .pending | .running | .validatingBackup | .stoppingServer | .extracting
  | .validatingRestore | .swapping | .startingServer => true
  | _ => false

def activeBackup (db : Database) (serverId : Uuid) : Option BackupJob :=
  db.backupJobs.rows.find? (fun job => job.serverId = serverId && job.status.activeJob)

def activeRestore (db : Database) (serverId : Uuid) : Option RestoreJob :=
  db.restoreJobs.rows.find? (fun job => job.serverId = serverId && job.status.activeJob)

/-- The checks of a restore job up to the archive that it extracts; a job whose rows are gone
ends without an archive.
-/
def restoreJobArchive (functions : ArtifactFunctions) (storage : BackupStorage) (db : Database)
    (jobId : Uuid)
    : Except BackupRestoreError (Option String) :=
  match db.restoreJobs.get? jobId with
  | none => .ok none
  | some job =>
      match db.backups.get? job.backupId, db.servers.get? job.serverId with
      | some backup, some server =>
          if (activeBackup db server.id).isSome then
            .error ⟨"backup_active", "A backup is already active for this server"⟩
          else if backup.status ≠ .completed then
            .error ⟨"backup_not_completed", "Backup is not completed"⟩
          else if backup.serverId ≠ server.id then
            .error ⟨"backup_server_mismatch", "Backup does not belong to this server"⟩
          else (verifyBackupArtifact functions storage backup).map some
      | _, _ => .ok none

theorem restoreJobArchive_some {functions : ArtifactFunctions} {storage : BackupStorage}
    {db : Database} {jobId : Uuid} {path : String}
    (chosen : restoreJobArchive functions storage db jobId = .ok (some path))
    : ∃ job, db.restoreJobs.get? jobId = some job
      ∧ path = backupObjectPath storage.root job.serverId job.backupId := by
  unfold restoreJobArchive at chosen
  split at chosen
  · cases chosen
  · rename_i job found
    split at chosen
    · rename_i backup server backupFound serverFound
      repeat' split at chosen
      · cases chosen
      · cases chosen
      · cases chosen
      · rename_i same
        cases verified : verifyBackupArtifact functions storage backup with
        | error refusal =>
            rw [verified] at chosen
            cases chosen
        | ok actual =>
            rw [verified] at chosen
            cases chosen
            have backupId := (Table.get?_some backupFound).2
            have serverId := (Table.get?_some serverFound).2
            rw [not_not] at same
            refine ⟨job, found, ?_⟩
            rw [verifyBackupArtifact_ok verified, same, serverId, backupId]
    · cases chosen

end Blockhost

/-! Which paths a backup archives and which path a restore replaces. -/

namespace Blockhost

open Library

variable {Content : Type}

def isJavaFlavor (flavor : ServerFlavor) : Bool := flavor ≠ .bedrock

def requireServerDir (tree : FileTree Content) (serversRoot : Location) (server : Server)
    : Except BackupRestoreError Location :=
  match server.mcConfig.serverDir with
  | none | some "" =>
      .error ⟨"server_dir_missing", "Server directory is not configured"⟩
  | some raw =>
      let serverDir := normalizePath (pathParts raw)
      if ¬ serversRoot <+: serverDir then
        .error ⟨"invalid_server_dir",
          "Server directory is outside the configured servers root"⟩
      else if tree.exists? serverDir then .ok serverDir
      else .error ⟨"server_dir_missing", "Server directory does not exist"⟩

def worldName (server : Server) : String :=
  match server.mcConfig.levelName with
  | none | some "" => server.worldName
  | some levelName => levelName

/-- The places where a world may lie, in the order in which they are tried. -/
def worldCandidates (serverDir : RawPath) (worldName : String) (javaFlavor : Bool)
    : List RawPath :=
  (if worldName ≠ "" then [joinPath serverDir worldName] else [])
  ++ (if javaFlavor then [serverDir ++ ["world"]]
    else [joinPath (serverDir ++ ["worlds"]) worldName, serverDir ++ ["worlds"]])

def resolveExistingWorldPath (tree : FileTree Content) (serverDir : RawPath)
    (worldName : String) (javaFlavor : Bool)
    : Option RawPath :=
  (worldCandidates serverDir worldName javaFlavor).find? tree.pathExists

def javaConfigFiles : List String :=
  ["server.properties", "eula.txt", "ops.json", "banned-players.json", "banned-ips.json",
    "whitelist.json"]

def bedrockConfigFiles : List String :=
  ["server.properties", "allowlist.json", "permissions.json", "valid_known_packs.json",
    "world_behavior_packs.json", "world_resource_packs.json"]

def includedConfigFiles (tree : FileTree Content) (serverDir : RawPath) (folder : String)
    (names : List String)
    : List (RawPath × RawPath) :=
  (names.filter (fun name =>
      match tree.locate (serverDir ++ [name]) with
      | none => false
      | some location => tree.isFile location)).map
    (fun name => (serverDir ++ [name], [folder, name]))

/-- What a backup archives: the source path and the name in the archive. -/
def includedBackupPaths (tree : FileTree Content) (server : Server) (serverDir : RawPath)
    (worldName : String)
    : List (RawPath × RawPath) :=
  if isJavaFlavor server.flavor then
    (match resolveExistingWorldPath tree serverDir worldName true with
      | some worldPath => [(worldPath, ["java", "world"])]
      | none => [])
    ++ includedConfigFiles tree serverDir "java" javaConfigFiles
  else
    let worldsPath := serverDir ++ ["worlds"]
    (match resolveExistingWorldPath tree serverDir worldName false with
      | some worldPath =>
          if worldPath = worldsPath then [(worldsPath, ["bedrock", "worlds"])]
          else [(worldPath, ["bedrock", "worlds"] ++ pathParts worldName)]
      | none =>
          if tree.pathExists worldsPath then [(worldsPath, ["bedrock", "worlds"])] else [])
    ++ includedConfigFiles tree serverDir "bedrock" bedrockConfigFiles

/-- The path that a restore moves away and replaces. -/
def activeWorldPath (tree : FileTree Content) (server : Server) (serverDir : RawPath)
    : RawPath :=
  if isJavaFlavor server.flavor then
    (resolveExistingWorldPath tree serverDir (worldName server) true).getD
      (serverDir ++ ["world"])
  else
    (resolveExistingWorldPath tree serverDir (worldName server) false).getD
      (serverDir ++ ["worlds"])

end Blockhost
