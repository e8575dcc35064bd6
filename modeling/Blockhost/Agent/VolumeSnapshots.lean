import Blockhost.Api.Schemas
import Blockhost.Database.Identifiers
import Blockhost.Library.Result
import Mathlib.Logic.Function.Basic

/-! Snapshots of the volumes of deployments: packed and uploaded, downloaded and unpacked. The
restore imports a name that the storage module does not define.
-/

namespace Blockhost.VolumeSnapshots

open Library

variable {Content Archive : Type}

inductive ItemKind where
  | file
  | link
  | directory
  | special
deriving DecidableEq, Repr

/-- An item of a directory, with all that is below it. -/
structure Item (Content : Type) where
  name : String
  kind : ItemKind
  content : Content
deriving DecidableEq, Repr

def Plain (items : List (Item Content)) : Prop :=
  ∀ item ∈ items, item.kind = .file ∨ item.kind = .directory

/-- `tar`: unpacking into an empty directory gives back the files and directories packed. -/
structure Tar (Content Archive : Type) where
  pack : List (Item Content) → Archive
  unpack : Archive → List (Item Content) → List (Item Content)
  unpack_pack : ∀ items, Plain items → unpack (pack items) [] = items

/-- The volumes on a node, under the names of their directories, and the objects in storage. -/
structure AgentNode (Content Archive : Type) where
  volumes : String → Option (List (Item Content))
  objects : String → Option Archive

def AgentNode.changeVolume (node : AgentNode Content Archive) (deploymentId : String)
    (change : List (Item Content) → List (Item Content))
    : AgentNode Content Archive :=
  { node with
    volumes := Function.update node.volumes deploymentId
      ((node.volumes deploymentId).map change) }

/-- `dep_dir.mkdir(parents=True, exist_ok=True)` -/
def AgentNode.makeVolume (node : AgentNode Content Archive) (deploymentId : String)
    : AgentNode Content Archive :=
  { node with
    volumes := Function.update node.volumes deploymentId
      (some ((node.volumes deploymentId).getD [])) }

-- Snapshots

/-- What the calls of a snapshot meet with; `inside` says that the directory of the volume lies
below that of all deployments.
-/
structure SnapshotCalls where
  inside : Bool := true
  tarFails : Bool := false
  configured : Bool := true
  uploadFails : Bool := false

def createDeploymentVolumeSnapshot (tar : Tar Content Archive) (calls : SnapshotCalls)
    (deploymentId s3Key : String)
    : EStateM HttpError (AgentNode Content Archive) Unit :=
  fun node =>
    match parseUuid deploymentId, node.volumes deploymentId, calls.inside with
    | none, _, _ => .error ⟨400, "Invalid server ID format"⟩ node
    | some _, some items, true =>
        if calls.tarFails then .error ⟨500, "Failed to create snapshot archive"⟩ node
        else if !calls.configured || calls.uploadFails then
          .error ⟨500, "Failed to upload snapshot to S3"⟩ node
        else
          .ok ()
            { node with
              objects := Function.update node.objects s3Key (some (tar.pack items)) }
    | _, _, _ => .error ⟨404, "Volume directory not found"⟩ node

-- Restores

/-- The names that `s3_storage` defines. -/
def s3StorageNames : List String :=
  ["annotations", "logging", "os", "lru_cache", "boto3", "BotoConfig", "ClientError", "logger",
    "_env", "get_s3_client", "is_s3_configured", "require_s3_configured", "get_bucket_name",
    "s3_key_for_server", "upload_file_to_s3", "download_file_from_s3", "s3_key_exists",
    "delete_s3_object", "delete_migration_snapshot", "list_s3_objects"]

/-- What the calls of a restore meet with. A removal that raises may leave a part of its item,
an extraction that fails leaves what it leaves.
-/
structure RestoreCalls (Content : Type) where
  inside : Bool := true
  mkdirFails : Bool := false
  presignFails : Bool := false
  downloadFails : Bool := false
  removal : Item Content → Option (Option (Item Content)) := fun _ => none
  extraction : Option (List (Item Content) → List (Item Content)) := none

def removeItem (calls : RestoreCalls Content) (deploymentId : String) (item : Item Content)
    : EStateM String (AgentNode Content Archive) Unit := do
  modify (·.changeVolume deploymentId (List.filter (·.name ≠ item.name)))
  match calls.removal item with
  | none => pure ()
  | some left =>
      modify (·.changeVolume deploymentId (left.toList ++ ·))
      throw ("cannot remove " ++ item.name)

/-- The items of the volume, one after the other; what is no file, link or directory stays. -/
def clearItems (calls : RestoreCalls Content) (deploymentId : String)
    : List (Item Content) → EStateM String (AgentNode Content Archive) Unit
  | [] => pure ()
  | item :: items => do
      onlyIf (item.kind ≠ .special) (removeItem calls deploymentId item)
      clearItems calls deploymentId items

/-- The body of the restore: the volume is cleared before the archive is unpacked. -/
def restoreArchive (tar : Tar Content Archive) (calls : RestoreCalls Content)
    (deploymentId s3Key : String)
    : EStateM String (AgentNode Content Archive) Unit := do
  refuse (calls.presignFails || calls.downloadFails) "download failed"
  let node ← get
  match node.objects s3Key with
  | none => throw "HTTP Error 404: Not Found"
  | some archive =>
      clearItems calls deploymentId ((node.volumes deploymentId).getD [])
      match calls.extraction with
      | none => modify (·.changeVolume deploymentId (tar.unpack archive))
      | some leaves =>
          modify (·.changeVolume deploymentId leaves)
          throw "tar failed"

/-- `exports` are the names that can be imported from `s3_storage`. -/
def restoreDeploymentVolumeSnapshot (tar : Tar Content Archive) (exports : List String)
    (calls : RestoreCalls Content) (deploymentId s3Key : String)
    : EStateM HttpError (AgentNode Content Archive) Unit :=
  fun node =>
    if (parseUuid deploymentId).isNone then .error ⟨400, "Invalid server ID format"⟩ node
    else if !calls.inside then .error ⟨403, "Path traversal detected"⟩ node
    else if calls.mkdirFails then .error ⟨500, "Internal Server Error"⟩ node
    else if "get_s3_presigned_url" ∉ exports then
      .error ⟨500, "Internal Server Error"⟩ (node.makeVolume deploymentId)
    else
      match restoreArchive tar calls deploymentId s3Key (node.makeVolume deploymentId) with
      | .ok _ next => .ok () next
      | .error _ next => .error ⟨500, "Failed to restore volume snapshot"⟩ next

-- What the calls do to a volume

namespace AgentNode

variable (node : AgentNode Content Archive) (deploymentId : String)

@[simp] theorem makeVolume_volume
    : (node.makeVolume deploymentId).volumes deploymentId
      = some ((node.volumes deploymentId).getD []) :=
  Function.update_self ..

end AgentNode

variable {tar : Tar Content Archive} {calls : RestoreCalls Content}
variable {deploymentId s3Key : String} {node : AgentNode Content Archive}

-- Round trips

/-- A snapshot was taken, its object is still there, and the restore gives the volume back. -/
def GivesBack (tar : Tar Content Archive) (exports : List String) (snapshot : SnapshotCalls)
    (calls : RestoreCalls Content) (deploymentId s3Key : String)
    (start node : AgentNode Content Archive)
    : Prop :=
  ∃ stored after, createDeploymentVolumeSnapshot tar snapshot deploymentId s3Key start
      = .ok () stored
    ∧ node.objects s3Key = stored.objects s3Key
    ∧ restoreDeploymentVolumeSnapshot tar exports calls deploymentId s3Key node = .ok () after
    ∧ after.volumes deploymentId = start.volumes deploymentId

/-- A restore that answers with an error leaves the volume as it was. -/
def LeavesVolume (tar : Tar Content Archive) (exports : List String)
    (calls : RestoreCalls Content) (deploymentId s3Key : String)
    (node : AgentNode Content Archive)
    : Prop :=
  ∀ failure after, restoreDeploymentVolumeSnapshot tar exports calls deploymentId s3Key node
      = .error failure after
    → after.volumes deploymentId = node.volumes deploymentId

/-- A request that gets as far as the import. -/
def Admitted (calls : RestoreCalls Content) (deploymentId : String) : Bool :=
  (parseUuid deploymentId).isSome && calls.inside && !calls.mkdirFails

theorem restore_fails (tar : Tar Content Archive) (calls : RestoreCalls Content)
    (deploymentId s3Key : String) (node : AgentNode Content Archive)
    : ∃ failure, restoreDeploymentVolumeSnapshot tar s3StorageNames calls deploymentId s3Key node
      = .error failure
        (if Admitted calls deploymentId then node.makeVolume deploymentId else node) := by
  have missing : "get_s3_presigned_url" ∉ s3StorageNames := by decide
  unfold restoreDeploymentVolumeSnapshot Admitted
  cases parseUuid deploymentId with
  | none => exact ⟨_, rfl⟩
  | some id =>
      cases calls.inside with
      | false => exact ⟨_, rfl⟩
      | true =>
          cases calls.mkdirFails with
          | true => exact ⟨_, rfl⟩
          | false =>
              simp only [missing]
              exact ⟨_, rfl⟩

/-- No restore gives a snapshot back. Its error leaves the volume as it was, unless it creates
the empty directory of a volume that was not there.
-/
theorem volume_restore_never_gives_back (tar : Tar Content Archive) (snapshot : SnapshotCalls)
    (calls : RestoreCalls Content) (deploymentId s3Key : String)
    (start node : AgentNode Content Archive)
    : ¬ GivesBack tar s3StorageNames snapshot calls deploymentId s3Key start node
      ∧ (LeavesVolume tar s3StorageNames calls deploymentId s3Key node
        ↔ (Admitted calls deploymentId → (node.volumes deploymentId).isSome)) := by
  obtain ⟨failure, failed⟩ := restore_fails tar calls deploymentId s3Key node
  refine ⟨?_, ?_⟩
  · rintro ⟨stored, after, _, _, done, _⟩
    cases failed.symm.trans done
  · have only : LeavesVolume tar s3StorageNames calls deploymentId s3Key node
        ↔ (if Admitted calls deploymentId then node.makeVolume deploymentId else node).volumes
            deploymentId
          = node.volumes deploymentId := by
      constructor
      · exact fun leaves => leaves _ _ failed
      · intro same other after ended
        cases failed.symm.trans ended
        exact same
    rw [only]
    split_ifs with admitted
    · rw [AgentNode.makeVolume_volume]
      cases node.volumes deploymentId with
      | none => simp [admitted]
      | some items => simp
    · simp [admitted]

def plainTar : Tar String (List (Item String)) where
  pack := id
  unpack archive _ := archive
  unpack_pack _ _ := rfl

def snapshotVolume : String := "00000000-0000-0000-0000-000000000001"

def snapshotNode : AgentNode String (List (Item String)) where
  volumes name := if name = snapshotVolume then some [⟨"data.db", .file, "rows"⟩] else none
  objects _ := none

/-- Nothing fails, and the snapshot that was just taken cannot be restored. -/
theorem restore_of_snapshot_fails
    : ∃ stored failure after,
      createDeploymentVolumeSnapshot plainTar {} snapshotVolume "snapshots/1" snapshotNode
        = .ok () stored
      ∧ restoreDeploymentVolumeSnapshot plainTar s3StorageNames {} snapshotVolume "snapshots/1"
          stored
        = .error failure after := by
  obtain ⟨id, valid⟩ : ∃ id, parseUuid snapshotVolume = some id :=
    Option.isSome_iff_exists.mp (by decide +kernel)
  have written : createDeploymentVolumeSnapshot plainTar {} snapshotVolume "snapshots/1"
      snapshotNode
      = .ok ()
        { snapshotNode with
          objects := Function.update snapshotNode.objects "snapshots/1"
            (some [⟨"data.db", .file, "rows"⟩]) } := by
    unfold createDeploymentVolumeSnapshot
    rw [valid]
    rfl
  obtain ⟨failure, failed⟩ := restore_fails plainTar {} snapshotVolume "snapshots/1"
    { snapshotNode with
      objects := Function.update snapshotNode.objects "snapshots/1"
        (some [⟨"data.db", .file, "rows"⟩]) }
  exact ⟨_, failure, _, written, failed⟩

end Blockhost.VolumeSnapshots
