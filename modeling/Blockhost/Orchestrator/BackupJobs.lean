import Blockhost.Library.Archive
import Blockhost.Orchestrator.BackupPaths

/-! The file work of the backup and restore jobs. A restore extracts the archive beside the
world, moves the world away, moves the extracted one into its place and copies configuration
files; when a step fails the world that was moved away comes back.
-/

namespace Blockhost

open Library

variable {Content : Type}

def addToTar (tree : FileTree Content) (source : Location) (archiveName : Location)
    : List (Member Content) :=
  (collect tree source ([] :: tree.below source)).map
    (fun member => (archiveName ++ member.1, member.2))

def writeArchive (tree : FileTree Content) (includes : List (RawPath × RawPath))
    : List (Member Content) :=
  includes.flatMap (fun entry =>
    match tree.locate entry.1 with
    | none => []
    | some source => addToTar tree source entry.2)

/-- Places where a job calls code that may raise. -/
inductive JobCall where
  | diskCheck
  | stopServer
  | startServer
  | commitArtifact
  | verifyArtifact
  | updateJob (status : RestoreStatus)
deriving DecidableEq, Repr

abbrev Faults := JobCall → Option BackupRestoreError

def raiseFault (faults : Faults) (call : JobCall) : Except BackupRestoreError Unit :=
  match faults call with
  | none => .ok ()
  | some failure => .error failure

/-- The archive of a job that completes. A running server is stopped while it is written. -/
def runBackupJob (faults : Faults) (tree : FileTree Content) (serversRoot : Location)
    (server : Server)
    : Except BackupRestoreError (List (Member Content)) := do
  let serverDir ← requireServerDir tree serversRoot server
  raiseFault faults .diskCheck
  let includes := includedBackupPaths tree server serverDir (worldName server)
  raiseFault faults .stopServer
  if includes.isEmpty then
    .error ⟨"invalid_backup_contents", "Backup contents are empty"⟩
  else
    raiseFault faults .startServer
    raiseFault faults .commitArtifact
    .ok (writeArchive tree includes)

/-- No member may leave the target, and one must be a world. -/
def validateArchiveMembers (archive : List (Member Content)) : Except BackupRestoreError Unit :=
  match archive.find? (fun member => member.1.contains "..") with
  | some member =>
      .error ⟨"unsafe_archive",
        "Unsafe archive member: " ++ String.ofList (posixText member.1)⟩
  | none =>
      if archive.any (fun member =>
          member.1 = ["bedrock", "worlds"]
          || "bedrock/worlds/".toList.isPrefixOf (posixText member.1)
          || "java/world".toList.isPrefixOf (posixText member.1)) then .ok ()
      else .error ⟨"invalid_archive", "Archive does not contain a world directory"⟩

/-- `_safe_rmtree`: the parent goes too when it is left empty. -/
def safeRmtree (tree : FileTree Content) (path : Location) : FileTree Content :=
  if tree.exists? path then
    let removed := tree.remove path
    if removed.below path.dropLast = [] then removed.remove path.dropLast else removed
  else tree

/-- `os.replace` refuses paths that end in a parent step. -/
def replace (tree : FileTree Content) (source target : RawPath) : Option (FileTree Content) :=
  if source.getLast? = some ".." ∨ target.getLast? = some ".." then none
  else do
    let source ← tree.locate source
    let target ← tree.locate target
    tree.rename source target

def restoredConfigFiles : List String :=
  ["server.properties", "allowlist.json", "permissions.json", "valid_known_packs.json",
    "world_behavior_packs.json", "world_resource_packs.json", "eula.txt", "ops.json",
    "banned-players.json", "banned-ips.json", "whitelist.json"]

def copyConfigFiles (source serverDir : Location)
    : List String → FileTree Content → Option (FileTree Content)
  | [], tree => some tree
  | name :: rest, tree =>
      if tree.isFile (source ++ [name]) then
        (tree.copyFile (source ++ [name]) (serverDir ++ [name])).bind
          (copyConfigFiles source serverDir rest)
      else copyConfigFiles source serverDir rest tree

/-- What a restore job has in hand when it fails. -/
structure RestoreState (Content : Type) where
  tree : FileTree Content
  activeWorlds : Option RawPath := none
  rollbackWorlds : Option RawPath := none
  restoreTmp : Option Location := none

abbrev RestoreM (Content : Type) := EStateM BackupRestoreError (RestoreState Content)

structure RestoreTask (Content : Type) where
  serversRoot : Location
  server : Server
  jobId : Uuid
  archive : List (Member Content)
  wasRunning : Bool := false
  restartAfterRestore : Bool := true
  rollbackEnabled : Bool := true

/-- A call that may raise and leaves the files alone. -/
def call (faults : Faults) (point : JobCall) : RestoreM Content Unit :=
  fun state =>
    match faults point with
    | none => .ok () state
    | some failure => .error failure state

def callWhen (wanted : Bool) (faults : Faults) (point : JobCall) : RestoreM Content Unit :=
  if wanted then call faults point else pure ()

/-- A change of the files, with the message of its failure. -/
def change (message : String) (operation : FileTree Content → Option (FileTree Content))
    : RestoreM Content Unit :=
  fun state =>
    match operation state.tree with
    | some tree => .ok () { state with tree }
    | none => .error ⟨"restore_failed", message⟩ state

/-- A result of checks that change nothing. -/
def check {α : Type} (outcome : FileTree Content → Except BackupRestoreError α)
    : RestoreM Content α :=
  fun state =>
    match outcome state.tree with
    | .ok value => .ok value state
    | .error failure => .error failure state

def runtimeTmp (serverDir : Location) : Location := serverDir ++ ["runtime", "tmp"]

def restoreTmpDir (serverDir : Location) (jobId : Uuid) : Location :=
  runtimeTmp serverDir ++ ["restore", uuidText jobId]

def rollbackRoot (serverDir : Location) (jobId : Uuid) : Location :=
  runtimeTmp serverDir ++ ["rollback", uuidText jobId]

/-- The folder of an archive, and the world in it that a restore moves. -/
def archiveFolder (server : Server) : String :=
  if isJavaFlavor server.flavor then "java" else "bedrock"

def restoredWorlds (server : Server) (restoreTmp : Location) : Location :=
  restoreTmp
    ++ [archiveFolder server, if isJavaFlavor server.flavor then "world" else "worlds"]

/-- Extract the archive into an empty directory and find the world in it. -/
def stageRestore (faults : Faults) (task : RestoreTask Content) (serverDir : Location)
    : RestoreM Content Location := do
  let restoreTmp := restoreTmpDir serverDir task.jobId
  modify (fun state => { state with restoreTmp := some restoreTmp })
  change "" (fun tree => some (safeRmtree tree restoreTmp))
  change "Not a directory" (fun tree => tree.makeDirs restoreTmp)
  call faults (.updateJob .extracting)
  check (fun _ => validateArchiveMembers task.archive)
  change "Extraction failed" (extract restoreTmp task.archive)
  let restored := restoredWorlds task.server restoreTmp
  check (fun tree =>
    if tree.isDir restored then .ok ()
    else .error ⟨"restored_world_missing", "Extracted backup has no world directory"⟩)
  return restored

def moveAway (activeWorlds rollbackWorlds : RawPath) (tree : FileTree Content)
    : Option (FileTree Content) :=
  if tree.pathExists activeWorlds then replace tree activeWorlds rollbackWorlds else some tree

/-- Move the restored world into the place of the active one; a move that fails brings the old
world back.
-/
def moveIn (activeWorlds rollbackWorlds : RawPath) (restored : Location)
    : RestoreM Content Unit :=
  fun state =>
    match replace state.tree restored activeWorlds with
    | some tree => .ok () { state with tree }
    | none =>
        let undone :=
          if state.tree.pathExists rollbackWorlds && !state.tree.pathExists activeWorlds then
            (replace state.tree rollbackWorlds activeWorlds).getD state.tree
          else state.tree
        .error ⟨"restore_failed", "Cannot move the restored world into place"⟩
          { state with tree := undone }

def restoreSteps (faults : Faults) (task : RestoreTask Content) : RestoreM Content Unit := do
  call faults (.updateJob .running)
  call faults .verifyArtifact
  check (fun _ => validateArchiveMembers task.archive)
  let serverDir ← check (fun tree => requireServerDir tree task.serversRoot task.server)
  let activeWorlds ← check (fun tree => .ok (activeWorldPath tree task.server serverDir))
  modify (fun state => { state with activeWorlds := some activeWorlds })
  call faults (.updateJob .stoppingServer)
  callWhen task.wasRunning faults .stopServer
  let restored ← stageRestore faults task serverDir
  call faults (.updateJob .validatingRestore)
  let rollback := rollbackRoot serverDir task.jobId
  let rollbackWorlds := rollback ++ [activeWorlds.getLast?.getD ""]
  modify (fun state => { state with rollbackWorlds := some rollbackWorlds })
  change "" (fun tree => some (safeRmtree tree rollback))
  change "Not a directory" (fun tree => tree.makeDirs rollback)
  call faults (.updateJob .swapping)
  change "Cannot move the active world away" (moveAway activeWorlds rollbackWorlds)
  moveIn activeWorlds rollbackWorlds restored
  change "Cannot copy a configuration file"
    (copyConfigFiles (restoreTmpDir serverDir task.jobId ++ [archiveFolder task.server])
      serverDir restoredConfigFiles)
  callWhen task.restartAfterRestore faults .startServer
  call faults (.updateJob .completed)
  change "" (fun tree =>
    some (if tree.pathExists rollbackWorlds then safeRmtree tree rollback else tree))

def failedName (active : RawPath) (jobId : Uuid) : RawPath :=
  active.dropLast ++ [active.getLast?.getD "" ++ ".failed-restore-" ++ uuidText jobId]

/-- Move what now lies in the world's place beside it; either way the files that are left. -/
def setAside (active : RawPath) (jobId : Uuid) (tree : FileTree Content)
    : Except (FileTree Content) (FileTree Content) :=
  if tree.pathExists active then
    let failed := failedName active jobId
    let free :=
      match tree.locate failed with
      | none => tree
      | some path => safeRmtree tree path
    match replace free active failed with
    | none => .error free
    | some moved => .ok moved
  else .ok tree

/-- After a failure the world that was moved away comes back, when rollback is enabled. -/
def rollBack (task : RestoreTask Content) (state : RestoreState Content)
    : FileTree Content × RestoreStatus :=
  match state.activeWorlds, state.rollbackWorlds with
  | some active, some rollback =>
      if task.rollbackEnabled && state.tree.pathExists rollback then
        match setAside active task.jobId state.tree with
        | .error tree => (tree, .failed)
        | .ok tree =>
            match replace tree rollback active with
            | none => (tree, .failed)
            | some restored => (restored, .rolledBack)
      else (state.tree, .failed)
  | _, _ => (state.tree, .failed)

/-- What the job leaves: the files and its status. The extraction directory goes in any case. -/
def runRestoreJob (faults : Faults) (task : RestoreTask Content) (tree : FileTree Content)
    : FileTree Content × RestoreStatus :=
  let cleanUp (state : RestoreState Content) (tree : FileTree Content) : FileTree Content :=
    match state.restoreTmp with
    | none => tree
    | some restoreTmp => safeRmtree tree restoreTmp
  match restoreSteps faults task { tree } with
  | .ok _ state => (cleanUp state state.tree, .completed)
  | .error _ state =>
      let (tree, status) := rollBack task state
      (cleanUp state tree, status)

end Blockhost
