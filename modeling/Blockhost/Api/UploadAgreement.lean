import Blockhost.Agent.ServerFilesKept
import Blockhost.Api.FilePaths

/-! The upload handler of the agent. It writes the chunks of the file to a temporary file beside
the target, checks the limits before each one, and replaces the target at the end.
-/

namespace Blockhost

open Library FilePaths

def mebibyte : Nat := 1024 * 1024

def maxUploadSize : Nat := 100 * mebibyte

/-- An upload, with what `read(1024 * 1024)` returns until nothing is left. -/
structure UploadedFile where
  filename : Option String
  chunks : List Bytes
  read : ∀ chunk ∈ chunks, chunk ≠ [] ∧ chunk.length ≤ mebibyte

def UploadedFile.content (file : UploadedFile) : Bytes := file.chunks.flatten

-- Sizes and names

def fileSize (tree : FileTree Bytes) (path : Location) : Nat :=
  match tree.lookup path with
  | some (.file content) => content.length
  | _ => 0

/-- `_get_dir_size` -/
def dirSize (tree : FileTree Bytes) (dir : Location) : Nat :=
  (tree.below dir).foldl (fun total name => total + fileSize tree (dir ++ name)) 0

/-- `os.path.basename` -/
def basename (text : String) : String :=
  String.ofList ((text.toList.splitOn '/').getLast?.getD [])

def uploadName (filename : Option String) : String :=
  let given := basename ((filename.filter (fun name => name ≠ "")).getD "uploaded_file")
  let bare := String.ofList (given.toList.dropWhile (fun letter => letter = '.'))
  if bare = "" then "uploaded_file" else bare

-- The handler

def fromCheck {α : Type} (checked : Except HttpError α) : DiskM Bytes α :=
  match checked with
  | .ok value => pure value
  | .error failure => throw failure

def quotaExceeded : HttpError := ⟨413, "Disk quota exceeded for this server."⟩

def fileTooLarge : HttpError := ⟨413, "File too large"⟩

/-- The loop over the chunks; it returns what it has written. -/
def writeChunks (temporary : Location) (limitBytes currentSize : Int)
    : List Bytes → Bytes → DiskM Bytes Bytes
  | [], written => pure written
  | chunk :: rest, written => do
      let total := written ++ chunk
      refuse (currentSize + total.length > limitBytes) quotaExceeded
      refuse (total.length > maxUploadSize) fileTooLarge
      onDisk (·.writeFile temporary total)
      writeChunks temporary limitBytes currentSize rest total

/-- What the handler makes of a failure while it writes. -/
def uploadFailure (reason : String) (failure : HttpError) : HttpError :=
  if failure = internalError then ⟨500, "Upload failed: " ++ reason⟩ else failure

/-- From `mkstemp` on. -/
def storeUpload (temporary target : Location) (reason : String) (limitBytes currentSize : Int)
    (file : UploadedFile)
    : DiskM Bytes Nat := do
  onDisk (·.writeFile temporary [])
  tryCatch
    (do
      let written ← writeChunks temporary limitBytes currentSize file.chunks []
      onDisk (·.rename temporary target)
      return written.length)
    (fun failure => do
      ignoreFailure (onDisk (·.unlink temporary))
      throw (uploadFailure reason failure))

/-- `agent_upload_file`. The name of the temporary file and the text of an operating system error
are given.
-/
def agentUploadFile (server : ServerRoot) (temporary reason serverId path : String)
    (params : PolicyParams) (storageLimitMb : Option Int) (file : UploadedFile)
    : DiskM Bytes Nat := do
  match storageLimitMb with
  | none => throw ⟨403, "No active subscription: storage limit is undefined."⟩
  | some limitMb =>
      refuse (!validateServerId serverId) ⟨400, "Invalid server ID format"⟩
      let roots := parseAllowedCsv params.allowedRoots allowedRoots
      let files := parseAllowedCsv params.allowedFiles allowedRootFiles
      let targetDir ← fromCheck (agentValidateSafePath server path roots files false false)
      let before ← storedFiles
      refuse (before.exists? targetDir && !before.isDir targetDir)
        ⟨400, "Target is not a directory"⟩
      onDisk (·.makeDirs targetDir)
      let target := targetDir ++ [uploadName file.filename]
      let _ ← fromCheck (agentValidateSafePath server (joinParts (target.drop server.root.length))
        roots files false true)
      let tree ← storedFiles
      storeUpload (targetDir ++ [temporary]) target reason (limitMb * mebibyte)
        (dirSize before server.root - fileSize tree target) file

end Blockhost

/-! Uploads that the control plane passes on to the agent. The request has the policy of the
server, but no storage limit, without which the agent takes no upload.
-/

namespace Blockhost

open Library FilePaths

-- The control plane

/-- The guards of `_get_server`, once the user may see the server. -/
def guardFileAccess (server : Server) (node : Option Node) : Except HttpError Unit :=
  if server.state = .syncing ∨ server.state = .provisioning ∨ server.state = .migrating then
    .error ⟨409, "Server is currently migrating or provisioning. Please wait."⟩
  else if server.state = .suspending then
    .error ⟨409, "Server is currently going to sleep. Please wake it up and try again."⟩
  else if server.state = .suspended then
    if server.nodeId = none then
      .error ⟨400, "Server is in cold storage. Please click Start to wake it up."⟩
    else if (node.all (fun node => node.status = .offline)) = true then
      .error ⟨400, "The node hosting this server is currently offline."⟩
    else .ok ()
  else .ok ()

def answerText (failure : HttpError) : String :=
  if failure = internalError then failure.detail
  else "\x7b\"detail\":\"" ++ failure.detail ++ "\"\x7d"

/-- `upload_file` for a server on a node; the parameters that go to the agent have no
`storage_limit_mb`.
-/
def uploadFile (permission : Except HttpError Unit) (server : Server) (node : Node)
    (root : ServerRoot) (temporary reason path : String) (file : UploadedFile)
    : DiskM Bytes Nat := do
  fromCheck permission
  fromCheck (guardFileAccess server (some node))
  let policy := fileAccessPolicy server.flavor
  let _ ← fromCheck (validateFilePolicyPath path policy false false)
  tryCatch
    (agentUploadFile root temporary reason (uuidText server.id) path (agentPolicyParams policy)
      none file)
    (fun failure => throw ⟨failure.status, answerText failure⟩)

-- The law

structure UploadCase where
  permission : Except HttpError Unit
  server : Server
  node : Node
  plan : Option BillingPlan
  root : ServerRoot
  temporary : String
  reason : String
  path : String
  file : UploadedFile
  disk : DiskState Bytes

def UploadCase.outcome (case : UploadCase) : EStateM.Result HttpError (DiskState Bytes) Nat :=
  uploadFile case.permission case.server case.node case.root case.temporary case.reason case.path
    case.file case.disk

structure UploadCase.Permitted (case : UploadCase) (plan : BillingPlan) (names : List String)
    : Prop where
  user : case.permission = .ok ()
  subscribed : case.plan = some plan
  assigned : case.server.nodeId = some case.node.id
  online : case.node.status = .online
  allowed
    : validateFilePolicyPath case.path (fileAccessPolicy case.server.flavor) false false
      = .ok names

/-- With the upload in place of the file before it, the server stays within its limit. -/
def UploadCase.Within (case : UploadCase) (plan : BillingPlan) (names : List String) : Prop :=
  (dirSize case.disk.tree case.root.root : Int)
      - fileSize case.disk.tree
          (case.root.root ++ names ++ [uploadName case.file.filename])
      + case.file.content.length
    ≤ plan.storageMb * mebibyte

/-- An upload within the limit is accepted; one beyond it is refused, and every file stays. -/
structure UploadCase.Meets (case : UploadCase) : Prop where
  accepted
    : ∀ plan names, case.Permitted plan names → case.Within plan names
      → ∃ total next, case.outcome = .ok total next
  refused
    : ∀ plan names, case.Permitted plan names → ¬ case.Within plan names
      → ∃ failure next, case.outcome = .error failure next
        ∧ ∀ path, FileKept path case.disk next

-- Agreement

theorem fromCheck_cases {α : Type} (checked : Except HttpError α) (state : DiskState Bytes)
    : (∃ failure, fromCheck checked state = .error failure state)
      ∨ ∃ value, fromCheck checked state = .ok value state := by
  cases checked with
  | ok value => exact .inr ⟨value, rfl⟩
  | error failure => exact .inl ⟨failure, rfl⟩

theorem uploadFile_refused (case : UploadCase)
    : ∃ failure, case.outcome = .error failure case.disk := by
  unfold UploadCase.outcome uploadFile
  rcases fromCheck_cases case.permission case.disk with ⟨failure, denied⟩ | ⟨_, granted⟩
  · simp only [bind, EStateM.bind, denied]
    exact ⟨failure, rfl⟩
  rw [state_bind_run granted]
  rcases fromCheck_cases (guardFileAccess case.server (some case.node)) case.disk with
    ⟨failure, guarded⟩ | ⟨_, free⟩
  · simp only [bind, EStateM.bind, guarded]
    exact ⟨failure, rfl⟩
  rw [state_bind_run free]
  rcases fromCheck_cases
      (validateFilePolicyPath case.path (fileAccessPolicy case.server.flavor) false false)
      case.disk with ⟨failure, outside⟩ | ⟨_, allowed⟩
  · simp only [bind, EStateM.bind, outside]
    exact ⟨failure, rfl⟩
  rw [state_bind_run allowed]
  exact ⟨_, rfl⟩

/-- The uploads that meet the law are those that have to be refused. -/
theorem upload_meets_iff (case : UploadCase)
    : case.Meets ↔ ¬ ∃ plan names, case.Permitted plan names ∧ case.Within plan names := by
  obtain ⟨failure, refused⟩ := uploadFile_refused case
  constructor
  · rintro meets ⟨plan, names, permitted, within⟩
    obtain ⟨total, next, accepted⟩ := meets.accepted plan names permitted within
    cases refused.symm.trans accepted
  · intro beyond
    refine ⟨?_, ?_⟩
    · intro plan names permitted within
      exact absurd ⟨plan, names, permitted, within⟩ beyond
    · intro plan names _ _
      exact ⟨failure, case.disk, refused, fun path => refl_of (FileKept path) case.disk⟩

private def worldUpload : UploadCase where
  permission := .ok ()
  server := { id := 1, nodeId := some 2, ownerId := 3, worldName := "world", lastActivity := 0 }
  node :=
    { id := 2, name := "node", ipAddress := "10.0.0.2", status := .online, statusUpdatedAt := 0 }
  plan :=
    some { id := "basic", ramMb := 2048, cpuLimit := 100, storageMb := 2048, playerLimit := 10,
           price := 1, durationDays := 30 }
  root := { root := [], resolve := some, resolved := rfl }
  temporary := "tmp.upload"
  reason := ""
  path := "worlds"
  file := { filename := some "level.dat", chunks := [[1, 2, 3]], read := by decide }
  disk := { tree := FileTree.empty }

/-- The upload is allowed and small, and the agent refuses it. -/
theorem small_upload_is_refused : ¬ worldUpload.Meets := by
  intro meets
  have permitted : ∀ plan, worldUpload.plan = some plan → worldUpload.Permitted plan ["worlds"] :=
    fun plan subscribed => ⟨rfl, subscribed, rfl, rfl, by decide +kernel⟩
  have within : ∀ plan, worldUpload.plan = some plan → worldUpload.Within plan ["worlds"] := by
    intro plan subscribed
    cases subscribed
    unfold UploadCase.Within
    decide +kernel
  obtain ⟨total, next, accepted⟩ := meets.accepted _ _ (permitted _ rfl) (within _ rfl)
  obtain ⟨failure, refused⟩ := uploadFile_refused worldUpload
  cases refused.symm.trans accepted

end Blockhost
