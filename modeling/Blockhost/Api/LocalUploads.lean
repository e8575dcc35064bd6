import Blockhost.Api.UploadAgreement
import Mathlib

/-! Uploads to a server without a node. The control plane writes them over the file that has the
name, and looks at the limits while it does so and afterwards.
-/

namespace Blockhost.LocalUploads

open Library FilePaths

-- Sizes of directories

/-- The files, the sizes of directories that were measured with the time of it, and the time in
milliseconds.
-/
structure UploadState where
  tree : FileTree Bytes
  sizes : Location → Option (Nat × Nat) := fun _ => none
  now : Nat := 0

abbrev UploadM := EStateM HttpError UploadState

/-- `_DIR_SIZE_CACHE_TTL` -/
def dirSizeTtl : Nat := 10000

/-- A size that was measured a short while ago. -/
def UploadState.fresh (state : UploadState) (path : Location) : Option Nat :=
  (state.sizes path).bind fun measured =>
    if state.now - measured.1 ≤ dirSizeTtl then some measured.2 else none

def storedSize (tree : FileTree Bytes) (path : Location) : Nat :=
  if tree.isFile path then fileSize tree path else dirSize tree path

/-- `calculate_directory_size` -/
def calculateDirectorySize (path : Location) : UploadM Nat := fun state =>
  match state.fresh path with
  | some size => .ok size state
  | none =>
      if state.tree.isDir path then
        let total := dirSize state.tree path
        .ok total { state with
          sizes := fun other =>
            if other = path then some (state.now, total) else state.sizes other }
      else .ok (storedSize state.tree path) state

structure UploadSettings where
  /-- `int(free_world_limit_gb * 1024)` -/
  freeWorldLimitMb : Int
  /-- `disk_critical_threshold_percent`, as it is written. -/
  diskCriticalThreshold : String

/-- The limit in megabytes; zero counts as no limit of the plan. -/
def worldLimitMb (settings : UploadSettings) (server : Server) : Int :=
  match server.mcConfig.resourceLimits with
  | some limits => if limits.storageMb = 0 then settings.freeWorldLimitMb else limits.storageMb
  | none => settings.freeWorldLimitMb

def worldLimit (settings : UploadSettings) (server : Server) : Int :=
  worldLimitMb settings server * mebibyte

def errorDetail (message : String) : String :=
  "\x7b\"error\": \"" ++ message ++ "\"\x7d"

def worldTooLarge (size : Nat) (limitMb : Int) : HttpError :=
  ⟨413, errorDetail ("World size exceeds plan limit (" ++ toString (size / mebibyte) ++ "MB > "
    ++ toString limitMb ++ "MB).")⟩

/-- `_guard_world_size_after_upload` -/
def guardWorldSizeAfterUpload (settings : UploadSettings) (server : Server) (worlds : Location)
    : UploadM Unit := do
  let size ← calculateDirectorySize worlds
  refuse (size > worldLimit settings server) (worldTooLarge size (worldLimitMb settings server))

-- The upload

/-- A read of the request's body, with what the disk does then. -/
inductive Arrival where
  /-- A chunk that is written; afterwards the disk is safe or beyond its threshold. -/
  | chunk (bytes : Bytes) (diskSafe : Bool)
  /-- A chunk whose write fails, with so many bytes in the file. -/
  | writeFails (bytes : Bytes) (kept : Nat)
  | readFails
deriving DecidableEq, Repr

/-- A request for an upload: what `_get_server` says, the server with its directory, whether the
disk is safe, whether the system refuses to make the file, and the body.
-/
structure LocalUpload where
  permission : Except HttpError Unit := .ok ()
  server : Server
  root : ServerRoot
  path : String
  filename : Option String
  diskSafe : Bool := true
  denied : Bool := false
  arrivals : List Arrival

def fromCheck {α : Type} (checked : Except HttpError α) : UploadM α :=
  match checked with
  | .ok value => pure value
  | .error failure => throw failure

def onTree (operation : FileTree Bytes → Option (FileTree Bytes)) : UploadM Unit := fun state =>
  match operation state.tree with
  | none => .error internalError state
  | some tree => .ok () { state with tree }

/-- `unlink(missing_ok=True)` -/
def unlinkMissingOk (target : Location) (tree : FileTree Bytes) : Option (FileTree Bytes) :=
  if tree.exists? target then tree.unlink target else some tree

def diskCritical (settings : UploadSettings) : HttpError :=
  ⟨503, errorDetail ("Disk usage exceeds " ++ settings.diskCriticalThreshold
    ++ "%. Operation blocked to protect VPS stability.")⟩

def uploadTooLarge : HttpError := ⟨413, "File too large (max 100MB)"⟩

def givenName (filename : Option String) : String :=
  basename ((filename.filter (fun name => name ≠ "")).getD "uploaded_file")

/-- The checks before anything is written, and the directory. -/
def makeTarget (settings : UploadSettings) (upload : LocalUpload) : UploadM Location := do
  fromCheck upload.permission
  let tree := (← get).tree
  refuse (!tree.isDir upload.root.root) ⟨404, "Server root directory does not exist"⟩
  refuse (!upload.diskSafe) (diskCritical settings)
  let policy := fileAccessPolicy upload.server.flavor
  let targetDir ← fromCheck (validateSafePath upload.root upload.path policy false false)
  refuse (tree.exists? targetDir && !tree.isDir targetDir)
    ⟨400, "Target path is not a directory"⟩
  onTree (·.makeDirs targetDir)
  let target := targetDir ++ pathParts (givenName upload.filename)
  let _ ← fromCheck (validateSafePath upload.root
    (joinParts (target.drop upload.root.root.length)) policy false true)
  refuse upload.denied internalError
  return target

def openTarget (settings : UploadSettings) (upload : LocalUpload) : UploadM Location := do
  let target ← makeTarget settings upload
  onTree (·.writeFile target [])
  return target

def removeAndRefuse {α : Type} (target : Location) (failure : HttpError) : UploadM α := do
  onTree (unlinkMissingOk target)
  throw failure

/-- The loop over the chunks, after so much was written. -/
def receive (settings : UploadSettings) (target : Location) : List Arrival → Bytes → UploadM Nat
  | [], written => return written.length
  | .chunk bytes diskSafe :: rest, written =>
      if (written ++ bytes).length > maxUploadSize then removeAndRefuse target uploadTooLarge
      else do
        onTree (·.writeFile target (written ++ bytes))
        if diskSafe then receive settings target rest (written ++ bytes)
        else removeAndRefuse target (diskCritical settings)
  | .writeFails bytes kept :: _, written =>
      if (written ++ bytes).length > maxUploadSize then removeAndRefuse target uploadTooLarge
      else do
        onTree (·.writeFile target ((written ++ bytes).take kept))
        throw internalError
  | .readFails :: _, _ => throw internalError

def LocalUpload.worlds (upload : LocalUpload) : Location := upload.root.root ++ ["worlds"]

/-- The limit of the plan, for a file of a world. -/
def checkWorlds (settings : UploadSettings) (upload : LocalUpload) (target : Location)
    : UploadM Unit :=
  onlyIf (upload.worlds.isPrefixOf target)
    (tryCatch (guardWorldSizeAfterUpload settings upload.server upload.worlds)
      (removeAndRefuse target))

/-- `upload_file` for a server without a node -/
def uploadFile (settings : UploadSettings) (upload : LocalUpload) : UploadM Nat := do
  let target ← openTarget settings upload
  let size ← receive settings target upload.arrivals []
  checkWorlds settings upload target
  return size

-- Files and their sizes

def fileAt (tree : FileTree Bytes) (path : Location) : Option Bytes :=
  match tree.lookup path with
  | some (.file content) => some content
  | _ => none

variable {tree next : FileTree Bytes} {dir path target : Location}

theorem fileSize_eq : fileSize tree path = ((fileAt tree path).getD []).length := by
  unfold fileSize fileAt
  split <;> simp_all

theorem dirSize_eq_sum
    : dirSize tree dir
      = (((tree.below dir).filter (fun name => (fileAt tree (dir ++ name)).isSome)).map
          (fun name => fileSize tree (dir ++ name))).sum := by
  have folded : ∀ (names : List Location) (start : Nat),
      names.foldl (fun total name => total + fileSize tree (dir ++ name)) start
        = start + ((names.filter (fun name => (fileAt tree (dir ++ name)).isSome)).map
            (fun name => fileSize tree (dir ++ name))).sum := by
    intro names
    induction names with
    | nil => simp
    | cons name rest ih =>
        intro start
        rw [List.foldl_cons, ih]
        cases content : fileAt tree (dir ++ name) with
        | none => simp [fileSize_eq, content]
        | some bytes =>
            simp [content]
            omega
  rw [dirSize, folded, Nat.zero_add]

theorem mem_files {name : Location}
    : name ∈ (tree.below dir).filter (fun name => (fileAt tree (dir ++ name)).isSome)
      ↔ name ≠ [] ∧ (fileAt tree (dir ++ name)).isSome = true := by
  rw [List.mem_filter, FileTree.mem_below, and_assoc]
  refine and_congr_right fun _ => and_iff_right_of_imp fun file => ?_
  intro missing
  simp [fileAt, missing] at file

theorem dirSize_congr
    (same : ∀ name, name ≠ [] → fileAt next (dir ++ name) = fileAt tree (dir ++ name))
    : dirSize next dir = dirSize tree dir := by
  have perm : ((next.below dir).filter (fun name => (fileAt next (dir ++ name)).isSome)).Perm
      ((tree.below dir).filter (fun name => (fileAt tree (dir ++ name)).isSome)) := by
    rw [List.perm_ext_iff_of_nodup ((next.below_nodup dir).filter _)
      ((tree.below_nodup dir).filter _)]
    intro name
    rw [mem_files, mem_files]
    exact and_congr_right fun real => by rw [same name real]
  rw [dirSize_eq_sum, dirSize_eq_sum, (perm.map _).sum_eq]
  refine congrArg List.sum (List.map_congr_left fun name listed => ?_)
  rw [fileSize_eq, fileSize_eq, same name (mem_files.mp listed).1]

theorem dirSize_write {name : Location} {content : Bytes} (real : name ≠ [])
    (written : fileAt next (dir ++ name) = some content)
    (others : ∀ path, path ≠ dir ++ name → fileAt next path = fileAt tree path)
    : dirSize next dir + fileSize tree (dir ++ name) = dirSize tree dir + content.length := by
  have perm : ((next.below dir).filter (fun name => (fileAt next (dir ++ name)).isSome)).Perm
      (name :: ((tree.below dir).filter
        (fun name => (fileAt tree (dir ++ name)).isSome)).erase name) := by
    have nodup := (tree.below_nodup dir).filter
      (fun name => (fileAt tree (dir ++ name)).isSome)
    rw [List.perm_ext_iff_of_nodup ((next.below_nodup dir).filter _)
      (List.nodup_cons.mpr ⟨nodup.not_mem_erase, nodup.erase name⟩)]
    intro other
    rw [mem_files, List.mem_cons, nodup.mem_erase_iff, mem_files]
    by_cases same : other = name
    · simp [same, real, written]
    · have apart : dir ++ other ≠ dir ++ name := by simpa using same
      simp [same, others _ apart]
  have sizes : ∀ other ∈ ((tree.below dir).filter
      (fun name => (fileAt tree (dir ++ name)).isSome)).erase name,
      fileSize next (dir ++ other) = fileSize tree (dir ++ other) := by
    intro other listed
    have nodup := (tree.below_nodup dir).filter
      (fun name => (fileAt tree (dir ++ name)).isSome)
    have apart := (nodup.mem_erase_iff.mp listed).1
    rw [fileSize_eq, fileSize_eq, others _ (by simpa using apart)]
  rw [dirSize_eq_sum, dirSize_eq_sum, (perm.map _).sum_eq, List.map_cons, List.sum_cons,
    List.map_congr_left sizes]
  have here : fileSize next (dir ++ name) = content.length := by simp [fileSize_eq, written]
  by_cases listed : name ∈ (tree.below dir).filter
      (fun name => (fileAt tree (dir ++ name)).isSome)
  · have split := ((List.perm_cons_erase listed).map
      (fun name => fileSize tree (dir ++ name))).sum_eq
    rw [List.map_cons, List.sum_cons] at split
    omega
  · rw [List.erase_of_not_mem listed]
    have absent : fileSize tree (dir ++ name) = 0 := by
      have none : fileAt tree (dir ++ name) = none := by
        by_contra some
        exact listed (mem_files.mpr ⟨real, Option.isSome_iff_ne_none.mpr some⟩)
      simp [fileSize_eq, none]
    omega

-- What an upload does

/-- How the body of an upload ends: with a whole file, with one that is removed again, or with the
part of one.
-/
inductive Ending where
  | complete (content : Bytes)
  | removed
  | broken (content : Bytes)
deriving DecidableEq, Repr

def ending : List Arrival → Bytes → Ending
  | [], written => .complete written
  | .chunk bytes diskSafe :: rest, written =>
      if (written ++ bytes).length > maxUploadSize then .removed
      else if diskSafe then ending rest (written ++ bytes) else .removed
  | .writeFails bytes kept :: _, written =>
      if (written ++ bytes).length > maxUploadSize then .removed
      else .broken ((written ++ bytes).take kept)
  | .readFails :: _, written => .broken written

/-- Where the upload is to be stored, if its path may be used. -/
def LocalUpload.targetFile (upload : LocalUpload) : Option Location :=
  match validateSafePath upload.root upload.path (fileAccessPolicy upload.server.flavor) false
      false with
  | .ok targetDir => some (targetDir ++ pathParts (givenName upload.filename))
  | .error _ => none

/-- The file that an upload gets to open. -/
def LocalUpload.opens (upload : LocalUpload) (settings : UploadSettings) (state : UploadState)
    : Option Location :=
  match openTarget settings upload state with
  | .ok target _ => some target
  | .error _ _ => none

variable {settings : UploadSettings} {upload : LocalUpload} {before after : UploadState}

/-- Nothing is measured, and one path has other contents. -/
structure Stored (target : Location) (content : Option Bytes) (before after : UploadState)
    : Prop where
  sizes : after.sizes = before.sizes
  now : after.now = before.now
  files
    : ∀ path, after.tree.lookup path
      = if path = target then content.map .file else before.tree.lookup path

theorem Stored.again {content more : Option Bytes} {last : UploadState}
    (first : Stored target content before after) (second : Stored target more after last)
    : Stored target more before last where
  sizes := second.sizes.trans first.sizes
  now := second.now.trans first.now
  files path := by
    rw [second.files, first.files]
    split <;> rfl

theorem Stored.fileAt {content : Option Bytes} (stored : Stored target content before after)
    : fileAt after.tree target = content := by
  unfold LocalUploads.fileAt
  rw [stored.files, if_pos rfl]
  cases content <;> rfl

theorem onTree_write {written : Bytes}
    (opened : before.tree.lookup target = some (.file written)) (content : Bytes)
    : ∃ after, onTree (·.writeFile target content) before = .ok () after
        ∧ Stored target (some content) before after := by
  have real : target ≠ [] := by
    rintro rfl
    simp [before.tree.root] at opened
  have parent : before.tree.isDir target.dropLast = true := by
    rw [FileTree.isDir_eq_true]
    refine before.tree.closed _ (target.getLast real) ?_
    simp [List.dropLast_append_getLast, opened]
  have writable : before.tree.Writable target :=
    ⟨real, parent, by simp [FileTree.isDir, opened]⟩
  obtain ⟨tree, done⟩ := writable.writes content
  refine ⟨{ before with tree }, by simp [onTree, done], rfl, rfl, ?_⟩
  exact (FileTree.writeFile_some done).2

theorem removeAndRefuse_open {written : Bytes} {failure : HttpError}
    (opened : before.tree.lookup target = some (.file written)) (α : Type)
    : ∃ after, (removeAndRefuse target failure : UploadM α) before = .error failure after
        ∧ Stored target none before after := by
  have file : before.tree.isFile target = true := by simp [opened]
  have removed : onTree (unlinkMissingOk target) before
      = .ok () { before with tree := before.tree.remove target } := by
    simp [onTree, unlinkMissingOk, FileTree.unlink, FileTree.exists?, file, opened]
  refine ⟨{ before with tree := before.tree.remove target }, ?_, rfl, rfl, ?_⟩
  · unfold removeAndRefuse
    rw [state_bind_run removed]
    rfl
  · intro path
    simp [FileTree.lookup_remove_leaf file]

/-- What is left of a body that ends in some way. -/
def EndsWith (target : Location) (before : UploadState)
    (result : EStateM.Result HttpError UploadState Nat) : Ending → Prop
  | .complete content =>
      ∃ after, result = .ok content.length after ∧ Stored target (some content) before after
  | .removed => ∃ failure after, result = .error failure after ∧ Stored target none before after
  | .broken content =>
      ∃ failure after, result = .error failure after ∧ Stored target (some content) before after

theorem Stored.endsWith {content : Option Bytes} {last : Ending}
    {result : EStateM.Result HttpError UploadState Nat}
    (stored : Stored target content before after) (ends : EndsWith target after result last)
    : EndsWith target before result last := by
  cases last with
  | complete content =>
      obtain ⟨last, done, later⟩ := ends
      exact ⟨last, done, stored.again later⟩
  | removed =>
      obtain ⟨failure, last, done, later⟩ := ends
      exact ⟨failure, last, done, stored.again later⟩
  | broken content =>
      obtain ⟨failure, last, done, later⟩ := ends
      exact ⟨failure, last, done, stored.again later⟩

theorem Stored.refl {content : Bytes}
    (opened : before.tree.lookup target = some (.file content))
    : Stored target (some content) before before := by
  refine ⟨rfl, rfl, fun path => ?_⟩
  split
  · rename_i here
    simp [here, opened]
  · rfl

/-- The loop over the body, by induction on it. -/
theorem receive_endsWith (settings : UploadSettings) (arrivals : List Arrival)
    {written : Bytes} (opened : before.tree.lookup target = some (.file written))
    : EndsWith target before (receive settings target arrivals written before)
        (ending arrivals written) := by
  induction arrivals generalizing before written with
  | nil => exact ⟨before, rfl, .refl opened⟩
  | cons arrival rest ih =>
      cases arrival with
      | chunk bytes diskSafe =>
          simp only [ending, receive]
          by_cases large : (written ++ bytes).length > maxUploadSize
          · rw [if_pos large, if_pos large]
            exact ⟨_, removeAndRefuse_open opened Nat⟩
          rw [if_neg large, if_neg large]
          obtain ⟨middle, done, stored⟩ := onTree_write opened (written ++ bytes)
          have again : middle.tree.lookup target = some (.file (written ++ bytes)) := by
            simp [stored.files]
          rw [state_bind_run done]
          cases diskSafe with
          | false => exact stored.endsWith ⟨_, removeAndRefuse_open again Nat⟩
          | true => exact stored.endsWith (ih again)
      | writeFails bytes kept =>
          simp only [ending, receive]
          by_cases large : (written ++ bytes).length > maxUploadSize
          · rw [if_pos large, if_pos large]
            exact ⟨_, removeAndRefuse_open opened Nat⟩
          rw [if_neg large, if_neg large]
          obtain ⟨middle, done, stored⟩ :=
            onTree_write opened ((written ++ bytes).take kept)
          rw [state_bind_run done]
          exact ⟨internalError, middle, rfl, stored⟩
      | readFails => exact ⟨internalError, before, rfl, .refl opened⟩

-- Uploads that are not opened

/-- Directories are made; files, measurements and the time are as they were. -/
structure OnlyDirs (before after : UploadState) : Prop where
  sizes : after.sizes = before.sizes
  now : after.now = before.now
  files : ∀ path, fileAt after.tree path = fileAt before.tree path

instance : IsPreorder UploadState OnlyDirs where
  refl _ := ⟨rfl, rfl, fun _ => rfl⟩
  trans _ _ _ first second :=
    ⟨second.sizes.trans first.sizes, second.now.trans first.now,
      fun path => (second.files path).trans (first.files path)⟩

theorem fromCheck_onlyDirs {α : Type} (checked : Except HttpError α)
    : Keeps OnlyDirs (fromCheck checked) := by
  cases checked with
  | ok value => exact .pure value
  | error failure => exact .throw failure

theorem onTree_cases (operation : FileTree Bytes → Option (FileTree Bytes))
    (state : UploadState)
    : onTree operation state = .error internalError state
      ∨ ∃ tree, operation state.tree = some tree
        ∧ onTree operation state = .ok () { state with tree } := by
  unfold onTree
  split
  · exact .inl rfl
  · rename_i tree made
    exact .inr ⟨tree, made, rfl⟩

theorem makeDirs_fileAt (made : tree.makeDirs dir = some next) (path : Location)
    : fileAt next path = fileAt tree path := by
  obtain ⟨clear, lookups⟩ := FileTree.makeDirs_some made
  unfold fileAt
  rw [lookups]
  split_ifs with above
  · have plain := clear path ((List.mem_inits _ _).mpr above)
    cases stored : tree.lookup path with
    | none => rfl
    | some entry =>
        cases entry with
        | dir => rfl
        | file content => simp [FileTree.isFile, stored] at plain
  · rfl

theorem makeDirs_onlyDirs (dir : Location) : Keeps OnlyDirs (onTree (·.makeDirs dir)) := by
  intro state
  rcases onTree_cases (·.makeDirs dir) state with failed | ⟨tree, made, done⟩
  · rw [failed]
    exact refl_of OnlyDirs state
  · rw [done]
    exact ⟨rfl, rfl, makeDirs_fileAt made⟩

theorem makeTarget_onlyDirs (settings : UploadSettings) (upload : LocalUpload)
    : Keeps OnlyDirs (makeTarget settings upload) := by
  refine (fromCheck_onlyDirs _).bind fun _ => Keeps.get.bind fun _ => ?_
  refine (Keeps.refuse _ _).bind fun _ => (Keeps.refuse _ _).bind fun _ => ?_
  refine (fromCheck_onlyDirs _).bind fun _ => (Keeps.refuse _ _).bind fun _ => ?_
  refine (makeDirs_onlyDirs _).bind fun _ => (fromCheck_onlyDirs _).bind fun _ => ?_
  exact (Keeps.refuse _ _).bind fun _ => .pure _

theorem fromCheck_ok {α : Type} {checked : Except HttpError α} {value : α}
    (done : fromCheck checked before = .ok value after)
    : checked = .ok value ∧ after = before := by
  cases checked with
  | error failure => cases done
  | ok result =>
      cases done
      exact ⟨rfl, rfl⟩

theorem makeTarget_ok (done : makeTarget settings upload before = .ok target after)
    : upload.targetFile = some target
      ∧ ∀ path, ¬ path <+: target → after.tree.lookup path = before.tree.lookup path := by
  obtain ⟨_, _, permitted, done⟩ := state_bind_ok done
  obtain ⟨_, _, read, done⟩ := state_bind_ok done
  obtain ⟨_, _, rooted, done⟩ := state_bind_ok done
  obtain ⟨_, _, safe, done⟩ := state_bind_ok done
  obtain ⟨targetDir, _, allowed, done⟩ := state_bind_ok done
  obtain ⟨_, _, isDir, done⟩ := state_bind_ok done
  obtain ⟨_, _, made, done⟩ := state_bind_ok done
  obtain ⟨_, _, again, done⟩ := state_bind_ok done
  obtain ⟨_, _, granted, done⟩ := state_bind_ok done
  cases done
  cases read
  rw [(refuse_ok granted).2, (fromCheck_ok again).2]
  rw [(refuse_ok isDir).2, (fromCheck_ok allowed).2, (refuse_ok safe).2, (refuse_ok rooted).2,
    (fromCheck_ok permitted).2] at made
  refine ⟨by simp [LocalUpload.targetFile, (fromCheck_ok allowed).1], ?_⟩
  intro path away
  rcases onTree_cases (·.makeDirs targetDir) before with failed | ⟨tree, dirs, after⟩
  · rw [failed] at made
    cases made
  · rw [after] at made
    cases made
    rw [(FileTree.makeDirs_some dirs).2, if_neg]
    exact fun above => away (above.trans (List.prefix_append targetDir _))

-- The law

/-- A refused upload leaves the file as it was; after an accepted one what is counted is within
the limit.
-/
structure LocalUpload.Meets (upload : LocalUpload) (settings : UploadSettings)
    (before : UploadState) : Prop where
  refused
    : ∀ failure after, uploadFile settings upload before = .error failure after
      → ∀ target, upload.targetFile = some target
        → fileAt after.tree target = fileAt before.tree target
  accepted
    : ∀ size after, uploadFile settings upload before = .ok size after
      → storedSize after.tree upload.worlds ≤ worldLimit settings upload.server

def sizeWith (tree : FileTree Bytes) (worlds target : Location) (content : Bytes) : Int :=
  if target = worlds then content.length
  else if worlds <+: target then dirSize tree worlds - fileSize tree target + content.length
  else storedSize tree worlds

/-- Whether the size that is looked at after the upload is beyond the limit; it may have been
measured before the upload.
-/
def LocalUpload.Refuses (upload : LocalUpload) (settings : UploadSettings)
    (state : UploadState) (target : Location) (content : Bytes) : Prop :=
  upload.worlds <+: target ∧ worldLimit settings upload.server
    < ((state.fresh upload.worlds).map Nat.cast).getD
        (sizeWith state.tree upload.worlds target content)

/-- When an upload may be refused or accepted without harm: one that is removed has replaced no
file, one that breaks off leaves what was there, and one that is not found to be too large is not
too large.
-/
def LocalUpload.Harmless (upload : LocalUpload) (settings : UploadSettings)
    (state : UploadState) (target : Location) : Prop :=
  match ending upload.arrivals [] with
  | .removed => fileAt state.tree target = none
  | .broken content => fileAt state.tree target = some content
  | .complete content =>
      (upload.Refuses settings state target content → fileAt state.tree target = none)
      ∧ (¬ upload.Refuses settings state target content
        → sizeWith state.tree upload.worlds target content ≤ worldLimit settings upload.server)

theorem calculate_ok (path : Location) (state : UploadState)
    : ∃ after, calculateDirectorySize path state
          = .ok ((state.fresh path).getD (storedSize state.tree path)) after
        ∧ after.tree = state.tree := by
  unfold calculateDirectorySize
  cases state.fresh path with
  | some size => exact ⟨state, rfl, rfl⟩
  | none =>
      by_cases isDir : state.tree.isDir path
      · have size : storedSize state.tree path = dirSize state.tree path := by
          simp [storedSize, FileTree.isFile, FileTree.isDir_eq_true.mp isDir]
        simp only [if_pos isDir, Option.getD_none, size]
        exact ⟨_, rfl, rfl⟩
      · simp only [if_neg isDir]
        exact ⟨state, rfl, rfl⟩

theorem guard_cases (settings : UploadSettings) (server : Server) (worlds : Location)
    (state : UploadState)
    : ∃ after, after.tree = state.tree
        ∧ ((worldLimit settings server
              < ((state.fresh worlds).getD (storedSize state.tree worlds) : Int)
            ∧ ∃ failure, guardWorldSizeAfterUpload settings server worlds state
              = .error failure after)
          ∨ (¬ worldLimit settings server
              < ((state.fresh worlds).getD (storedSize state.tree worlds) : Int)
            ∧ guardWorldSizeAfterUpload settings server worlds state = .ok () after)) := by
  obtain ⟨after, looked, same⟩ := calculate_ok worlds state
  refine ⟨after, same, ?_⟩
  unfold guardWorldSizeAfterUpload
  rw [state_bind_run looked]
  unfold refuse
  split_ifs with beyond
  · exact .inl ⟨of_decide_eq_true beyond, _, rfl⟩
  · exact .inr ⟨fun large => beyond (decide_eq_true large), rfl⟩

theorem storedSize_with {middle : UploadState} {content : Bytes} (worlds : Location)
    (dirs : OnlyDirs before middle)
    (kept : ∀ path, ¬ path <+: target → middle.tree.lookup path = before.tree.lookup path)
    (stored : Stored target (some content) middle after)
    : (storedSize after.tree worlds : Int) = sizeWith before.tree worlds target content := by
  unfold sizeWith
  split_ifs with same within
  · have file : after.tree.lookup worlds = some (.file content) := by
      simp [stored.files, same]
    simp [storedSize, FileTree.isFile, fileSize, file]
  · obtain ⟨name, rfl⟩ := within
    have real : name ≠ [] := by simpa using same
    have dir : after.tree.lookup worlds = some .dir :=
      after.tree.ancestor_dir (by simp [stored.files]) real
    have counted : storedSize after.tree worlds = dirSize after.tree worlds := by
      simp [storedSize, FileTree.isFile, dir]
    have others : ∀ path, path ≠ worlds ++ name
        → fileAt after.tree path = fileAt middle.tree path := by
      intro path away
      simp [fileAt, stored.files, away]
    have sum := dirSize_write real stored.fileAt others
    have earlier : dirSize middle.tree worlds = dirSize before.tree worlds :=
      dirSize_congr fun _ _ => dirs.files _
    have old : fileSize middle.tree (worlds ++ name) = fileSize before.tree (worlds ++ name) := by
      rw [fileSize_eq, fileSize_eq, dirs.files]
    omega
  · have untouched : ∀ path, worlds <+: path
        → after.tree.lookup path = before.tree.lookup path := by
      intro path below
      have away : ¬ path <+: target := fun above => within (below.trans above)
      have other : path ≠ target := by
        rintro rfl
        exact away (List.prefix_refl path)
      rw [stored.files, if_neg other, kept path away]
    have here := untouched worlds (List.prefix_refl _)
    have sum : dirSize after.tree worlds = dirSize before.tree worlds :=
      dirSize_congr fun name _ => by simp [fileAt, untouched _ (List.prefix_append worlds name)]
    have file : after.tree.isFile worlds = before.tree.isFile worlds := by
      simp only [FileTree.isFile, here]
    have size : fileSize after.tree worlds = fileSize before.tree worlds := by
      simp only [fileSize, here]
    rw [storedSize, storedSize, file, size, sum]

theorem checkWorlds_spec {content : Bytes} (settings : UploadSettings) (upload : LocalUpload)
    (opened : before.tree.lookup target = some (.file content))
    : (upload.worlds <+: target ∧ worldLimit settings upload.server
            < ((before.fresh upload.worlds).getD (storedSize before.tree upload.worlds) : Int)
          → ∃ failure after, checkWorlds settings upload target before = .error failure after
            ∧ fileAt after.tree target = none)
      ∧ (¬ (upload.worlds <+: target ∧ worldLimit settings upload.server
            < ((before.fresh upload.worlds).getD (storedSize before.tree upload.worlds) : Int))
          → ∃ after, checkWorlds settings upload target before = .ok () after
            ∧ after.tree = before.tree) := by
  unfold checkWorlds
  by_cases below : upload.worlds <+: target
  · rw [List.isPrefixOf_iff_prefix.mpr below]
    obtain ⟨middle, same, ⟨beyond, failure, refused⟩ | ⟨fits, passed⟩⟩ :=
      guard_cases settings upload.server upload.worlds before
    · refine ⟨fun _ => ?_, fun not => absurd ⟨below, beyond⟩ not⟩
      obtain ⟨after, removed, stored⟩ :=
        removeAndRefuse_open (by rw [same, opened] : middle.tree.lookup target = _) Unit
      exact ⟨failure, after, (tryCatch_error refused).trans removed, stored.fileAt⟩
    · exact ⟨fun beyond => absurd beyond.2 fits,
        fun _ => ⟨middle, tryCatch_ok passed, same⟩⟩
  · have apart : upload.worlds.isPrefixOf target = false := by
      rw [← Bool.not_eq_true, List.isPrefixOf_iff_prefix]
      exact below
    rw [apart]
    exact ⟨fun beyond => absurd beyond.1 below, fun _ => ⟨before, rfl, rfl⟩⟩

theorem uploadFile_opened (opened : upload.opens settings before = some target)
    : upload.targetFile = some target
      ∧ match ending upload.arrivals [] with
        | .removed =>
            ∃ failure after, uploadFile settings upload before = .error failure after
              ∧ fileAt after.tree target = none
        | .broken content =>
            ∃ failure after, uploadFile settings upload before = .error failure after
              ∧ fileAt after.tree target = some content
        | .complete content =>
            (upload.Refuses settings before target content
              → ∃ failure after, uploadFile settings upload before = .error failure after
                ∧ fileAt after.tree target = none)
            ∧ (¬ upload.Refuses settings before target content
              → ∃ after, uploadFile settings upload before = .ok content.length after
                ∧ (storedSize after.tree upload.worlds : Int)
                  = sizeWith before.tree upload.worlds target content) := by
  unfold LocalUpload.opens at opened
  split at opened
  · rename_i state done
    cases opened
    obtain ⟨_, middle, made, more⟩ := state_bind_ok done
    obtain ⟨_, _, wrote, same⟩ := state_bind_ok more
    cases same
    obtain ⟨aimed, kept⟩ := makeTarget_ok made
    have dirs := makeTarget_onlyDirs settings upload before
    rw [made] at dirs
    have empty : Stored target (some []) middle state := by
      rcases onTree_cases (·.writeFile target []) middle with stopped | ⟨tree, written, wrote'⟩
      · rw [stopped] at wrote
        cases wrote
      · rw [wrote'] at wrote
        cases wrote
        exact ⟨rfl, rfl, (FileTree.writeFile_some written).2⟩
    have blank : state.tree.lookup target = some (.file []) := by simp [empty.files]
    have ends := empty.endsWith (receive_endsWith settings upload.arrivals blank)
    refine ⟨aimed, ?_⟩
    unfold uploadFile
    rw [state_bind_run done]
    cases last : ending upload.arrivals [] with
    | removed =>
        rw [last] at ends
        obtain ⟨failure, after, refused, stored⟩ := ends
        rw [state_bind_error refused]
        exact ⟨failure, after, rfl, stored.fileAt⟩
    | broken content =>
        rw [last] at ends
        obtain ⟨failure, after, refused, stored⟩ := ends
        rw [state_bind_error refused]
        exact ⟨failure, after, rfl, stored.fileAt⟩
    | complete content =>
        rw [last] at ends
        obtain ⟨after, received, stored⟩ := ends
        rw [state_bind_run received]
        have fresh : after.fresh upload.worlds = before.fresh upload.worlds := by
          have sizes : after.sizes = before.sizes := stored.sizes.trans dirs.sizes
          have now : after.now = before.now := stored.now.trans dirs.now
          simp only [UploadState.fresh, sizes, now]
        have counted := storedSize_with upload.worlds dirs kept stored
        have size : ((after.fresh upload.worlds).getD (storedSize after.tree upload.worlds) : Int)
            = ((before.fresh upload.worlds).map Nat.cast).getD
              (sizeWith before.tree upload.worlds target content) := by
          rw [fresh, ← counted]
          cases before.fresh upload.worlds <;> rfl
        have full : after.tree.lookup target = some (.file content) := by simp [stored.files]
        obtain ⟨refused, passed⟩ := checkWorlds_spec settings upload full
        rw [size] at refused passed
        refine ⟨?_, ?_⟩
        · intro refuses
          obtain ⟨failure, last, failed, gone⟩ := refused refuses
          exact ⟨failure, last, state_bind_error failed, gone⟩
        · intro accepts
          obtain ⟨last, done, same⟩ := passed accepts
          exact ⟨last, state_bind_run done, by rw [same, counted]⟩
  · cases opened

theorem uploadFile_not_opened (closed : upload.opens settings before = none)
    : ∃ failure after, uploadFile settings upload before = .error failure after
        ∧ ∀ path, fileAt after.tree path = fileAt before.tree path := by
  unfold LocalUpload.opens at closed
  split at closed
  · cases closed
  · rename_i failure after failed
    refine ⟨failure, after, state_bind_error failed, ?_⟩
    have dirs := makeTarget_onlyDirs settings upload before
    cases made : makeTarget settings upload before with
    | error other state =>
        rw [made] at dirs
        unfold openTarget at failed
        rw [state_bind_error made] at failed
        cases failed
        exact dirs.files
    | ok target middle =>
        rw [made] at dirs
        unfold openTarget at failed
        rw [state_bind_run made] at failed
        rcases onTree_cases (·.writeFile target []) middle with stopped | ⟨tree, _, wrote⟩
        · rw [state_bind_error stopped] at failed
          cases failed
          exact dirs.files
        · rw [state_bind_run wrote] at failed
          cases failed

/-- An upload meets the law exactly when its file is not opened or it is harmless. -/
theorem local_upload_meets_iff (settings : UploadSettings) (upload : LocalUpload)
    (before : UploadState)
    : upload.Meets settings before
      ↔ ∀ target, upload.opens settings before = some target
        → upload.Harmless settings before target := by
  cases opens : upload.opens settings before with
  | none =>
      obtain ⟨failure, after, refused, kept⟩ := uploadFile_not_opened opens
      refine iff_of_true ⟨?_, ?_⟩ nofun
      · intro other last again target _
        cases refused.symm.trans again
        exact kept target
      · intro size last accepted
        cases refused.symm.trans accepted
  | some target =>
      obtain ⟨aimed, outcome⟩ := uploadFile_opened opens
      simp only [Option.some.injEq, forall_eq']
      unfold LocalUpload.Harmless
      -- The upload is refused and the file is left with some content.
      have refusal : ∀ content, (∃ failure after,
          uploadFile settings upload before = .error failure after
            ∧ fileAt after.tree target = content)
          → (upload.Meets settings before ↔ fileAt before.tree target = content) := by
        rintro content ⟨failure, after, refused, rfl⟩
        constructor
        · exact fun meets => (meets.refused failure after refused target aimed).symm
        · intro same
          refine ⟨?_, ?_⟩
          · intro other last again place aims
            cases refused.symm.trans again
            cases aimed.symm.trans aims
            exact same.symm
          · intro size last accepted
            cases refused.symm.trans accepted
      cases last : ending upload.arrivals [] with
      | removed =>
          rw [last] at outcome
          exact refusal none outcome
      | broken content =>
          rw [last] at outcome
          exact refusal (some content) outcome
      | complete content =>
          rw [last] at outcome
          obtain ⟨refused, accepted⟩ := outcome
          by_cases refuses : upload.Refuses settings before target content
          · simpa [refuses] using refusal none (refused refuses)
          · obtain ⟨after, done, size⟩ := accepted refuses
            simp only [refuses, false_implies, not_false_eq_true, true_implies, true_and, ← size]
            constructor
            · exact fun meets => meets.accepted content.length after done
            · intro fits
              refine ⟨?_, ?_⟩
              · intro failure last refused
                cases done.symm.trans refused
              · intro size last again
                cases done.symm.trans again
                exact fits

private def brokenUpload : LocalUpload where
  server := { id := 1, nodeId := none, ownerId := 2, worldName := "world", lastActivity := 0 }
  root := { root := ["srv", "1"], resolve := some, resolved := rfl }
  path := "worlds/world"
  filename := some "level.dat"
  arrivals := [.writeFails [4, 5] 0]

private def storedWorld : UploadState where
  tree :=
    let dirs := (FileTree.empty.makeDirs ["srv", "1", "worlds", "world"]).getD .empty
    (dirs.writeFile ["srv", "1", "worlds", "world", "level.dat"] [1, 2, 3]).getD .empty

/-- The world's file is empty after an upload that was refused. -/
theorem broken_upload_empties_file
    : ¬ brokenUpload.Meets { freeWorldLimitMb := 2048, diskCriticalThreshold := "90" }
        storedWorld := by
  intro meets
  let target := ["srv", "1", "worlds", "world", "level.dat"]
  have aimed : brokenUpload.targetFile = some target := by decide +kernel
  have emptied
      : (match uploadFile ⟨2048, "90"⟩ brokenUpload storedWorld with
          | .error _ after => some (fileAt after.tree target)
          | .ok _ _ => none) = some (some [])
        ∧ fileAt storedWorld.tree target = some [1, 2, 3] := by
    decide +kernel
  cases outcome : uploadFile ⟨2048, "90"⟩ brokenUpload storedWorld with
  | ok size after => simp [outcome] at emptied
  | error failure after =>
      have kept := meets.refused failure after outcome target aimed
      obtain ⟨empty, full⟩ := emptied
      simp [outcome, kept, full] at empty

end Blockhost.LocalUploads
