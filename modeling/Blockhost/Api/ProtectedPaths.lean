import Blockhost.Api.PathAgreement
import Blockhost.Api.UploadAgreement
import Blockhost.Library.LinkTree

/-! Deletions through the file manager. Both programs look for the protected folders and files of
a server at the place where the path of the request leads, links included.
-/

namespace Blockhost.FilePaths

open Library

-- The endpoints

/-- What a deletion removes, on the disk where it does so. -/
structure Removal where
  tree : LinkTree
  root : RawPath
  roots : List String
  files : List String
  target : Location

def cannotDeleteRoots : HttpError := ⟨403, "Cannot delete root folders"⟩

def cannotDeleteFiles : HttpError := ⟨403, "Cannot delete protected server config files"⟩

/-- `target.name in files`, for a place directly in the server's directory. -/
def isRootFile (root : RawPath) (files : List String) (target : Location) : Bool :=
  target.dropLast = root && target.getLast?.any files.contains

def guardFolders (tree : LinkTree) (root : RawPath) (target : Location)
    : List String → Except HttpError Unit
  | [] => .ok ()
  | allowed :: rest =>
      match tree.realpath (root ++ [allowed]) with
      | none => .error internalError
      | some place =>
          if target = place then .error cannotDeleteRoots
          else guardFolders tree root target rest

/-- The checks before a removal, in both programs. -/
def guardRemoval (removal : Removal) : Except HttpError Unit := do
  guardFolders removal.tree removal.root removal.target removal.roots
  if isRootFile removal.root removal.files removal.target then .error cannotDeleteFiles
  else if (removal.tree.find removal.target).any removal.tree.exists? then .ok ()
  else .error ⟨404, "Path not found"⟩

def resolveBelow (tree : LinkTree) (root : RawPath) (text : String) : Except HttpError Location :=
  match tree.realpath (joinPath root text) with
  | none => .error internalError
  | some place => if root.isPrefixOf place then .ok place else .error traversalDetected

/-- The checks and the removal; `failure` is the text of an operating system error in it. -/
def removeTarget (removal : Removal) (detail : String) (failure : Option String)
    : Except HttpError Removal := do
  guardRemoval removal
  match failure with
  | some text => .error ⟨500, detail ++ text⟩
  | none => .ok removal

/-- The names that the agent opens for a list: its own ones when the list has none. -/
def openNames (names allowedValues : List String) : List String :=
  if names = [] then allowedValues else names

/-- `_validate_safe_path` of the agent, for a deletion. A root that is no absolute path lies
above no resolved place, so the agent refuses every path then.
-/
def agentSafePath (tree : LinkTree) (serverRoot : RawPath) (path : String)
    (roots files : List String)
    : Except HttpError Location := do
  let roots := openNames roots allowedRoots
  let files := openNames files allowedRootFiles
  let parts ← parseRelativeParts path
  agentCheckParts roots files false true parts
  resolveBelow tree serverRoot (joinParts parts)

/-- `_validate_server_id` -/
def checkServerId (serverId : String) : Except HttpError Unit :=
  if validateServerId serverId then .ok () else .error ⟨400, "Invalid server ID format"⟩

/-- `agent_delete_file` -/
def agentDeleteFile (tree : LinkTree) (serversRoot : RawPath) (serverId path : String)
    (params : PolicyParams) (failure : Option String)
    : Except HttpError Removal := do
  checkServerId serverId
  let root := serversRoot ++ [serverId]
  let roots := parseAllowedCsv params.allowedRoots allowedRoots
  let files := parseAllowedCsv params.allowedFiles allowedRootFiles
  let target ← agentSafePath tree root path roots files
  removeTarget { tree, root, roots, files, target } "Delete failed: " failure

/-- `_get_local_server_root` -/
def getLocalServerRoot (tree : LinkTree) (server : Server) : Except HttpError Location :=
  match server.mcConfig.serverDir.filter (fun dir => dir ≠ "") with
  | none => .error ⟨400, "Server directory not configured"⟩
  | some dir =>
      match tree.realpath (systemParts dir) with
      | none => .error internalError
      | some root =>
          if tree.isDir root then .ok root
          else .error ⟨404, "Server root directory does not exist"⟩

structure Disks where
  control : LinkTree
  node : LinkTree
  serversRoot : RawPath

inductive DeleteRequest where
  | control (permission : Except HttpError Unit) (server : Server) (node : Option Node)
    (path : String) (failure : Option String)
  | agent (serverId path : String) (params : PolicyParams) (failure : Option String)

/-- `delete_file_or_folder`; `node` is the stored node of the server, if it has one. -/
def deleteFileOrFolder (disks : Disks) (permission : Except HttpError Unit) (server : Server)
    (node : Option Node) (path : String) (failure : Option String)
    : Except HttpError Removal := do
  permission
  guardFileAccess server node
  let policy := fileAccessPolicy server.flavor
  match node with
  | some _ =>
      let _ ← validateFilePolicyPath path policy false true
      match agentDeleteFile disks.node disks.serversRoot (uuidText server.id) path
          (agentPolicyParams policy) failure with
      | .ok removal => .ok removal
      | .error refused => .error ⟨refused.status, answerText refused⟩
  | none =>
      let root ← getLocalServerRoot disks.control server
      let _ ← validateFilePolicyPath path policy false true
      let target ←
        resolveBelow disks.control root (String.ofList (path.toList.dropWhile isSlash))
      removeTarget
        { tree := disks.control, root, roots := policy.roots, files := policy.rootFiles, target }
        "Failed to delete: " failure

def DeleteRequest.removal (disks : Disks) : DeleteRequest → Except HttpError Removal
  | .control permission server node path failure =>
      deleteFileOrFolder disks permission server node path failure
  | .agent serverId path params failure =>
      agentDeleteFile disks.node disks.serversRoot serverId path params failure

-- The law

def Removal.folders (removal : Removal) : List String := openNames removal.roots allowedRoots

def Removal.rootFiles (removal : Removal) : List String :=
  openNames removal.files allowedRootFiles

/-- The place of a root folder or a root file: its own, or the one that it leads to as a link. -/
def Removal.Protected (removal : Removal) (place : Location) : Prop :=
  ∃ name ∈ removal.folders ++ removal.rootFiles,
    place = removal.root ++ [name] ∨ removal.tree.LeadsTo (removal.root ++ [name]) place

/-- What goes is neither a protected folder or file nor above one. -/
def Removal.SparesProtected (removal : Removal) : Prop :=
  ∀ place, removal.Protected place → ¬ removal.target <+: place

/-- A root folder or root file is a link to a place. -/
def Removal.Linked (removal : Removal) (name : String) (place : Location) : Prop :=
  removal.tree.LeadsTo (removal.root ++ [name]) place ∧ place ≠ removal.root ++ [name]

/-- The condition: no link brings the path back to the server's directory, no root folder is a
link to something inside what the path leads to, and no root file is a link to it or into it.
Where a list of the request names nothing that the agent knows, the path leads to none of the
folders or files that the agent opens instead.
-/
structure Removal.Clear (removal : Removal) : Prop where
  notBack : removal.target ≠ removal.root
  folders
    : ∀ name ∈ removal.folders, ∀ place, removal.Linked name place
      → place ≠ removal.target → ¬ removal.target <+: place
  files
    : ∀ name ∈ removal.rootFiles, ∀ place, removal.Linked name place
      → ¬ removal.target <+: place
  unlistedFolders
    : removal.roots = [] → ∀ name ∈ allowedRoots,
        ¬ removal.tree.LeadsTo (removal.root ++ [name]) removal.target
  unlistedFiles
    : removal.files = [] → ∀ name ∈ allowedRootFiles, removal.target ≠ removal.root ++ [name]

-- Accepted requests

/-- What the checks of an accepted request have shown. -/
structure Removal.Checked (removal : Removal) : Prop where
  settled : removal.tree.Settled removal.target
  inside : removal.root <+: removal.target
  noFolder
    : ∀ name ∈ removal.roots, ¬ removal.tree.LeadsTo (removal.root ++ [name]) removal.target
  noFile : isRootFile removal.root removal.files removal.target = false

variable {removal : Removal} {disks : Disks} {request : DeleteRequest}

theorem resolveBelow_ok {tree : LinkTree} {root : RawPath} {text : String} {target : Location}
    (resolved : resolveBelow tree root text = .ok target)
    : tree.Settled target ∧ root <+: target := by
  unfold resolveBelow at resolved
  split at resolved
  · cases resolved
  · rename_i place found
    split at resolved
    · rename_i inside
      cases resolved
      exact ⟨(FileTree.leadsTo_of_realpath found).settled, List.isPrefixOf_iff_prefix.mp inside⟩
    · cases resolved

/-- The loop over the root folders, by induction on them. -/
theorem guardFolders_ok {tree : LinkTree} {root : RawPath} {target : Location}
    {roots : List String} (passed : guardFolders tree root target roots = .ok ())
    : ∀ name ∈ roots, ¬ tree.LeadsTo (root ++ [name]) target := by
  induction roots with
  | nil => simp
  | cons first rest ih =>
      simp only [guardFolders] at passed
      split at passed
      · cases passed
      · rename_i place resolved
        split at passed
        · cases passed
        · rename_i other
          intro name member
          rcases List.mem_cons.mp member with rfl | member
          · exact fun leads => other (leads.unique (FileTree.leadsTo_of_realpath resolved))
          · exact ih passed name member

theorem guardRemoval_ok (passed : guardRemoval removal = .ok ())
    : (∀ name ∈ removal.roots, ¬ removal.tree.LeadsTo (removal.root ++ [name]) removal.target)
      ∧ isRootFile removal.root removal.files removal.target = false := by
  obtain ⟨_, folders, passed⟩ := except_bind_ok passed
  refine ⟨guardFolders_ok folders, ?_⟩
  by_contra isFile
  rw [Bool.not_eq_false] at isFile
  rw [isFile] at passed
  cases passed

theorem removeTarget_ok {detail : String} {failure : Option String} {removed : Removal}
    (accepted : removeTarget removal detail failure = .ok removed)
    : removed = removal ∧ guardRemoval removal = .ok () := by
  obtain ⟨_, passed, accepted⟩ := except_bind_ok accepted
  cases failure with
  | some text => cases accepted
  | none =>
      cases accepted
      exact ⟨rfl, passed⟩

theorem checked_removeTarget {detail : String} {failure : Option String} {removed : Removal}
    (settled : removal.tree.Settled removal.target) (inside : removal.root <+: removal.target)
    (accepted : removeTarget removal detail failure = .ok removed)
    : removed.Checked := by
  obtain ⟨rfl, passed⟩ := removeTarget_ok accepted
  obtain ⟨noFolder, noFile⟩ := guardRemoval_ok passed
  exact ⟨settled, inside, noFolder, noFile⟩

theorem checked_agentDeleteFile {tree : LinkTree} {serversRoot : RawPath} {serverId path : String}
    {params : PolicyParams} {failure : Option String}
    (accepted : agentDeleteFile tree serversRoot serverId path params failure = .ok removal)
    : removal.Checked := by
  obtain ⟨_, _, accepted⟩ := except_bind_ok accepted
  obtain ⟨target, located, accepted⟩ := except_bind_ok accepted
  obtain ⟨_, _, located⟩ := except_bind_ok located
  obtain ⟨_, _, located⟩ := except_bind_ok located
  obtain ⟨settled, inside⟩ := resolveBelow_ok located
  exact checked_removeTarget settled inside accepted

theorem DeleteRequest.checked (accepted : request.removal disks = .ok removal)
    : removal.Checked := by
  cases request with
  | agent serverId path params failure => exact checked_agentDeleteFile accepted
  | control permission server node path failure =>
      obtain ⟨_, _, accepted⟩ := except_bind_ok accepted
      obtain ⟨_, _, accepted⟩ := except_bind_ok accepted
      cases node with
      | some node =>
          obtain ⟨_, _, accepted⟩ := except_bind_ok accepted
          split at accepted
          · rename_i removed agentAccepted
            cases accepted
            exact checked_agentDeleteFile agentAccepted
          · cases accepted
      | none =>
          obtain ⟨root, _, accepted⟩ := except_bind_ok accepted
          obtain ⟨_, _, accepted⟩ := except_bind_ok accepted
          obtain ⟨target, located, accepted⟩ := except_bind_ok accepted
          obtain ⟨settled, inside⟩ := resolveBelow_ok located
          exact checked_removeTarget settled inside accepted

-- Protected entries

theorem openNames_ne_nil {names allowedValues : List String} (known : allowedValues ≠ [])
    : openNames names allowedValues ≠ [] := by
  unfold openNames
  split
  · exact known
  · assumption

theorem mem_openNames {names allowedValues : List String} {name : String}
    (member : name ∈ openNames names allowedValues)
    : name ∈ names ∨ names = [] ∧ name ∈ allowedValues := by
  unfold openNames at member
  split at member
  · rename_i empty
    exact .inr ⟨empty, member⟩
  · exact .inl member

theorem Removal.Checked.not_folder (checked : removal.Checked) (clear : removal.Clear)
    {name : String} (member : name ∈ removal.folders)
    : ¬ removal.tree.LeadsTo (removal.root ++ [name]) removal.target := by
  rcases mem_openNames member with listed | ⟨empty, known⟩
  · exact checked.noFolder name listed
  · exact clear.unlistedFolders empty name known

theorem Removal.Checked.not_file (checked : removal.Checked) (clear : removal.Clear)
    {name : String} (member : name ∈ removal.rootFiles)
    : removal.target ≠ removal.root ++ [name] := by
  rcases mem_openNames member with listed | ⟨empty, known⟩
  · intro same
    have found : isRootFile removal.root removal.files removal.target = true := by
      simp [isRootFile, same, listed]
    exact absurd found (by simp [checked.noFile])
  · exact clear.unlistedFiles empty name known

theorem Removal.Checked.not_above (checked : removal.Checked) (clear : removal.Clear)
    {name : String} (member : name ∈ removal.folders ++ removal.rootFiles)
    : ¬ removal.target <+: removal.root ++ [name] := by
  intro above
  rcases List.prefix_concat_iff.mp above with same | higher
  · rcases List.mem_append.mp member with folder | file
    · exact checked.not_folder clear folder (same ▸ checked.settled.leadsTo)
    · exact checked.not_file clear file same
  · exact clear.notBack (higher.eq_of_length_le checked.inside.length_le)

/-- An accepted deletion spares the protected folders and files exactly under the condition. -/
theorem deletion_spares_iff (accepted : request.removal disks = .ok removal)
    : removal.SparesProtected ↔ removal.Clear := by
  have checked := DeleteRequest.checked accepted
  constructor
  · intro spares
    refine ⟨?_, ?_, ?_, ?_, ?_⟩
    · intro back
      -- The server's directory is above every root folder, and there is always one.
      obtain ⟨name, member⟩ := List.exists_mem_of_ne_nil removal.folders
        (openNames_ne_nil (by decide))
      refine spares _ ⟨name, List.mem_append_left _ member, .inl rfl⟩ ?_
      exact back ▸ List.prefix_append removal.root [name]
    · intro name member place linked _
      exact spares place ⟨name, List.mem_append_left _ member, .inr linked.1⟩
    · intro name member place linked
      exact spares place ⟨name, List.mem_append_right _ member, .inr linked.1⟩
    · intro empty name known leads
      have member : name ∈ removal.folders := by simp [Removal.folders, openNames, empty, known]
      exact spares _ ⟨name, List.mem_append_left _ member, .inr leads⟩ (List.prefix_refl _)
    · intro empty name known same
      have member : name ∈ removal.rootFiles := by
        simp [Removal.rootFiles, openNames, empty, known]
      exact spares _ ⟨name, List.mem_append_right _ member, .inl same⟩ (List.prefix_refl _)
  · rintro clear place ⟨name, member, own | leads⟩ above
    · exact checked.not_above clear member (own ▸ above)
    · by_cases own : place = removal.root ++ [name]
      · exact checked.not_above clear member (own ▸ above)
      rcases List.mem_append.mp member with folder | file
      · refine clear.folders name folder place ⟨leads, own⟩ ?_ above
        rintro rfl
        exact checked.not_folder clear folder leads
      · exact clear.files name file place ⟨leads, own⟩ above

/-- The directory of a server with a world, and a link in `worlds` that leads back to it. -/
private def linkedDisks : Disks where
  control := FileTree.empty
  node :=
    let server := ["srv", "00000000-0000-0000-0000-000000000001"]
    let made := ((FileTree.empty : LinkTree).makeDirs (server ++ ["worlds", "old"])).getD .empty
    (made.writeFile (server ++ ["worlds", "back"]) (.link "..")).getD .empty
  serversRoot := ["srv"]

private def deleteAt (path : String) : DeleteRequest :=
  .agent "00000000-0000-0000-0000-000000000001" path
    (agentPolicyParams (fileAccessPolicy .bedrock)) none

/-- A deletion of the old world spares the protected entries. -/
theorem world_deletion_spares
    : ∃ removal, (deleteAt "worlds/old").removal linkedDisks = .ok removal
        ∧ removal.SparesProtected := by
  let plain := fun removal : Removal =>
    decide (removal.target ≠ removal.root ∧ removal.roots ≠ [] ∧ removal.files ≠ []
      ∧ ∀ name ∈ removal.folders ++ removal.rootFiles,
          removal.tree.realpath (removal.root ++ [name]) = some (removal.root ++ [name]))
  have removes : ((deleteAt "worlds/old").removal linkedDisks).map plain = .ok true := by
    decide +kernel
  obtain ⟨removal, accepted, found⟩ := except_map_ok removes
  obtain ⟨notBack, roots, files, own⟩ := of_decide_eq_true found
  refine ⟨removal, accepted, (deletion_spares_iff accepted).mpr ?_⟩
  have unlinked : ∀ name ∈ removal.folders ++ removal.rootFiles, ∀ place,
      ¬ removal.Linked name place := fun name member place linked =>
    linked.2 (linked.1.unique (FileTree.leadsTo_of_realpath (own name member)))
  exact {
    notBack
    folders := fun name member place linked =>
      absurd linked (unlinked name (List.mem_append_left _ member) place)
    files := fun name member place linked =>
      absurd linked (unlinked name (List.mem_append_right _ member) place)
    unlistedFolders := fun empty => absurd empty roots
    unlistedFiles := fun empty => absurd empty files
  }

/-- A deletion of the link is accepted and removes the whole directory of the server. -/
theorem link_back_deletes_server
    : ∃ removal, (deleteAt "worlds/back").removal linkedDisks = .ok removal
        ∧ removal.target = ["srv", "00000000-0000-0000-0000-000000000001"]
        ∧ ¬ removal.SparesProtected := by
  have removes
      : ((deleteAt "worlds/back").removal linkedDisks).map
            (fun removal => (removal.target, removal.root, removal.folders.contains "worlds"))
        = .ok (["srv", "00000000-0000-0000-0000-000000000001"],
            ["srv", "00000000-0000-0000-0000-000000000001"], true) := by
    decide +kernel
  obtain ⟨removal, accepted, found⟩ := except_map_ok removes
  obtain ⟨target, root, member⟩
      : removal.target = _ ∧ removal.root = _ ∧ "worlds" ∈ removal.folders := by
    simpa using found
  refine ⟨removal, accepted, target, ?_⟩
  intro spares
  refine spares _ ⟨"worlds", List.mem_append_left _ member, .inl rfl⟩ ?_
  rw [target, root]
  exact List.prefix_append _ _

end Blockhost.FilePaths
