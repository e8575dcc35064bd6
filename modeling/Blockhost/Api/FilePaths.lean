import Blockhost.Agent.Disk
import Blockhost.Api.Schemas
import Blockhost.Library.Texts
import Blockhost.Orchestrator.BackupPaths
import Mathlib.Data.List.Sort

/-! The paths that users give to the file manager. The control plane checks a path before it
forwards a request, and the agent checks it again; each has its own way from the text to a place
in the server's directory.
-/

namespace Blockhost.FilePaths

open Library

-- Policies

structure FileAccessPolicy where
  roots : List String
  rootFiles : List String

def bedrockFilePolicy : FileAccessPolicy where
  roots :=
    ["worlds", "behavior_packs", "resource_packs", "skin_packs", "world_templates",
      "development_behavior_packs", "development_resource_packs", "development_skin_packs"]
  rootFiles :=
    ["server.properties", "allowlist.json", "permissions.json", "valid_known_packs.json",
      "world_behavior_packs.json", "world_resource_packs.json"]

def javaFilePolicy : FileAccessPolicy where
  roots := ["world", "world_nether", "world_the_end", "worlds", "mods", "plugins", "config"]
  rootFiles :=
    ["server.properties", "eula.txt", "ops.json", "whitelist.json", "banned-players.json",
      "banned-ips.json"]

/-- `_file_access_policy` -/
def fileAccessPolicy (flavor : ServerFlavor) : FileAccessPolicy :=
  if isJavaFlavor flavor then javaFilePolicy else bedrockFilePolicy

/-- `_agent_policy_params`, without the other parameters. -/
structure PolicyParams where
  allowedRoots : Option String
  allowedFiles : Option String

def sortedCsv (names : List String) : String :=
  ",".intercalate (names.insertionSort (· ≤ ·))

def agentPolicyParams (policy : FileAccessPolicy) : PolicyParams where
  allowedRoots := some (sortedCsv policy.roots)
  allowedFiles := some (sortedCsv policy.rootFiles)

/-- `_parse_allowed_csv` of the agent. -/
def parseAllowedCsv (raw : Option String) (allowedValues : List String) : List String :=
  match raw with
  | none | some "" => allowedValues
  | some raw =>
      let items := ((raw.toList.splitOn ',').map strip).filter (fun item => item ≠ [])
      (items.map String.ofList).filter (fun item => allowedValues.contains item)

-- Names

def traversalDetected : HttpError := ⟨403, "Path traversal detected"⟩

def accessDenied : HttpError := ⟨403, "Access denied to this folder"⟩

def isSlash (letter : Char) : Bool := letter = '/'

/-- `_parse_relative_parts`, which both programs have. -/
def parseRelativeParts (requestedPath : String) : Except HttpError (List String) :=
  let clean := (strip requestedPath.toList).dropWhile isSlash
  let parts := (segments '/' clean).map String.ofList
  if parts.contains "." || parts.contains ".." then .error traversalDetected else .ok parts

/-- The part of `_validate_file_policy_path` after the parsing. -/
def checkFilePolicy (policy : FileAccessPolicy) (allowRoot allowRootFile : Bool)
    : List String → Except HttpError (List String)
  | [] => if allowRoot then .ok [] else .error accessDenied
  | first :: rest =>
      if rest = [] ∧ policy.rootFiles.contains first then
        if allowRootFile then .ok (first :: rest) else .error accessDenied
      else if !policy.roots.contains first then .error accessDenied
      else .ok (first :: rest)

/-- `_validate_file_policy_path` -/
def validateFilePolicyPath (requestedPath : String) (policy : FileAccessPolicy)
    (allowRoot allowRootFile : Bool)
    : Except HttpError (List String) := do
  let parts ← parseRelativeParts requestedPath
  checkFilePolicy policy allowRoot allowRootFile parts

-- Places

/-- The directory of a server, itself resolved, and where the disk leads a path: past links, and
nowhere when the path cannot be a path.
-/
structure ServerRoot where
  root : Location
  resolve : RawPath → Option Location
  resolved : resolve root = some root

/-- Resolve a text from the server's directory on; the place must lie below it. -/
def ServerRoot.follow (server : ServerRoot) (text : String) : Except HttpError Location :=
  match server.resolve (joinPath server.root text) with
  | none => .error internalError
  | some place =>
      if server.root.isPrefixOf place then .ok place else .error traversalDetected

/-- `_validate_safe_path` of the control plane. -/
def validateSafePath (server : ServerRoot) (requestedPath : String) (policy : FileAccessPolicy)
    (allowRoot allowRootFile : Bool)
    : Except HttpError Location := do
  let _ ← validateFilePolicyPath requestedPath policy allowRoot allowRootFile
  server.follow (String.ofList (requestedPath.toList.dropWhile isSlash))

def joinParts (parts : List String) : String :=
  String.ofList (['/'].intercalate (parts.map String.toList))

/-- The checks of names in `_validate_safe_path` of the agent. -/
def agentCheckParts (roots files : List String) (allowRoot allowRootFile : Bool)
    : List String → Except HttpError Unit
  | [] => if !allowRoot then .error accessDenied else .ok ()
  | first :: rest =>
      if rest = [] ∧ files.contains first then
        if !allowRootFile then .error accessDenied else .ok ()
      else if !roots.contains first then .error accessDenied
      else .ok ()

/-- `_validate_safe_path` of the agent. -/
def agentValidateSafePath (server : ServerRoot) (requestedPath : String)
    (roots files : List String) (allowRoot allowRootFile : Bool)
    : Except HttpError Location := do
  let roots := if roots = [] then allowedRoots else roots
  let files := if files = [] then allowedRootFiles else files
  let parts ← parseRelativeParts requestedPath
  agentCheckParts roots files allowRoot allowRootFile parts
  server.follow (joinParts parts)

-- Operations

inductive FileOperation where
  | list
  | read
  | write
  | download
  | upload
  | delete
deriving DecidableEq, Repr

def FileOperation.allowRoot (operation : FileOperation) : Bool := operation = .list

def FileOperation.allowRootFile (operation : FileOperation) : Bool := operation ≠ .upload

/-- Where the control plane finds the path of an operation that it forwards. -/
def controlLocates (server : ServerRoot) (flavor : ServerFlavor) (operation : FileOperation)
    (path : String)
    : Except HttpError Location :=
  validateSafePath server path (fileAccessPolicy flavor) operation.allowRoot
    operation.allowRootFile

def listsRoot (path : String) : Bool := path = "" || strip path.toList = ['/']

def agentLocates (server : ServerRoot) (params : PolicyParams) (operation : FileOperation)
    (path : String)
    : Except HttpError Location :=
  let roots := parseAllowedCsv params.allowedRoots allowedRoots
  let files := parseAllowedCsv params.allowedFiles allowedRootFiles
  if operation = .list ∧ listsRoot path then .ok server.root
  else agentValidateSafePath server path roots files false operation.allowRootFile

-- The parameters

def CsvName (name : String) : Prop :=
  name ≠ "" ∧ ',' ∉ name.toList ∧ strip name.toList = name.toList

instance (name : String) : Decidable (CsvName name) := by
  unfold CsvName; infer_instance

section SortedLists

variable {names : List String}

theorem splitOn_sortedCsv (filled : names ≠ []) (csv : ∀ name ∈ names, CsvName name)
    : (sortedCsv names).toList.splitOn ','
      = (names.insertionSort (· ≤ ·)).map String.toList := by
  rw [sortedCsv, String.toList_intercalate]
  refine List.splitOn_intercalate ',' ?_ ?_
  · intro part member
    obtain ⟨name, listed, rfl⟩ := List.mem_map.mp member
    exact (csv name ((List.mem_insertionSort _).mp listed)).2.1
  · intro none
    have counted := congrArg List.length none
    rw [List.length_map, List.length_insertionSort] at counted
    exact filled (List.length_eq_zero_iff.mp counted)

theorem items_sortedCsv (csv : ∀ name ∈ names, CsvName name)
    : (((names.insertionSort (· ≤ ·)).map String.toList).map strip).filter
        (fun item => item ≠ [])
      = (names.insertionSort (· ≤ ·)).map String.toList := by
  have sorted : ∀ name ∈ names.insertionSort (· ≤ ·), CsvName name :=
    fun name listed => csv name ((List.mem_insertionSort _).mp listed)
  have stripped : ((names.insertionSort (· ≤ ·)).map String.toList).map strip
      = (names.insertionSort (· ≤ ·)).map String.toList := by
    rw [List.map_map]
    exact List.map_congr_left fun name listed => (sorted name listed).2.2
  rw [stripped, List.filter_eq_self]
  intro part member
  obtain ⟨name, listed, rfl⟩ := List.mem_map.mp member
  have letters : name.toList ≠ [] := by
    simpa using (sorted name listed).1
  exact decide_eq_true letters

theorem sortedCsv_ne_empty (filled : names ≠ []) (csv : ∀ name ∈ names, CsvName name)
    : sortedCsv names ≠ "" := by
  intro empty
  have written := splitOn_sortedCsv filled csv
  rw [empty] at written
  have blank : [] ∈ (names.insertionSort (· ≤ ·)).map String.toList := by
    rw [← written]
    exact List.mem_singleton_self _
  rw [← items_sortedCsv csv] at blank
  exact of_decide_eq_true (List.mem_filter.mp blank).2 rfl

theorem parseAllowedCsv_sortedCsv {allowedValues : List String} (filled : names ≠ [])
    (csv : ∀ name ∈ names, CsvName name) (known : names ⊆ allowedValues)
    : parseAllowedCsv (some (sortedCsv names)) allowedValues
      = names.insertionSort (· ≤ ·) := by
  have back : ((names.insertionSort (· ≤ ·)).map String.toList).map String.ofList
      = names.insertionSort (· ≤ ·) := by
    rw [List.map_map]
    exact (List.map_congr_left fun _ _ => String.ofList_toList).trans (List.map_id _)
  unfold parseAllowedCsv
  split
  · rename_i absent
    cases absent
  · rename_i empty
    exact absurd (Option.some.inj empty) (sortedCsv_ne_empty filled csv)
  · rename_i raw _ same
    cases same
    simp only [splitOn_sortedCsv filled csv, items_sortedCsv csv, back]
    rw [List.filter_eq_self]
    exact fun name listed =>
      List.contains_iff_mem.mpr (known ((List.mem_insertionSort _).mp listed))

end SortedLists

theorem policy_ne_nil (flavor : ServerFlavor)
    : (fileAccessPolicy flavor).roots ≠ [] ∧ (fileAccessPolicy flavor).rootFiles ≠ [] := by
  unfold fileAccessPolicy
  split
  · exact ⟨List.cons_ne_nil _ _, List.cons_ne_nil _ _⟩
  · exact ⟨List.cons_ne_nil _ _, List.cons_ne_nil _ _⟩

theorem policy_names (flavor : ServerFlavor)
    : ((∀ name ∈ (fileAccessPolicy flavor).roots, CsvName name)
        ∧ (fileAccessPolicy flavor).roots ⊆ allowedRoots)
      ∧ (∀ name ∈ (fileAccessPolicy flavor).rootFiles, CsvName name)
      ∧ (fileAccessPolicy flavor).rootFiles ⊆ allowedRootFiles := by
  unfold fileAccessPolicy
  split
  · decide
  · decide

theorem parsed_policy (flavor : ServerFlavor)
    : parseAllowedCsv (agentPolicyParams (fileAccessPolicy flavor)).allowedRoots allowedRoots
        = (fileAccessPolicy flavor).roots.insertionSort (· ≤ ·)
      ∧ parseAllowedCsv (agentPolicyParams (fileAccessPolicy flavor)).allowedFiles
          allowedRootFiles
        = (fileAccessPolicy flavor).rootFiles.insertionSort (· ≤ ·) := by
  obtain ⟨noRoots, noFiles⟩ := policy_ne_nil flavor
  obtain ⟨⟨roots, knownRoots⟩, files, knownFiles⟩ := policy_names flavor
  exact ⟨parseAllowedCsv_sortedCsv noRoots roots knownRoots,
    parseAllowedCsv_sortedCsv noFiles files knownFiles⟩

end Blockhost.FilePaths
