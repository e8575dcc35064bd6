import Blockhost.Agent.VersionLayout
import Blockhost.Api.ProtectedPaths
import Blockhost.Library.Lines
import Blockhost.Library.Octets

/-! The listings of the agent and the requests for what they list. A listing follows the links of
the directory, while every request for a path refuses a place outside the server's directory.
-/

namespace Blockhost.FileListings

open Library FilePaths VersionLayout

-- Requests

def assetAt (world : World Octets) (path : Location) : Option (Asset Octets) :=
  match world.tree.lookup path with
  | none => none
  | some .dir => some .folder
  | some (.file (.own content)) => some (.file content)
  | some (.file (.link version asset)) =>
      (world.store version).bind (fun installed => installed.asset asset)

def isLink (tree : ServerTree Octets) (path : Location) : Bool :=
  match tree.lookup path with
  | some (.file (.link _ _)) => true
  | _ => false

def rootNames (params : PolicyParams) : List String :=
  parseAllowedCsv params.allowedRoots allowedRoots

def fileNames (params : PolicyParams) : List String :=
  parseAllowedCsv params.allowedFiles allowedRootFiles

def openRoots (params : PolicyParams) : List String := openNames (rootNames params) allowedRoots

def openFiles (params : PolicyParams) : List String :=
  openNames (fileNames params) allowedRootFiles

/-- `_validate_safe_path`, relative to the server's directory. A path that leads through a link
leaves the directory.
-/
def locate (tree : ServerTree Octets) (params : PolicyParams) (allowRootFile : Bool)
    (path : String)
    : Except HttpError Location := do
  let parts ← parseRelativeParts path
  agentCheckParts (openRoots params) (openFiles params) false allowRootFile parts
  if parts.inits.any (isLink tree) then .error traversalDetected else return parts

structure FileEntry where
  name : String
  path : String
  isDir : Bool
  size : Option Nat
deriving DecidableEq, Repr

/-- The entry for what is stored under a path; nothing is listed for a link that leads nowhere. -/
def entryAt (world : World Octets) (dir : Location) (name : String) : Option FileEntry :=
  match assetAt world (dir ++ [name]) with
  | none => none
  | some asset =>
      some {
        name
        path := joinParts (dir ++ [name])
        isDir := asset.isFolder
        size := match asset with
          | .folder => none
          | .file content => some content.length
          | .special => some 0 }

/-- The directory that a listing shows; the directory of the server is always there. -/
def listedDir (world : World Octets) (params : PolicyParams) (path : String)
    : Except HttpError Location :=
  if listsRoot path then .ok []
  else do
    let place ← locate world.tree params true path
    match assetAt world place with
    | none => .error ⟨404, "Path not found"⟩
    | some .folder => .ok place
    | some _ => .error ⟨400, "Not a directory"⟩

def isFile : Asset Octets → Bool
  | .file _ => true
  | .folder | .special => false

def entriesOf (world : World Octets) (params : PolicyParams) (dir : Location) : List FileEntry :=
  if dir = [] then
    ((rootNames params).filter (fun folder => (assetAt world [folder]).any Asset.isFolder)
        ++ (fileNames params).filter (fun file => (assetAt world [file]).any isFile)).filterMap
      (entryAt world [])
  else
    ((world.tree.below dir).filter (fun rest => rest.length = 1)).flatten.filterMap
      (entryAt world dir)

def agentListFiles (world : World Octets) (params : PolicyParams) (path : String)
    : Except HttpError (List FileEntry) :=
  (listedDir world params path).map (entriesOf world params)

def maxEditSize : Nat := 5 * 1024 * 1024

/-- `agent_download_file`, with the place of the file that it sends. -/
def agentDownloadFile (world : World Octets) (params : PolicyParams) (path : String)
    : Except HttpError (Location × Octets) := do
  let place ← locate world.tree params true path
  match assetAt world place with
  | some (.file content) => return (place, content)
  | _ => .error ⟨404, "File not found"⟩

def agentReadFile (world : World Octets) (params : PolicyParams) (path : String)
    : Except HttpError (List Char) := do
  let (_, content) ← agentDownloadFile world params path
  if maxEditSize < content.length then .error ⟨413, "File too large to edit"⟩
  else
    match decodeText content with
    | none => .error ⟨400, "File is not valid UTF-8 text"⟩
    | some text => return universalNewlines text

-- Changes

/-- The directory after each step of a write, any of which may be the last one: the directories
above the file, and the file itself. The temporary file that a write or an upload fills beside it
is no stage of its own.
-/
def storeStages (tree : ServerTree Octets) (place : Location) (content : Octets)
    : List (ServerTree Octets) :=
  match tree.makeDirs place.dropLast with
  | none => [tree]
  | some next => [tree, next, (next.writeFile place (.own content)).getD next]

inductive FileEvent where
  | start (requested : String) (inputs : StartInputs Octets)
  | write (params : PolicyParams) (path : String) (content : Octets)
  | upload (params : PolicyParams) (path : String) (filename : Option String) (content : Octets)
  | delete (params : PolicyParams) (path : String)

/-- A start or a file operation. The names of a version are names of files. What a deletion removes
lies below its path, and not all of it is gone when it fails. The later checks of uploads and of
deletions, which only refuse, are left out, so these runs are no fewer than those of the program.
-/
inductive FileStep : World Octets → FileEvent → World Octets → Prop where
  | start {world : World Octets} {requested : String} {inputs : StartInputs Octets}
      (named
        : ∀ version installed,
          (VersionLayout.ensureServerLayout inputs requested world).1.store version
              = some installed
          → ∀ child ∈ installed.children, PlainName child.1)
      : FileStep world (.start requested inputs)
          (VersionLayout.ensureServerLayout inputs requested world).1
  | write {before after : World Octets} {params : PolicyParams} {path : String}
      {content : Octets} {place : Location}
      (found : locate before.tree params true path = .ok place)
      (store : after.store = before.store)
      (stage : after.tree ∈ storeStages before.tree place content)
      : FileStep before (.write params path content) after
  | upload {before after : World Octets} {params : PolicyParams} {path : String}
      {filename : Option String} {content : Octets} {dir : Location}
      (found : locate before.tree params false path = .ok dir)
      (store : after.store = before.store)
      (stage
        : after.tree ∈ storeStages before.tree (dir ++ [uploadName filename]) content)
      : FileStep before (.upload params path filename content) after
  | delete {before after : World Octets} {params : PolicyParams} {path : String}
      {place : Location} (gone : List Location)
      (found : locate before.tree params true path = .ok place)
      (store : after.store = before.store)
      (within : ∀ path ∈ gone, place <+: path)
      (removed : after.tree = gone.foldl FileTree.remove before.tree)
      : FileStep before (.delete params path) after
  | refused {world : World Octets} {event : FileEvent} : FileStep world event world

-- Closed listings

/-- An entry of a directory can be listed with its path, or downloaded and, when it is a small
text, read.
-/
def Opens (world : World Octets) (params : PolicyParams) (dir : Location) (entry : FileEntry)
    : Prop :=
  (entry.isDir = true → listedDir world params entry.path = .ok (dir ++ [entry.name]))
  ∧ (entry.isDir = false → ∃ content,
      agentDownloadFile world params entry.path = .ok (dir ++ [entry.name], content)
      ∧ ∀ text, content.length ≤ maxEditSize → decodeText content = some text
        → agentReadFile world params entry.path = .ok (universalNewlines text))

/-- Every entry that a listing returns can be opened. -/
def ClosedListings (world : World Octets) (params : PolicyParams) : Prop :=
  ∀ path dir entries, listedDir world params path = .ok dir
    → agentListFiles world params path = .ok entries
    → ∀ entry ∈ entries, Opens world params dir entry

def EndsInSpace (name : String) : Prop := ∃ letter ∈ name.toList.getLast?, isSpace letter = true

/-- No folder or file of the root is listed through a link, and no name below the open folders ends
in white space.
-/
structure Openable (world : World Octets) (params : PolicyParams) : Prop where
  folders
    : ∀ folder ∈ rootNames params, assetAt world [folder] = some .folder
      → isLink world.tree [folder] = false
  files
    : ∀ file ∈ fileNames params, ∀ content, assetAt world [file] = some (.file content)
      → isLink world.tree [file] = false
  names
    : ∀ first ∈ openRoots params, ∀ rest name,
      world.tree.lookup (first :: rest ++ [name]) ≠ none → ¬ EndsInSpace name

-- Paths of entries

/-- The text of a path ends in its last name and starts with its first one; by induction on the
names before the last one.
-/
theorem joinParts_concat (dir : Location) (name : String)
    : ∃ front, (joinParts (dir ++ [name])).toList = front ++ name.toList
      ∧ ∃ back, (joinParts (dir ++ [name])).toList
          = ((dir ++ [name]).head (by simp)).toList ++ back := by
  unfold joinParts
  rw [String.toList_ofList]
  induction dir with
  | nil => exact ⟨[], by simp, [], by simp⟩
  | cons first rest ih =>
      obtain ⟨front, ends, _⟩ := ih
      have whole : ['/'].intercalate ((first :: rest ++ [name]).map String.toList)
          = first.toList ++ '/' :: ['/'].intercalate ((rest ++ [name]).map String.toList) := by
        cases rest with
        | nil => simp [List.intercalate_cons_cons]
        | cons second more => simp [List.intercalate_cons_cons]
      rw [whole]
      exact ⟨first.toList ++ '/' :: front, by rw [ends]; simp, _, rfl⟩

theorem splitOn_joinParts {parts : Location} (plain : ∀ name ∈ parts, PlainName name)
    (named : parts ≠ [])
    : (joinParts parts).toList.splitOn '/' = parts.map String.toList := by
  unfold joinParts
  rw [String.toList_ofList]
  refine List.splitOn_intercalate '/' ?_ (by simpa using named)
  intro text member
  obtain ⟨name, known, rfl⟩ := List.mem_map.mp member
  exact (plain name known).single

theorem space_in_segments (text : List Char)
    : (segments '/' text).flatten.countP isSpace = text.countP isSpace := by
  unfold segments
  simp only [ne_eq, decide_not]
  rw [show ((text.splitOn '/').filter fun part => !decide (part = [])).flatten
      = (text.splitOn '/').flatten by simpa using List.flatten_filter_ne_nil,
    flatten_splitOn, List.countP_filter]
  refine List.countP_congr fun letter _ => ?_
  by_cases slash : letter = '/'
  · subst slash
    decide
  · simp [slash]

theorem parsed_text {path : String} {parts : Location}
    (parsed : parseRelativeParts path = .ok parts)
    : segments '/' ((strip path.toList).dropWhile isSlash) = parts.map String.toList := by
  unfold parseRelativeParts at parsed
  dsimp only at parsed
  split at parsed
  · cases parsed
  · cases parsed
    rw [List.map_map]
    exact (List.map_id _).symm.trans (List.map_congr_left fun _ _ => String.toList_ofList.symm)

/-- The path of an entry is read as that path exactly when its last name does not end in white
space, which is stripped.
-/
theorem parse_joinParts_iff {dir : Location} {name : String}
    (plain : ∀ other ∈ dir ++ [name], PlainName other)
    (bare
      : ∀ letter ∈ ((dir ++ [name]).head (by simp)).toList.head?, isSpace letter = false)
    : parseRelativeParts (joinParts (dir ++ [name])) = .ok (dir ++ [name])
      ↔ ¬ EndsInSpace name := by
  obtain ⟨front, ends, back, starts⟩ := joinParts_concat dir name
  have split := splitOn_joinParts plain (by simp)
  have all : segments '/' (joinParts (dir ++ [name])).toList
      = (dir ++ [name]).map String.toList := by
    rw [segments, split, List.filter_eq_self]
    intro text member
    obtain ⟨other, known, rfl⟩ := List.mem_map.mp member
    exact decide_eq_true (plain other known).real
  obtain ⟨last, letters, nameText⟩ : ∃ last letters, name.toList = letters ++ [last] :=
    ⟨_, _, (List.dropLast_append_getLast (plain name (by simp)).real).symm⟩
  have endsIn : EndsInSpace name ↔ isSpace last = true := by
    unfold EndsInSpace
    rw [nameText, List.getLast?_concat]
    simp
  rw [nameText, ← List.append_assoc] at ends
  obtain ⟨first, more, headText⟩ :=
    List.exists_cons_of_ne_nil (plain _ (List.head_mem (by simp : dir ++ [name] ≠ []))).real
  rw [headText] at bare
  rw [headText, List.cons_append] at starts
  rw [endsIn]
  constructor
  · intro parsed space
    have counted :=
      space_in_segments ((strip (joinParts (dir ++ [name])).toList).dropWhile isSlash)
    rw [parsed_text parsed, ← all, space_in_segments] at counted
    have fewer : ((strip (joinParts (dir ++ [name])).toList).dropWhile isSlash).countP isSpace
        ≤ (strip (joinParts (dir ++ [name])).toList).countP isSpace :=
      (List.dropWhile_sublist isSlash).countP_le
    obtain ⟨before, after, whole, _, _⟩ := strip_parts (joinParts (dir ++ [name])).toList
    have parts := congrArg (List.countP isSpace) whole
    rw [List.countP_append, List.countP_append] at parts
    have same : strip (joinParts (dir ++ [name])).toList = (joinParts (dir ++ [name])).toList :=
      strip_eq_self (by omega)
    have filled : strip (joinParts (dir ++ [name])).toList ≠ [] := by
      rw [same, ends]
      exact List.append_ne_nil_of_right_ne_nil _ (List.cons_ne_nil _ _)
    have kept := List.rdropWhile_last_not isSpace _ filled
    have stays : (strip (joinParts (dir ++ [name])).toList).getLast? = some last := by
      rw [same, ends, List.getLast?_concat]
    have final := Option.some.inj ((List.getLast?_eq_some_getLast filled).symm.trans stays)
    exact kept (final ▸ space)
  · intro noSpace
    have slash : isSlash first = false := by
      refine decide_eq_false ?_
      rintro rfl
      exact (plain _ (List.head_mem _)).single (by rw [headText]; exact List.mem_cons_self)
    have stripped : strip (joinParts (dir ++ [name])).toList
        = (joinParts (dir ++ [name])).toList := by
      have front' : (joinParts (dir ++ [name])).toList.dropWhile isSpace
          = (joinParts (dir ++ [name])).toList := by
        rw [starts, List.dropWhile_cons_of_neg]
        rw [bare first rfl]
        exact Bool.false_ne_true
      rw [strip, front', ends, List.rdropWhile_concat_neg _ _ _ noSpace]
    have clean : (joinParts (dir ++ [name])).toList.dropWhile isSlash
        = (joinParts (dir ++ [name])).toList := by
      rw [starts, List.dropWhile_cons_of_neg]
      rw [slash]
      exact Bool.false_ne_true
    unfold parseRelativeParts
    dsimp only
    rw [stripped, clean, all, List.map_map]
    have back' : (dir ++ [name]).map (String.ofList ∘ String.toList) = dir ++ [name] :=
      (List.map_congr_left fun _ _ => String.ofList_toList).trans (List.map_id _)
    rw [back']
    refine if_neg ?_
    rw [Bool.or_eq_true, List.contains_iff_mem, List.contains_iff_mem]
    rintro (here | parent)
    · exact (plain _ here).notHere rfl
    · exact (plain _ parent).notParent rfl

-- Located paths

variable {world : World Octets} {params : PolicyParams} {path : String}
variable {tree : ServerTree Octets} {place dir : Location} {name : String}

theorem mem_parseAllowedCsv {raw : Option String} {allowedValues : List String}
    (member : name ∈ parseAllowedCsv raw allowedValues)
    : name ∈ allowedValues := by
  unfold parseAllowedCsv at member
  split at member
  · exact member
  · exact member
  · exact List.contains_iff_mem.mp (List.mem_filter.mp member).2

theorem openRoots_known (member : name ∈ openRoots params) : name ∈ allowedRoots := by
  rcases mem_openNames member with listed | ⟨_, known⟩
  · exact mem_parseAllowedCsv listed
  · exact known

theorem openFiles_known (member : name ∈ openFiles params) : name ∈ allowedRootFiles := by
  rcases mem_openNames member with listed | ⟨_, known⟩
  · exact mem_parseAllowedCsv listed
  · exact known

theorem mem_openNames_of_mem {names allowedValues : List String} (member : name ∈ names)
    : name ∈ openNames names allowedValues := by
  unfold openNames
  rwa [if_neg (List.ne_nil_of_mem member)]

theorem file_notMem_roots (file : name ∈ allowedRootFiles) : name ∉ allowedRoots := by
  have apart : ∀ other ∈ allowedRootFiles, other ∉ allowedRoots := by decide
  exact apart name file

theorem policyName (known : name ∈ allowedRoots ++ allowedRootFiles)
    : PlainName name ∧ (∀ letter ∈ name.toList.head?, isSpace letter = false)
      ∧ ¬ EndsInSpace name := by
  have all : ∀ other ∈ allowedRoots ++ allowedRootFiles,
      (other.toList ≠ [] ∧ '/' ∉ other.toList ∧ other ≠ "." ∧ other ≠ "..")
      ∧ other.toList.head?.all (fun letter => !isSpace letter) = true
      ∧ other.toList.getLast?.all (fun letter => !isSpace letter) = true := by
    decide +kernel
  obtain ⟨⟨real, single, notHere, notParent⟩, first, last⟩ := all name known
  refine ⟨⟨real, single, notHere, notParent⟩, ?_, ?_⟩
  · intro letter head
    rw [Option.mem_def.mp head] at first
    simpa using first
  · rintro ⟨letter, ending, space⟩
    rw [Option.mem_def.mp ending] at last
    simp [space] at last

theorem agentCheckParts_ok {allowRootFile : Bool} {parts : Location}
    : agentCheckParts (openRoots params) (openFiles params) false allowRootFile parts = .ok ()
      ↔ ∃ first rest, parts = first :: rest
        ∧ (first ∈ openRoots params
          ∨ rest = [] ∧ first ∈ openFiles params ∧ allowRootFile = true) := by
  cases parts with
  | nil => simp [agentCheckParts]
  | cons first rest =>
      have apart : first ∈ openFiles params → first ∉ openRoots params :=
        fun file root => file_notMem_roots (openFiles_known file) (openRoots_known root)
      unfold agentCheckParts
      dsimp only
      by_cases file : rest = [] ∧ (openFiles params).contains first = true
      · have member := List.contains_iff_mem.mp file.2
        rw [if_pos file]
        cases allowRootFile <;> simp [file.1, member, apart member]
      · rw [if_neg file]
        have noFile : ¬ (rest = [] ∧ first ∈ openFiles params ∧ allowRootFile = true) :=
          fun both => file ⟨both.1, List.contains_iff_mem.mpr both.2.1⟩
        by_cases root : first ∈ openRoots params
        · simp [root]
        · simp [root, noFile]

theorem locate_ok {allowRootFile : Bool}
    : locate tree params allowRootFile path = .ok place
      ↔ parseRelativeParts path = .ok place
        ∧ (∃ first rest, place = first :: rest
          ∧ (first ∈ openRoots params
            ∨ rest = [] ∧ first ∈ openFiles params ∧ allowRootFile = true))
        ∧ ∀ above, above <+: place → isLink tree above = false := by
  unfold locate
  cases parsed : parseRelativeParts path with
  | error failure => simp [bind, Except.bind]
  | ok parts =>
      simp only [bind, Except.bind, Except.ok.injEq]
      rw [← agentCheckParts_ok]
      cases checked : agentCheckParts (openRoots params) (openFiles params) false allowRootFile
          parts with
      | error failure =>
          simp only [reduceCtorEq, false_iff, not_and]
          rintro rfl
          simp [checked]
      | ok _ =>
          have clear : parts.inits.any (isLink tree) = false
              ↔ ∀ above, above <+: parts → isLink tree above = false := by
            simp [List.mem_inits]
          cases linked : parts.inits.any (isLink tree) with
          | true =>
              simp only [if_true, reduceCtorEq, false_iff, not_and]
              rintro rfl _ all
              rw [clear.mpr all] at linked
              cases linked
          | false =>
              simp only [Bool.false_eq_true, if_false, pure, Except.pure, Except.ok.injEq]
              constructor
              · rintro rfl
                exact ⟨rfl, checked, clear.mp linked⟩
              · exact And.left

-- Reached directories

/-- What starts and file operations leave under a path: it has names of files, a link is in the
root, and so is a folder that the policy knows.
-/
structure FitsAt (path : Location) (entry : Entry (ServerFile Octets)) : Prop where
  names : ∀ name ∈ path, PlainName name
  link : ∀ version asset, entry = .file (.link version asset) → path.length = 1
  folder : ∀ name, path = [name] → entry = .dir → name ∈ allowedRoots

def Laid (tree : ServerTree Octets) : Prop :=
  ∀ path entry, tree.lookup path = some entry → FitsAt path entry

theorem Laid.names (laid : Laid tree) (stored : tree.lookup place ≠ none)
    : ∀ name ∈ place, PlainName name := by
  obtain ⟨entry, found⟩ := Option.ne_none_iff_exists'.mp stored
  exact (laid place entry found).names

theorem laid_empty : Laid FileTree.empty := by
  intro path entry stored
  simp only [FileTree.empty, Option.ite_none_right_eq_some, Option.some.injEq] at stored
  obtain ⟨rfl, rfl⟩ := stored
  refine ⟨?_, ?_, ?_⟩
  · intro name member
    cases member
  · intro version asset link
    cases link
  · intro name root
    cases root

theorem Laid.extend {after : ServerTree Octets} (laid : Laid tree)
    (changes
      : ∀ path entry, after.lookup path = some entry
        → tree.lookup path = some entry ∨ FitsAt path entry)
    : Laid after :=
  fun path entry stored => (changes path entry stored).elim (laid path entry) id

/-- By induction on the places that are removed. -/
theorem lookup_removals {gone : List Location} {entry : Entry (ServerFile Octets)}
    (stored : (gone.foldl FileTree.remove tree).lookup place = some entry)
    : tree.lookup place = some entry := by
  induction gone generalizing tree with
  | nil => exact stored
  | cons first rest ih =>
      have before : (tree.remove first).lookup place = some entry := ih stored
      unfold FileTree.remove at before
      dsimp only at before
      split at before
      · cases before
      · exact before

theorem Laid.makeDirs {next : ServerTree Octets} (laid : Laid tree)
    (made : tree.makeDirs dir = some next) (plain : ∀ name ∈ dir, PlainName name)
    (known : ∀ first rest, dir = first :: rest → first ∈ allowedRoots)
    : Laid next := by
  refine laid.extend fun path entry stored => ?_
  rw [(FileTree.makeDirs_some made).2] at stored
  split at stored
  · rename_i above
    cases stored
    refine .inr ⟨fun name member => plain name (above.subset member), by simp, ?_⟩
    rintro name rfl _
    obtain ⟨rest, whole⟩ := above
    exact known name rest whole.symm
  · exact .inl stored

theorem Laid.writeFile {next : ServerTree Octets} {content : Octets} (laid : Laid tree)
    (written : tree.writeFile place (.own content) = some next)
    (plain : ∀ name ∈ place, PlainName name)
    : Laid next := by
  refine laid.extend fun path entry stored => ?_
  rw [(FileTree.writeFile_some written).2] at stored
  split at stored
  · rename_i same
    cases stored
    exact .inr ⟨same ▸ plain, by simp, by simp⟩
  · exact .inl stored

theorem Laid.stage {stage : ServerTree Octets} {content : Octets} (laid : Laid tree)
    (reached : stage ∈ storeStages tree place content) (plain : ∀ name ∈ place, PlainName name)
    (known : ∀ first rest, place.dropLast = first :: rest → first ∈ allowedRoots)
    : Laid stage := by
  unfold storeStages at reached
  cases made : tree.makeDirs place.dropLast with
  | none =>
      rw [made] at reached
      rwa [List.mem_singleton.mp reached]
  | some next =>
      have dirs :=
        laid.makeDirs made (fun name member => plain name (List.mem_of_mem_dropLast member)) known
      rw [made] at reached
      simp only [List.mem_cons, List.not_mem_nil, or_false] at reached
      rcases reached with rfl | rfl | rfl
      · exact laid
      · exact dirs
      · cases written : next.writeFile place (.own content) with
        | none => exact dirs
        | some final => exact dirs.writeFile written plain

theorem Laid.lays {version : String} {children : List (String × Asset Octets)}
    {after : ServerTree Octets} (laid : Laid tree) (lays : Lays version children tree after)
    (named : ∀ child ∈ children, PlainName child.1)
    : Laid after := by
  refine laid.extend fun path entry stored => ?_
  rcases lays path with kept | ⟨_, other, asset, file, ships, rfl, _, laidFile⟩
  · exact .inl (kept.symm.trans stored)
  · cases laidFile.symm.trans stored
    refine .inr ⟨?_, fun _ _ _ => rfl, by simp⟩
    intro name member
    rw [List.mem_singleton.mp member]
    exact named _ ships

theorem plainName_uploadName (filename : Option String) : PlainName (uploadName filename) := by
  have single (text : String) : '/' ∉ (basename text).toList := by
    unfold basename
    rw [String.toList_ofList]
    cases last : (text.toList.splitOn '/').getLast? with
    | none => exact List.not_mem_nil
    | some part => exact not_mem_of_mem_splitOn (List.mem_of_getLast? last)
  unfold uploadName
  dsimp only
  have given := single ((filename.filter fun name => name ≠ "").getD "uploaded_file")
  generalize basename ((filename.filter fun name => name ≠ "").getD "uploaded_file") = text
    at given
  split
  · exact ⟨by decide, by decide, by decide, by decide⟩
  · rename_i real
    have letters : text.toList.dropWhile (fun letter => letter = '.') ≠ [] := by
      intro none
      exact real (by rw [none])
    have first := List.head_dropWhile_not (fun letter => decide (letter = '.')) letters
    have noDot (other : String) (dot : other.toList.head? = some '.')
        : String.ofList (text.toList.dropWhile fun letter => letter = '.') ≠ other := by
      rintro rfl
      rw [String.toList_ofList, List.head?_eq_some_head letters] at dot
      rw [Option.some.inj dot] at first
      exact absurd first (by decide)
    refine ⟨by rwa [String.toList_ofList], ?_, noDot "." (by decide), noDot ".." (by decide)⟩
    rw [String.toList_ofList]
    exact fun slash => given ((List.dropWhile_sublist _).subset slash)

theorem located_known {allowRootFile : Bool}
    (found : locate tree params allowRootFile path = .ok place)
    : ∀ first rest, place.dropLast = first :: rest → first ∈ allowedRoots := by
  obtain ⟨_, ⟨first, rest, rfl, allowed⟩, _⟩ := locate_ok.mp found
  intro other more above
  rcases allowed with root | ⟨rfl, _⟩
  · cases rest with
    | nil => cases above
    | cons second rest =>
        rw [List.dropLast_cons_cons] at above
        rw [← (List.cons.inj above).1]
        exact openRoots_known root
  · cases above

theorem FileStep.laid {before after : World Octets} {event : FileEvent}
    (step : FileStep before event after) (laid : Laid before.tree)
    : Laid after.tree := by
  cases step with
  | @start requested inputs named =>
      rcases ensureServerLayout_cases inputs requested before with
        ⟨failure, _, ends⟩ | ⟨next, actual, chosen, ends⟩
      · rw [ends]
        exact laid
      · rw [ends] at named ⊢
        refine laid.lays (placeChildren_lays next inputs.fails _ before.tree) ?_
        intro child member
        unfold childrenOf at member
        cases found : next actual with
        | none =>
            rw [found] at member
            cases member
        | some installed =>
            rw [found] at member
            exact named actual installed found child member
  | write found _ stage =>
      exact laid.stage stage (parsed_plain (locate_ok.mp found).1) (located_known found)
  | @upload _ params path filename content dir found _ stage =>
      refine laid.stage stage ?_ ?_
      · intro name member
        rcases List.mem_append.mp member with above | last
        · exact parsed_plain (locate_ok.mp found).1 name above
        · rw [List.mem_singleton.mp last]
          exact plainName_uploadName filename
      · rw [List.dropLast_concat]
        rintro first rest rfl
        obtain ⟨_, ⟨_, _, same, allowed⟩, _⟩ := locate_ok.mp found
        cases same
        rcases allowed with root | ⟨_, _, never⟩
        · exact openRoots_known root
        · cases never
  | delete gone _ _ _ removed =>
      refine laid.extend fun path entry stored => .inl ?_
      rw [removed] at stored
      exact lookup_removals stored
  | refused => exact laid

/-- By induction on the run. -/
theorem reached_laid {start finish : World Octets} {events : List FileEvent}
    (run : Run FileStep start events finish) (fresh : start.tree = FileTree.empty)
    : Laid finish.tree := by
  refine run.invariant (fun world => Laid world.tree) (fun _ => True)
    (fun _ step laid => step.laid laid) (fun _ _ => trivial) ?_
  rw [fresh]
  exact laid_empty

-- Entries

theorem isLink_eq_true
    : isLink tree place = true ↔ ∃ version asset, linkAt tree place version asset := by
  unfold isLink linkAt
  split
  · rename_i version asset found
    exact iff_of_true rfl ⟨version, asset, found⟩
  · rename_i other
    exact iff_of_false Bool.false_ne_true fun ⟨version, asset, found⟩ => other version asset found

theorem isLink_of_dir (stored : tree.lookup dir = some .dir) : isLink tree dir = false := by
  rw [isLink, stored]

theorem assetAt_dir (stored : world.tree.lookup dir = some .dir)
    : assetAt world dir = some .folder := by
  rw [assetAt, stored]

theorem stored_of_assetAt {asset : Asset Octets} (found : assetAt world place = some asset)
    : world.tree.lookup place ≠ none := by
  intro missing
  rw [assetAt, missing] at found
  cases found

theorem listedDir_ok
    : listedDir world params path = .ok dir
      ↔ listsRoot path = true ∧ dir = []
        ∨ locate world.tree params true path = .ok dir ∧ assetAt world dir = some .folder := by
  have named (lists : listsRoot path = true) : locate world.tree params true path ≠ .ok dir := by
    intro found
    obtain ⟨parsed, ⟨first, rest, rfl, _⟩, _⟩ := locate_ok.mp found
    cases (parsed_of_listsRoot lists).symm.trans parsed
  unfold listedDir
  cases lists : listsRoot path with
  | true => simp [named lists, eq_comm]
  | false =>
      cases found : locate world.tree params true path with
      | error failure => simp [bind, Except.bind]
      | ok place =>
          simp only [bind, Except.bind, Bool.false_eq_true, if_false, false_and, false_or,
            Except.ok.injEq]
          constructor
          · intro listed
            split at listed
            · cases listed
            · rename_i asset
              cases listed
              exact ⟨rfl, asset⟩
            · cases listed
          · rintro ⟨rfl, asset⟩
            rw [asset]

/-- Where the policy lets an entry be. -/
def Allowed (params : PolicyParams) (dir : Location) (name : String) : Prop :=
  (∃ first rest, dir ++ [name] = first :: rest ∧ first ∈ openRoots params)
  ∨ dir = [] ∧ name ∈ openFiles params

/-- An entry is found under its path exactly when the path is not stripped and does not lead
through a link.
-/
theorem locate_entry_iff (laid : Laid tree) (stored : tree.lookup (dir ++ [name]) ≠ none)
    (allowed : Allowed params dir name)
    : locate tree params true (joinParts (dir ++ [name])) = .ok (dir ++ [name])
      ↔ ¬ EndsInSpace name ∧ isLink tree (dir ++ [name]) = false := by
  have plain := laid.names stored
  have bare
      : ∀ letter ∈ ((dir ++ [name]).head (by simp)).toList.head?, isSpace letter = false := by
    rcases allowed with ⟨first, rest, whole, root⟩ | ⟨rfl, file⟩
    · simp only [whole, List.head_cons]
      exact (policyName (List.mem_append_left _ (openRoots_known root))).2.1
    · exact (policyName (List.mem_append_right _ (openFiles_known file))).2.1
  rw [locate_ok, parse_joinParts_iff plain bare]
  have inPolicy : ∃ first rest, dir ++ [name] = first :: rest
      ∧ (first ∈ openRoots params ∨ rest = [] ∧ first ∈ openFiles params ∧ true = true) := by
    rcases allowed with ⟨first, rest, whole, root⟩ | ⟨rfl, file⟩
    · exact ⟨first, rest, whole, .inl root⟩
    · exact ⟨name, [], rfl, .inr ⟨rfl, file, rfl⟩⟩
  rw [and_iff_right inPolicy]
  refine and_congr_right fun _ => ⟨fun all => all _ (List.prefix_rfl), ?_⟩
  intro clear above within
  rcases List.prefix_concat_iff.mp within with rfl | ⟨rest, rfl⟩
  · exact clear
  · refine isLink_of_dir (tree.ancestor_dir ?_ (by simp : rest ++ [name] ≠ []))
    rwa [← List.append_assoc]

theorem agentDownloadFile_ok {content : Octets}
    : agentDownloadFile world params path = .ok (place, content)
      ↔ locate world.tree params true path = .ok place
        ∧ assetAt world place = some (.file content) := by
  unfold agentDownloadFile
  cases found : locate world.tree params true path with
  | error failure => simp [bind, Except.bind]
  | ok other =>
      simp only [bind, Except.bind, Except.ok.injEq]
      constructor
      · intro sent
        split at sent
        · rename_i asset
          cases sent
          exact ⟨rfl, asset⟩
        · cases sent
      · rintro ⟨rfl, asset⟩
        rw [asset]
        rfl

theorem agentReadFile_small {content : Octets} {text : List Char}
    (found : agentDownloadFile world params path = .ok (place, content))
    (small : content.length ≤ maxEditSize) (decoded : decodeText content = some text)
    : agentReadFile world params path = .ok (universalNewlines text) := by
  unfold agentReadFile
  simp only [found, bind, Except.bind, decoded, if_neg (Nat.not_lt.mpr small)]
  rfl

theorem isLink_of_special (asset : assetAt world place = some .special)
    : isLink world.tree place = true := by
  unfold assetAt at asset
  split at asset
  · cases asset
  · cases asset
  · cases asset
  · rename_i version name found
    exact isLink_eq_true.mpr ⟨version, name, found⟩

theorem opens_iff (laid : Laid world.tree) {entry : FileEntry}
    (found : entryAt world dir name = some entry) (allowed : Allowed params dir name)
    : Opens world params dir entry
      ↔ ¬ EndsInSpace name ∧ isLink world.tree (dir ++ [name]) = false := by
  unfold entryAt at found
  cases asset : assetAt world (dir ++ [name]) with
  | none =>
      rw [asset] at found
      cases found
  | some kind =>
      rw [asset] at found
      cases found
      rw [← locate_entry_iff laid (stored_of_assetAt asset) allowed]
      unfold Opens
      cases kind with
      | folder =>
          have listed := @listedDir_ok world params (joinParts (dir ++ [name])) (dir ++ [name])
          simp only [List.append_eq_nil_iff, List.cons_ne_nil, and_false, false_or, asset,
            and_true] at listed
          rw [← listed]
          exact ⟨fun opens => opens.1 rfl, fun lists => ⟨fun _ => lists, nofun⟩⟩
      | file content =>
          constructor
          · intro opens
            obtain ⟨_, sent, _⟩ := opens.2 rfl
            exact (agentDownloadFile_ok.mp sent).1
          · intro located
            have sent := agentDownloadFile_ok.mpr ⟨located, asset⟩
            exact ⟨nofun, fun _ => ⟨content, sent, fun _ => agentReadFile_small sent⟩⟩
      | special =>
          constructor
          · intro opens
            obtain ⟨_, sent, _⟩ := opens.2 rfl
            cases asset.symm.trans (agentDownloadFile_ok.mp sent).2
          · intro located
            have clear := (locate_ok.mp located).2.2 _ List.prefix_rfl
            cases (isLink_of_special asset).symm.trans clear

-- Listings

theorem mem_entriesOf_root {entry : FileEntry}
    : entry ∈ entriesOf world params []
      ↔ ∃ name, (name ∈ rootNames params ∧ (assetAt world [name]).any Asset.isFolder = true
          ∨ name ∈ fileNames params ∧ (assetAt world [name]).any isFile = true)
        ∧ entryAt world [] name = some entry := by
  simp [entriesOf, List.mem_filterMap, or_and_right, exists_or]

theorem mem_entriesOf {entry : FileEntry} (nested : dir ≠ [])
    : entry ∈ entriesOf world params dir
      ↔ ∃ name, world.tree.lookup (dir ++ [name]) ≠ none
        ∧ entryAt world dir name = some entry := by
  rw [entriesOf, if_neg nested, List.mem_filterMap]
  refine exists_congr fun name => and_congr_left fun _ => ?_
  simp only [List.mem_flatten, List.mem_filter, FileTree.mem_below, decide_eq_true_eq]
  constructor
  · rintro ⟨rest, ⟨⟨_, stored⟩, single⟩, member⟩
    obtain ⟨other, rfl⟩ := List.length_eq_one_iff.mp single
    rwa [List.mem_singleton.mp member]
  · intro stored
    exact ⟨[name], ⟨⟨List.cons_ne_nil _ _, stored⟩, rfl⟩, List.mem_singleton_self name⟩

theorem eq_of_any_isFolder {asset : Option (Asset Octets)}
    (folder : asset.any Asset.isFolder = true)
    : asset = some .folder := by
  rcases asset with _ | _ | _ | _
  · cases folder
  · rfl
  · cases folder
  · cases folder

theorem eq_of_any_isFile {asset : Option (Asset Octets)} (file : asset.any isFile = true)
    : ∃ content, asset = some (.file content) := by
  rcases asset with _ | _ | content | _
  · cases file
  · cases file
  · exact ⟨content, rfl⟩
  · cases file

theorem listedDir_root : listedDir world params "" = .ok [] :=
  listedDir_ok.mpr (.inl ⟨by decide, rfl⟩)

theorem agentListFiles_ok (listed : listedDir world params path = .ok dir)
    : agentListFiles world params path = .ok (entriesOf world params dir) := by
  rw [agentListFiles, listed]
  rfl

theorem entryAt_isSome {asset : Asset Octets} (found : assetAt world (dir ++ [name]) = some asset)
    : ∃ entry, entryAt world dir name = some entry := by
  rw [entryAt, found]
  exact ⟨_, rfl⟩

theorem listed_root (laid : Laid world.tree) {first : String} {rest : Location}
    (listed : listedDir world params path = .ok (first :: rest))
    : first ∈ openRoots params ∧ world.tree.lookup (first :: rest) = some .dir := by
  rcases listedDir_ok.mp listed with ⟨_, root⟩ | ⟨found, asset⟩
  · cases root
  · obtain ⟨_, ⟨_, _, same, allowed⟩, clear⟩ := locate_ok.mp found
    cases same
    have own := clear _ List.prefix_rfl
    have stored : world.tree.lookup (first :: rest) = some .dir := by
      unfold assetAt at asset
      split at asset
      · cases asset
      · assumption
      · cases asset
      · rename_i version name link
        cases own.symm.trans (isLink_eq_true.mpr ⟨version, name, link⟩)
    refine ⟨?_, stored⟩
    rcases allowed with root | ⟨rfl, file, _⟩
    · exact root
    · exact absurd ((laid _ _ stored).folder first rfl rfl)
        (file_notMem_roots (openFiles_known file))

theorem noSpace_of_closed (laid : Laid world.tree) (closed : ClosedListings world params)
    {first last : String} {rest front : Location} (root : first ∈ openRoots params)
    (whole : front ++ [last] = first :: rest) (bare : ¬ EndsInSpace last)
    (stored : world.tree.lookup (first :: rest ++ [name]) ≠ none)
    : ¬ EndsInSpace name := by
  have dir := world.tree.closed _ _ stored
  have located : locate world.tree params true (joinParts (first :: rest))
      = .ok (first :: rest) := by
    rw [← whole] at dir ⊢
    exact (locate_entry_iff laid (by rw [dir]; exact Option.some_ne_none _)
      (.inl ⟨first, rest, whole, root⟩)).mpr ⟨bare, isLink_of_dir dir⟩
  have long : (first :: rest ++ [name]).length ≠ 1 := by simp
  obtain ⟨entry, found⟩ : ∃ entry, entryAt world (first :: rest) name = some entry := by
    cases asset : assetAt world (first :: rest ++ [name]) with
    | some kind => exact entryAt_isSome asset
    | none =>
        unfold assetAt at asset
        split at asset
        · contradiction
        · cases asset
        · cases asset
        · rename_i version target link
          exact absurd ((laid _ _ link).link version target rfl) long
  have listed := listedDir_ok.mpr (.inr ⟨located, assetAt_dir dir⟩)
  have opens := closed _ _ _ listed (agentListFiles_ok listed) entry
    ((mem_entriesOf (List.cons_ne_nil _ _)).mpr ⟨name, stored, found⟩)
  exact ((opens_iff laid found (.inl ⟨first, rest ++ [name], rfl, root⟩)).mp opens).1

/-- Listings of a reached directory are closed exactly when the directory is openable. -/
theorem closed_iff {start : World Octets} {events : List FileEvent}
    (reached : Run FileStep start events world) (fresh : start.tree = FileTree.empty)
    (params : PolicyParams)
    : ClosedListings world params ↔ Openable world params := by
  have laid := reached_laid reached fresh
  constructor
  · intro closed
    constructor
    · intro folder listed asset
      obtain ⟨entry, found⟩ := entryAt_isSome (show assetAt world ([] ++ [folder]) = _ from asset)
      have shown : entry ∈ entriesOf world params [] :=
        mem_entriesOf_root.mpr ⟨folder, .inl ⟨listed, by rw [asset]; rfl⟩, found⟩
      exact ((opens_iff laid found (.inl ⟨folder, [], rfl, mem_openNames_of_mem listed⟩)).mp
        (closed "" [] _ listedDir_root (agentListFiles_ok listedDir_root) entry shown)).2
    · intro file listed content asset
      obtain ⟨entry, found⟩ := entryAt_isSome (show assetAt world ([] ++ [file]) = _ from asset)
      have shown : entry ∈ entriesOf world params [] :=
        mem_entriesOf_root.mpr ⟨file, .inr ⟨listed, by rw [asset]; rfl⟩, found⟩
      exact ((opens_iff laid found (.inr ⟨rfl, mem_openNames_of_mem listed⟩)).mp
        (closed "" [] _ listedDir_root (agentListFiles_ok listedDir_root) entry shown)).2
    · intro first root rest
      -- By induction on the names before the last one, each of which has passed before.
      induction rest using List.reverseRecOn with
      | nil =>
          intro name stored
          exact noSpace_of_closed laid closed root (show [] ++ [first] = [first] from rfl)
            (policyName (List.mem_append_left _ (openRoots_known root))).2.2 stored
      | append_singleton rest last ih =>
          intro name stored
          have dir := world.tree.closed _ _ stored
          have passed := ih last (by rw [List.cons_append, dir]; exact Option.some_ne_none _)
          exact noSpace_of_closed laid closed root
            (show (first :: rest) ++ [last] = first :: (rest ++ [last]) from rfl) passed stored
  · intro openable path dir entries listed answered entry member
    cases (agentListFiles_ok listed).symm.trans answered
    cases dir with
    | nil =>
        obtain ⟨name, ⟨named, asset⟩ | ⟨named, asset⟩, found⟩ := mem_entriesOf_root.mp member
        · have bare :=
            policyName (List.mem_append_left allowedRootFiles (mem_parseAllowedCsv named))
          exact (opens_iff laid found (.inl ⟨name, [], rfl, mem_openNames_of_mem named⟩)).mpr
            ⟨bare.2.2, openable.folders name named (eq_of_any_isFolder asset)⟩
        · have bare := policyName (List.mem_append_right allowedRoots (mem_parseAllowedCsv named))
          obtain ⟨content, stored⟩ := eq_of_any_isFile asset
          exact (opens_iff laid found (.inr ⟨rfl, mem_openNames_of_mem named⟩)).mpr
            ⟨bare.2.2, openable.files name named content stored⟩
    | cons first rest =>
        obtain ⟨root, _⟩ := listed_root laid listed
        obtain ⟨name, stored, found⟩ := (mem_entriesOf (List.cons_ne_nil _ _)).mp member
        refine (opens_iff laid found (.inl ⟨first, rest ++ [name], rfl, root⟩)).mpr
          ⟨openable.names first root rest name stored, ?_⟩
        rw [Bool.eq_false_iff, ne_eq, isLink_eq_true]
        rintro ⟨version, asset, link⟩
        have single := (laid _ _ link).link version asset rfl
        simp at single

-- A linked folder

def packVersion : Version Octets where
  children := [("behavior_packs", .folder), ("server.properties", .file [])]
  distinct := by decide

def newServer : World Octets where
  store version := if version = "1.0" then some packVersion else none
  tree := FileTree.empty
  live path version asset link := by
    unfold linkAt FileTree.empty at link
    dsimp only at link
    split at link <;> cases link

def offlineInputs : StartInputs Octets where
  download _ := .unavailable
  latest := .error "offline"

def startedServer : World Octets :=
  (VersionLayout.ensureServerLayout offlineInputs "1.0" newServer).1

theorem start_newServer : FileStep newServer (.start "1.0" offlineInputs) startedServer := by
  refine .start fun version installed found child member => ?_
  have known : (if version = "1.0" then some packVersion else none) = some installed := found
  split at known
  · cases known
    have plain : ∀ name ∈ ["behavior_packs", "server.properties"],
        name.toList ≠ [] ∧ '/' ∉ name.toList ∧ name ≠ "." ∧ name ≠ ".." := by
      decide
    obtain ⟨real, single, notHere, notParent⟩ := plain child.1 (List.mem_map_of_mem member)
    exact ⟨real, single, notHere, notParent⟩
  · cases known

theorem startedServer_link : isLink startedServer.tree ["behavior_packs"] = true := rfl

/-- In the listing of the root the packs of the version are a folder that cannot be listed. -/
theorem linked_folder_is_closed_off
    : ¬ ∀ (start world : World Octets) (events : List FileEvent) (params : PolicyParams),
        Run FileStep start events world → start.tree = FileTree.empty
        → ClosedListings world params := by
  intro closed
  have laid := reached_laid (Run.single start_newServer) rfl
  have asset : assetAt startedServer ([] ++ ["behavior_packs"]) = some .folder := rfl
  obtain ⟨entry, found⟩ := entryAt_isSome asset
  have listed : "behavior_packs" ∈ rootNames ⟨none, none⟩ := by decide
  have shown : entry ∈ entriesOf startedServer ⟨none, none⟩ [] :=
    mem_entriesOf_root.mpr ⟨"behavior_packs", .inl ⟨listed, rfl⟩, found⟩
  have opens := closed newServer startedServer _ ⟨none, none⟩ (Run.single start_newServer) rfl ""
    [] _ listedDir_root (agentListFiles_ok listedDir_root) entry shown
  have allowed : Allowed ⟨none, none⟩ [] "behavior_packs" :=
    .inl ⟨"behavior_packs", [], rfl, mem_openNames_of_mem listed⟩
  cases startedServer_link.symm.trans ((opens_iff laid found allowed).mp opens).2

/-- With a policy that does not open the linked folder the listings are closed. -/
theorem started_server_is_closed
    : ClosedListings startedServer ⟨some "worlds", none⟩ := by
  have own : ∀ name ∈ rootNames ⟨some "worlds", none⟩ ++ fileNames ⟨some "worlds", none⟩,
      isLink startedServer.tree [name] = false := by
    decide +kernel
  refine (closed_iff (Run.single start_newServer) rfl _).mpr ⟨?_, ?_, ?_⟩
  · exact fun folder listed _ => own folder (List.mem_append_left _ listed)
  · exact fun file listed _ _ => own file (List.mem_append_right _ listed)
  · intro first _ rest name stored
    have lays : Lays "1.0" packVersion.children newServer.tree startedServer.tree :=
      placeChildren_lays newServer.store offlineInputs.fails packVersion.children newServer.tree
    rcases lays (first :: rest ++ [name]) with kept | ⟨_, _, _, _, _, whole, _⟩
    · have missing : newServer.tree.lookup (first :: rest ++ [name]) = none := rfl
      exact absurd (kept.trans missing) stored
    · exact absurd (congrArg List.length whole) (by simp)

end Blockhost.FileListings
