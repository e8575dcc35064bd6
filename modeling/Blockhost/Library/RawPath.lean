import Blockhost.Library.FileTree

/-! Paths as programs write them: absolute, with `..` for the parent, joined from texts. The
operating system follows such a path through a tree name by name.
-/

namespace Library

/-- The parts of an absolute path, without empty and `.` parts. -/
abbrev RawPath := List String

/-- The parts of a text between slashes that name something. -/
def pathParts (text : String) : RawPath :=
  ((text.toList.splitOn '/').map String.ofList).filter (fun part => part ≠ "" && part ≠ ".")

def isAbsolute (text : String) : Bool := text.toList.head? = some '/'

/-- `base / text`: an absolute text replaces the base. -/
def joinPath (base : RawPath) (text : String) : RawPath :=
  if isAbsolute text then pathParts text else base ++ pathParts text

/-- The place that a path names when every step of it succeeds, from a place on. -/
def normalizeFrom (here : Location) : RawPath → Location
  | [] => here
  | part :: rest => normalizeFrom (if part = ".." then here.dropLast else here ++ [part]) rest

def normalizePath (path : RawPath) : Location := normalizeFrom [] path

/-- Normal forms have no parent steps, by induction on the path. -/
theorem normalizeFrom_plain {here : Location} (path : RawPath) (plain : ".." ∉ here)
    : ".." ∉ normalizeFrom here path := by
  induction path generalizing here with
  | nil => exact plain
  | cons part rest ih =>
      refine ih ?_
      split
      · exact fun member => plain (List.mem_of_mem_dropLast member)
      · rename_i isName
        simpa [plain] using Ne.symm isName

/-- A path in two parts, by induction on the first one. -/
theorem normalizeFrom_append (here : Location) (first second : RawPath)
    : normalizeFrom here (first ++ second)
      = normalizeFrom (normalizeFrom here first) second := by
  induction first generalizing here with
  | nil => rfl
  | cons part rest ih => exact ih _

theorem normalizePath_concat (path : RawPath) {name : String} (isName : name ≠ "..")
    : normalizePath (path ++ [name]) = normalizePath path ++ [name] := by
  rw [normalizePath, normalizeFrom_append, normalizeFrom, if_neg isName]
  rfl

theorem normalizePath_plain (path : RawPath) : ".." ∉ normalizePath path :=
  normalizeFrom_plain path List.not_mem_nil

/-- Names without parent steps are their own normal form, by induction on the names. -/
theorem normalizeFrom_of_plain {here names : Location} (plain : ".." ∉ names)
    : normalizeFrom here names = here ++ names := by
  induction names generalizing here with
  | nil => simp [normalizeFrom]
  | cons name rest ih =>
      have isName : name ≠ ".." := fun parent => plain (parent ▸ List.mem_cons_self)
      have later : ".." ∉ rest := fun member => plain (List.mem_cons_of_mem _ member)
      rw [normalizeFrom, if_neg isName, ih later, ← List.append_cons]

namespace FileTree

variable {Content : Type} (tree : FileTree Content)

/-- Follow a path; every step needs a directory. The last name need not be stored. -/
def locateFrom (here : Location) : RawPath → Option Location
  | [] => some here
  | part :: rest =>
      if tree.isDir here then
        locateFrom (if part = ".." then here.dropLast else here ++ [part]) rest
      else none

def locate (path : RawPath) : Option Location := tree.locateFrom [] path

def pathExists (path : RawPath) : Bool :=
  match tree.locate path with
  | none => false
  | some location => tree.exists? location

/-- A path that can be followed leads where its text says, by induction on the path. -/
theorem locateFrom_some {here location : Location} {path : RawPath}
    (located : tree.locateFrom here path = some location)
    : location = normalizeFrom here path := by
  induction path generalizing here with
  | nil => exact (Option.some.inj located).symm
  | cons part rest ih =>
      simp only [locateFrom] at located
      split at located
      · exact ih located
      · cases located

theorem locate_some {location : Location} {path : RawPath}
    (located : tree.locate path = some location)
    : location = normalizePath path :=
  tree.locateFrom_some located

theorem pathExists_eq_true {path : RawPath}
    : tree.pathExists path = true
      ↔ ∃ location, tree.locate path = some location ∧ tree.lookup location ≠ none := by
  unfold pathExists
  cases tree.locate path <;> simp

/-- Names below a stored place lead there, by induction on the names. -/
theorem locateFrom_plain {here names : Location}
    (plain : ".." ∉ names) (stored : tree.lookup (here ++ names) ≠ none)
    : tree.locateFrom here names = some (here ++ names) := by
  induction names generalizing here with
  | nil => simp [locateFrom]
  | cons name rest ih =>
      have isName : name ≠ ".." := fun parent => plain (parent ▸ List.mem_cons_self)
      have dir := tree.ancestor_dir stored (List.cons_ne_nil name rest)
      rw [List.append_cons] at stored ⊢
      simp only [locateFrom, if_pos (isDir_eq_true.mpr dir), if_neg isName]
      exact ih (fun member => plain (List.mem_cons_of_mem _ member)) stored

theorem locate_plain {path : Location} (plain : ".." ∉ path) (stored : tree.lookup path ≠ none)
    : tree.locate path = some path :=
  tree.locateFrom_plain plain stored

end FileTree

end Library
