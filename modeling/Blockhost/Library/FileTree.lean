import Mathlib.Data.List.Basic
import Mathlib.Data.List.Dedup
import Mathlib.Data.List.Infix
import Mathlib.Data.List.Induction
import Mathlib.Order.Defs.Unbundled

/-! Finite trees of regular files and directories, with the calls that change them. A stored
path lies in a directory; the structure carries this, so no call can break it.
-/

namespace Library

/-- The names from the root down; the root itself is the empty list. -/
abbrev Location := List String

inductive Entry (Content : Type) where
  | dir
  | file (content : Content)
deriving DecidableEq, Repr

structure FileTree (Content : Type) where
  lookup : Location → Option (Entry Content)
  support : List Location
  finite : ∀ path, lookup path ≠ none → path ∈ support
  root : lookup [] = some .dir
  closed : ∀ path name, lookup (path ++ [name]) ≠ none → lookup path = some .dir

namespace FileTree

variable {Content : Type}

def empty : FileTree Content where
  lookup path := if path = [] then some .dir else none
  support := [[]]
  finite path stored := by
    split at stored
    · rename_i same
      rw [same]
      exact List.mem_cons_self
    · contradiction
  root := if_pos rfl
  closed path name stored := by simp at stored

def exists? (tree : FileTree Content) (path : Location) : Bool := (tree.lookup path).isSome

def isDir (tree : FileTree Content) (path : Location) : Bool :=
  match tree.lookup path with
  | some .dir => true
  | _ => false

def isFile (tree : FileTree Content) (path : Location) : Bool :=
  match tree.lookup path with
  | some (.file _) => true
  | _ => false

@[simp] theorem exists?_eq_true {tree : FileTree Content} {path : Location}
    : tree.exists? path = true ↔ tree.lookup path ≠ none :=
  Option.isSome_iff_ne_none

@[simp] theorem isDir_eq_true {tree : FileTree Content} {path : Location}
    : tree.isDir path = true ↔ tree.lookup path = some .dir := by
  unfold isDir
  split <;> simp_all

@[simp] theorem isFile_eq_true {tree : FileTree Content} {path : Location}
    : tree.isFile path = true ↔ ∃ content, tree.lookup path = some (.file content) := by
  unfold isFile
  split <;> simp_all

section Ancestors

variable (tree : FileTree Content)

/-- Every path above a stored path is a directory, by induction on the part below it. -/
theorem ancestor_dir {path rest : Location} (stored : tree.lookup (path ++ rest) ≠ none)
    (below : rest ≠ [])
    : tree.lookup path = some .dir := by
  induction rest using List.reverseRecOn with
  | nil => contradiction
  | append_singleton rest name ih =>
      rw [← List.append_assoc] at stored
      have parent := tree.closed (path ++ rest) name stored
      cases rest with
      | nil => simpa only [List.append_nil] using parent
      | cons first more => exact ih (by rw [parent]; simp) (by simp)

theorem lookup_of_prefix {path longer : Location} (stored : tree.lookup longer ≠ none)
    (above : path <+: longer)
    : tree.lookup path ≠ none := by
  obtain ⟨rest, rfl⟩ := above
  cases rest with
  | nil => simpa only [List.append_nil] using stored
  | cons first more =>
      rw [tree.ancestor_dir stored (List.cons_ne_nil first more)]
      simp

end Ancestors

def listing (tree : FileTree Content) : List Location :=
  (tree.support.filter tree.exists?).dedup

theorem mem_listing {tree : FileTree Content} {path : Location}
    : path ∈ tree.listing ↔ tree.lookup path ≠ none := by
  simp only [listing, List.mem_dedup, List.mem_filter, exists?_eq_true, and_iff_right_iff_imp]
  exact tree.finite path

/-- What lies strictly below a directory, relative to it. -/
def below (tree : FileTree Content) (dir : Location) : List Location :=
  (tree.listing.filter (fun path => dir.isPrefixOf path && path ≠ dir)).map
    (List.drop dir.length)

theorem mem_below {tree : FileTree Content} {dir rest : Location}
    : rest ∈ tree.below dir ↔ rest ≠ [] ∧ tree.lookup (dir ++ rest) ≠ none := by
  simp only [below, List.mem_map, List.mem_filter, mem_listing, Bool.and_eq_true,
    List.isPrefixOf_iff_prefix, decide_eq_true_eq]
  constructor
  · rintro ⟨_, ⟨stored, ⟨rest', rfl⟩, other⟩, rfl⟩
    rw [List.drop_left]
    exact ⟨by simpa using other, stored⟩
  · rintro ⟨other, stored⟩
    exact ⟨dir ++ rest, ⟨stored, List.prefix_append dir rest, by simpa using other⟩,
      List.drop_left⟩

theorem below_nodup (tree : FileTree Content) (dir : Location) : (tree.below dir).Nodup := by
  refine List.Nodup.map_on ?_ (List.Nodup.filter _ (List.nodup_dedup _))
  intro left first right second same
  simp only [List.mem_filter, Bool.and_eq_true, List.isPrefixOf_iff_prefix] at first second
  obtain ⟨leftRest, rfl⟩ := first.2.1
  obtain ⟨rightRest, rfl⟩ := second.2.1
  rw [List.drop_left, List.drop_left] at same
  rw [same]

/-- `rmtree`: a directory or file goes with everything below it; the root stays. -/
def remove (tree : FileTree Content) (dir : Location) : FileTree Content where
  lookup path := if dir <+: path ∧ path ≠ [] then none else tree.lookup path
  support := tree.support
  finite path stored := by
    split at stored
    · contradiction
    · exact tree.finite path stored
  root := by simp [tree.root]
  closed path name stored := by
    split at stored
    · contradiction
    · rename_i outside
      rw [if_neg, tree.closed path name stored]
      rintro ⟨within, _⟩
      exact outside ⟨within.trans (List.prefix_append path [name]), by simp⟩

theorem lookup_remove {tree : FileTree Content} {dir path : Location} (real : dir ≠ [])
    : (tree.remove dir).lookup path = if dir <+: path then none else tree.lookup path := by
  by_cases within : dir <+: path
  · have other : path ≠ [] := by
      rintro rfl
      exact real (List.prefix_nil.mp within)
    simp [remove, within, other]
  · simp [remove, within]

theorem lookup_remove_leaf {tree : FileTree Content} {gone : Location}
    (leaf : tree.isFile gone = true) (path : Location)
    : (tree.remove gone).lookup path = if path = gone then none else tree.lookup path := by
  obtain ⟨content, stored⟩ := isFile_eq_true.mp leaf
  have real : gone ≠ [] := by
    rintro rfl
    simp [tree.root] at stored
  rw [lookup_remove real]
  by_cases same : path = gone
  · simp [same]
  · rw [if_neg same]
    split
    · rename_i below
      obtain ⟨rest, rfl⟩ := below
      by_contra missing
      rw [tree.ancestor_dir (Ne.symm missing) (by simpa using same)] at stored
      cases stored
    · rfl

/-- Directories down to a path can be made when no file is in the way. -/
def Clear (tree : FileTree Content) (path : Location) : Prop :=
  ∀ above ∈ path.inits, tree.isFile above = false

instance (tree : FileTree Content) (path : Location) : Decidable (tree.Clear path) :=
  inferInstanceAs (Decidable (∀ above ∈ path.inits, tree.isFile above = false))

/-- `mkdir(parents=True, exist_ok=True)` -/
def makeDirs (tree : FileTree Content) (path : Location) : Option (FileTree Content) :=
  if tree.Clear path then
    some {
      lookup := fun other => if other <+: path then some .dir else tree.lookup other
      support := path.inits ++ tree.support
      finite := fun other stored => by
        split at stored
        · exact List.mem_append_left _ (List.mem_inits _ _ |>.mpr ‹_›)
        · exact List.mem_append_right _ (tree.finite other stored)
      root := if_pos List.nil_prefix
      closed := fun other name stored => by
        split at stored
        · exact if_pos ((List.prefix_append other [name]).trans ‹_›)
        · rw [tree.closed other name stored]
          exact ite_self _
    }
  else none

theorem Clear.makes {tree : FileTree Content} {path : Location} (clear : tree.Clear path)
    : ∃ next, tree.makeDirs path = some next :=
  ⟨_, if_pos clear⟩

theorem makeDirs_some {tree next : FileTree Content} {path : Location}
    (made : tree.makeDirs path = some next)
    : tree.Clear path
      ∧ ∀ other, next.lookup other = if other <+: path then some .dir else tree.lookup other := by
  unfold makeDirs at made
  split at made
  · rename_i clear
    cases made
    exact ⟨clear, fun _ => rfl⟩
  · cases made

/-- A file can be written into an existing directory, over a file or over nothing. -/
def Writable (tree : FileTree Content) (path : Location) : Prop :=
  path ≠ [] ∧ tree.isDir path.dropLast = true ∧ tree.isDir path = false

instance (tree : FileTree Content) (path : Location) : Decidable (tree.Writable path) :=
  inferInstanceAs (Decidable (_ ∧ _ ∧ _))

def writeFile (tree : FileTree Content) (path : Location) (content : Content)
    : Option (FileTree Content) :=
  if writable : tree.Writable path then
    some {
      lookup := fun other =>
        if other = path then some (.file content) else tree.lookup other
      support := path :: tree.support
      finite := fun other stored => by
        split at stored
        · rename_i same
          rw [same]
          exact List.mem_cons_self
        · exact List.mem_cons_of_mem _ (tree.finite other stored)
      root := by
        rw [if_neg (Ne.symm writable.1)]
        exact tree.root
      closed := fun other name stored => by
        obtain ⟨_, parent, plain⟩ := writable
        split at stored
        · rename_i same
          have above : other = path.dropLast := by rw [← same, List.dropLast_concat]
          rw [if_neg (by rw [← same]; simp), above]
          exact isDir_eq_true.mp parent
        · have stays := tree.closed other name stored
          rw [if_neg, stays]
          rintro rfl
          rw [isDir_eq_true.mpr stays] at plain
          contradiction
    }
  else none

theorem Writable.writes {tree : FileTree Content} {path : Location}
    (writable : tree.Writable path) (content : Content)
    : ∃ next, tree.writeFile path content = some next :=
  ⟨_, dif_pos writable⟩

theorem writeFile_some {tree next : FileTree Content} {path : Location} {content : Content}
    (written : tree.writeFile path content = some next)
    : tree.Writable path
      ∧ ∀ other, next.lookup other
          = if other = path then some (.file content) else tree.lookup other := by
  unfold writeFile at written
  split at written
  · rename_i writable
    cases written
    exact ⟨writable, fun _ => rfl⟩
  · cases written

/-- What may stand in the place that something moves to: a file for a file, an empty directory
for a directory, or nothing.
-/
def Replaceable (tree : FileTree Content) (source target : Location) : Prop :=
  match tree.lookup source, tree.lookup target with
  | _, none => True
  | some (.file _), some (.file _) => True
  | some .dir, some .dir => tree.below target = []
  | _, _ => False

instance (tree : FileTree Content) (source target : Location)
    : Decidable (tree.Replaceable source target) := by
  unfold Replaceable
  split <;> infer_instance

/-- Something stored can move to a place outside of itself whose directory exists. -/
structure Movable (tree : FileTree Content) (source target : Location) : Prop where
  stored : tree.lookup source ≠ none
  outside : ¬ source <+: target
  parent : tree.isDir target.dropLast = true
  real : target ≠ []
  replaceable : tree.Replaceable source target

instance (tree : FileTree Content) (source target : Location)
    : Decidable (tree.Movable source target) :=
  decidable_of_iff
    (tree.exists? source = true ∧ ¬ source <+: target ∧ tree.isDir target.dropLast = true
      ∧ target ≠ [] ∧ tree.Replaceable source target)
    ⟨fun ⟨stored, outside, parent, real, replaceable⟩ =>
        ⟨exists?_eq_true.mp stored, outside, parent, real, replaceable⟩,
      fun ⟨stored, outside, parent, real, replaceable⟩ =>
        ⟨exists?_eq_true.mpr stored, outside, parent, real, replaceable⟩⟩

/-- `os.replace`, from one path to another one. -/
def rename (tree : FileTree Content) (source target : Location) : Option (FileTree Content) :=
  if movable : tree.Movable source target then
    some {
      lookup := fun path =>
        if target <+: path then tree.lookup (source ++ path.drop target.length)
        else if source <+: path then none
        else tree.lookup path
      support :=
        tree.support ++ tree.support.map (fun path => target ++ path.drop source.length)
      finite := fun path stored => by
        split at stored
        · rename_i within
          obtain ⟨rest, rfl⟩ := within
          rw [List.drop_left] at stored
          refine List.mem_append_right _ (List.mem_map.mpr ⟨_, tree.finite _ stored, ?_⟩)
          rw [List.drop_left]
        · split at stored
          · contradiction
          · exact List.mem_append_left _ (tree.finite path stored)
      root := by
        have away : ¬ source <+: [] := fun empty =>
          movable.outside (empty.trans List.nil_prefix)
        rw [if_neg (fun within => movable.real (List.prefix_nil.mp within)), if_neg away]
        exact tree.root
      closed := fun path name stored => by
        by_cases within : target <+: path
        · obtain ⟨rest, rfl⟩ := within
          have longer : target <+: target ++ rest ++ [name] := ⟨rest ++ [name], by simp⟩
          rw [if_pos longer, List.append_assoc, List.drop_left, ← List.append_assoc] at stored
          rw [if_pos (List.prefix_append target rest), List.drop_left]
          exact tree.closed (source ++ rest) name stored
        · rw [if_neg within]
          have outside : source <+: path → source <+: path ++ [name] := fun within =>
            within.trans (List.prefix_append path [name])
          split at stored
          · rename_i reached
            have same : target = path ++ [name] := by
              rcases List.prefix_concat_iff.mp reached with same | shorter
              · exact same
              · exact absurd shorter within
            have parent := movable.parent
            rw [same, List.dropLast_concat, isDir_eq_true] at parent
            rw [if_neg (fun inside => movable.outside (same ▸ outside inside)), parent]
          · split at stored
            · contradiction
            · rename_i away
              rw [if_neg (fun inside => away (outside inside))]
              exact tree.closed path name stored
    }
  else none

theorem rename_some {tree next : FileTree Content} {source target : Location}
    (renamed : tree.rename source target = some next)
    : tree.Movable source target
      ∧ ∀ path, next.lookup path
          = if target <+: path then tree.lookup (source ++ path.drop target.length)
            else if source <+: path then none
            else tree.lookup path := by
  unfold rename at renamed
  split at renamed
  · rename_i movable
    cases renamed
    exact ⟨movable, fun _ => rfl⟩
  · cases renamed

theorem rename_moved {tree next : FileTree Content} {source target : Location}
    (renamed : tree.rename source target = some next) (rest : Location)
    : next.lookup (target ++ rest) = tree.lookup (source ++ rest) := by
  rw [(rename_some renamed).2, if_pos (List.prefix_append target rest), List.drop_left]

/-- `unlink`, which removes files only. -/
def unlink (tree : FileTree Content) (path : Location) : Option (FileTree Content) :=
  if tree.isFile path then some (tree.remove path) else none

/-- `shutil.copy2`, which copies into a directory under the name of the source. -/
def copyFile (tree : FileTree Content) (source target : Location) : Option (FileTree Content) :=
  match tree.lookup source with
  | some (.file content) =>
      tree.writeFile
        (if tree.isDir target then target ++ source.drop (source.length - 1) else target)
        content
  | _ => none

/-- A copied file arrives under the target or, when a directory is there, in it; everything else
stays.
-/
theorem copyFile_lookup {tree next : FileTree Content} {parent target other : Location}
    {name : String} (copied : tree.copyFile (parent ++ [name]) target = some next)
    (notTarget : other ≠ target) (notInside : other ≠ target ++ [name])
    : next.lookup other = tree.lookup other := by
  unfold copyFile at copied
  split at copied
  · rw [(writeFile_some copied).2, if_neg]
    split
    · rw [List.length_append, List.length_singleton, Nat.add_sub_cancel, List.drop_left]
      exact notInside
    · exact notTarget
  · cases copied

section KeepsFile

/-- A file that one tree has, another one has with the same content. -/
def KeepsFile (path : Location) (before after : FileTree Content) : Prop :=
  ∀ content, before.lookup path = some (.file content)
    → after.lookup path = some (.file content)

instance (path : Location) : IsPreorder (FileTree Content) (KeepsFile path) where
  refl _ _ stored := stored
  trans _ _ _ first second content stored := second content (first content stored)

variable {path : Location} {tree next : FileTree Content}

theorem KeepsFile.of_lookup (same : next.lookup path = tree.lookup path)
    : KeepsFile path tree next :=
  fun _ stored => same.trans stored

theorem keepsFile_makeDirs {dir : Location} (made : tree.makeDirs dir = some next)
    : KeepsFile path tree next := by
  obtain ⟨clear, after⟩ := makeDirs_some made
  intro content stored
  rw [after, if_neg, stored]
  intro above
  have file := clear path ((List.mem_inits _ _).mpr above)
  rw [isFile_eq_true.mpr ⟨content, stored⟩] at file
  cases file

theorem keepsFile_writeFile {target : Location} {content : Content}
    (written : tree.writeFile target content = some next) (other : path ≠ target)
    : KeepsFile path tree next :=
  .of_lookup (by rw [(writeFile_some written).2, if_neg other])

theorem keepsFile_unlink {target : Location} (unlinked : tree.unlink target = some next)
    (other : path ≠ target)
    : KeepsFile path tree next := by
  unfold unlink at unlinked
  split at unlinked
  · rename_i file
    cases unlinked
    exact .of_lookup (by rw [lookup_remove_leaf file, if_neg other])
  · cases unlinked

theorem keepsFile_rename {source target : Location}
    (renamed : tree.rename source target = some next) (fromOutside : ¬ source <+: path)
    (toOutside : ¬ target <+: path)
    : KeepsFile path tree next :=
  .of_lookup (by rw [(rename_some renamed).2, if_neg toOutside, if_neg fromOutside])

end KeepsFile

/-- Two trees agree on a path and everything below it. -/
def SameBelow (path : Location) (left right : FileTree Content) : Prop :=
  ∀ rest, left.lookup (path ++ rest) = right.lookup (path ++ rest)

/-- Paths of a tree have bounded depth, by induction on the support. -/
theorem depth_bounded (tree : FileTree Content)
    : ∃ bound, ∀ path, tree.lookup path ≠ none → path.length ≤ bound := by
  have listed : ∃ bound, ∀ path ∈ tree.support, path.length ≤ bound := by
    induction tree.support with
    | nil => exact ⟨0, fun path member => absurd member List.not_mem_nil⟩
    | cons first rest ih =>
        obtain ⟨bound, later⟩ := ih
        refine ⟨first.length + bound, ?_⟩
        intro path member
        rcases List.mem_cons.mp member with rfl | member
        · omega
        · have := later path member
          omega
  obtain ⟨bound, within⟩ := listed
  exact ⟨bound, fun path stored => within path (tree.finite path stored)⟩

/-- A directory does not hold a copy of itself at a deeper level: each copy would hold the next
one, by induction on their number.
-/
theorem no_copy_below {tree : FileTree Content} {dir levels : Location}
    (stored : tree.lookup dir ≠ none)
    (copy : ∀ rest, tree.lookup (dir ++ levels ++ rest) = tree.lookup (dir ++ rest))
    : levels = [] := by
  have deeper : ∀ count, ∃ rest, count * levels.length ≤ rest.length
      ∧ tree.lookup (dir ++ rest) ≠ none := by
    intro count
    induction count with
    | zero => exact ⟨[], by simp, by simpa using stored⟩
    | succ count ih =>
        obtain ⟨rest, long, present⟩ := ih
        refine ⟨levels ++ rest, ?_, ?_⟩
        · rw [List.length_append, Nat.succ_mul]
          omega
        · rw [← List.append_assoc, copy]
          exact present
  obtain ⟨bound, within⟩ := tree.depth_bounded
  obtain ⟨rest, long, present⟩ := deeper (bound + 1)
  have short := within _ present
  rw [List.length_append] at short
  by_contra nonempty
  have positive : 1 ≤ levels.length := List.length_pos_of_ne_nil nonempty
  have product := Nat.mul_le_mul (Nat.le_refl (bound + 1)) positive
  omega

end FileTree

end Library
