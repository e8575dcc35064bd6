import Blockhost.Library.FileTree

/-! Archives as lists of named members, and their extraction into a tree. A member brings the
directories above it along.
-/

namespace Library

variable {Content : Type}

abbrev Member (Content : Type) := Location × Entry Content

def posixText (name : Location) : List Char := List.intercalate ['/'] (name.map String.toList)

/-- Extract one member below a target. -/
def place (target : Location) (tree : FileTree Content) (member : Member Content)
    : Option (FileTree Content) :=
  match member.2 with
  | .dir => tree.makeDirs (target ++ member.1)
  | .file content =>
      (tree.makeDirs (target ++ member.1).dropLast).bind
        (fun made => made.writeFile (target ++ member.1) content)

/-- Extract members in order; the first one that does not fit stops the extraction. -/
def extract (target : Location) : List (Member Content) → FileTree Content
    → Option (FileTree Content)
  | [], tree => some tree
  | member :: rest, tree => (place target tree member).bind (extract target rest)

def collect (tree : FileTree Content) (dir : Location) (names : List Location)
    : List (Member Content) :=
  names.filterMap (fun name => (tree.lookup (dir ++ name)).map (Prod.mk name))

theorem mem_collect {tree : FileTree Content} {dir : Location} {names : List Location}
    {member : Member Content}
    : member ∈ collect tree dir names
      ↔ member.1 ∈ names ∧ tree.lookup (dir ++ member.1) = some member.2 := by
  unfold collect
  rw [List.mem_filterMap]
  constructor
  · rintro ⟨name, known, same⟩
    obtain ⟨entry, stored, rfl⟩ := Option.map_eq_some_iff.mp same
    exact ⟨known, stored⟩
  · rintro ⟨known, stored⟩
    exact ⟨member.1, known, by rw [stored]; rfl⟩

/-- Collected names come in the order of the given names, by induction on them. -/
theorem collect_names (tree : FileTree Content) (dir : Location) (names : List Location)
    : ((collect tree dir names).map Prod.fst).Sublist names := by
  induction names with
  | nil => exact List.Sublist.refl _
  | cons name rest ih =>
      unfold collect at ih ⊢
      rw [List.filterMap_cons]
      cases tree.lookup (dir ++ name) with
      | none => exact ih.cons name
      | some entry => exact ih.cons_cons name

theorem prefix_dropLast_iff {path whole : Location} (real : whole ≠ [])
    : path <+: whole.dropLast ↔ path <+: whole ∧ path ≠ whole := by
  obtain ⟨parent, last, rfl⟩ := (List.eq_nil_or_concat whole).resolve_left real
  rw [List.concat_eq_append, List.dropLast_concat, List.prefix_concat_iff]
  constructor
  · intro above
    refine ⟨.inr above, ?_⟩
    rintro rfl
    have shorter := above.length_le
    rw [List.length_append, List.length_singleton] at shorter
    exact absurd shorter (by omega)
  · rintro ⟨same | above, other⟩
    · exact absurd same other
    · exact above

theorem place_lookup {target : Location} {tree next : FileTree Content}
    {member : Member Content} (placed : place target tree member = some next)
    (path : Location)
    : next.lookup path
      = if path = target ++ member.1 then some member.2
        else if path <+: target ++ member.1 then some .dir
        else tree.lookup path := by
  obtain ⟨name, entry⟩ := member
  cases entry with
  | dir =>
      rw [(FileTree.makeDirs_some placed).2 path]
      by_cases same : path = target ++ name
      · rw [if_pos same, if_pos (same ▸ List.prefix_refl _)]
      · rw [if_neg same]
  | file content =>
      obtain ⟨made, directories, written⟩ := Option.bind_eq_some_iff.mp placed
      obtain ⟨⟨real, _⟩, after⟩ := FileTree.writeFile_some written
      rw [after path, (FileTree.makeDirs_some directories).2 path]
      by_cases same : path = target ++ name
      · rw [if_pos same, if_pos same]
      · rw [if_neg same, if_neg same]
        simp only [prefix_dropLast_iff real, and_iff_left same]

theorem place_clear {target : Location} {tree next : FileTree Content}
    {member : Member Content} (placed : place target tree member = some next)
    {path : Location} (above : path <+: target ++ member.1) (other : path ≠ target ++ member.1)
    : tree.isFile path = false := by
  obtain ⟨name, entry⟩ := member
  cases entry with
  | dir => exact (FileTree.makeDirs_some placed).1 path ((List.mem_inits _ _).mpr above)
  | file content =>
      obtain ⟨made, directories, written⟩ := Option.bind_eq_some_iff.mp placed
      have real := (FileTree.writeFile_some written).1.1
      exact (FileTree.makeDirs_some directories).1 path
        ((List.mem_inits _ _).mpr ((prefix_dropLast_iff real).mpr ⟨above, other⟩))

theorem place_keeps {target : Location} {tree next : FileTree Content}
    {member : Member Content} (placed : place target tree member = some next)
    {path : Location} {entry : Entry Content} (stored : tree.lookup path = some entry)
    (other : path ≠ target ++ member.1)
    : next.lookup path = some entry := by
  rw [place_lookup placed, if_neg other]
  split
  · rename_i above
    have clear := place_clear placed above other
    cases entry with
    | dir => rfl
    | file content =>
        rw [FileTree.isFile_eq_true.mpr ⟨content, stored⟩] at clear
        contradiction
  · exact stored

/-- What is stored under the name of no member survives the extraction, by induction on the
members.
-/
theorem extract_keeps {target : Location} {members : List (Member Content)}
    {tree next : FileTree Content} (extracted : extract target members tree = some next)
    {path : Location} {entry : Entry Content} (stored : tree.lookup path = some entry)
    (other : ∀ member ∈ members, path ≠ target ++ member.1)
    : next.lookup path = some entry := by
  induction members generalizing tree with
  | nil =>
      cases extracted
      exact stored
  | cons member rest ih =>
      obtain ⟨middle, placed, later⟩ := Option.bind_eq_some_iff.mp extracted
      exact ih later (place_keeps placed stored (other member List.mem_cons_self))
        (fun next known => other next (List.mem_cons_of_mem _ known))

/-- Every member is found under its name, by induction on the members. -/
theorem extract_member {target : Location} {members : List (Member Content)}
    {tree next : FileTree Content} (extracted : extract target members tree = some next)
    (once : (members.map Prod.fst).Nodup) {member : Member Content} (known : member ∈ members)
    : next.lookup (target ++ member.1) = some member.2 := by
  induction members generalizing tree with
  | nil => cases known
  | cons first rest ih =>
      obtain ⟨middle, placed, later⟩ := Option.bind_eq_some_iff.mp extracted
      rw [List.map_cons, List.nodup_cons] at once
      rcases List.mem_cons.mp known with rfl | known
      · have here := place_lookup placed (target ++ member.1)
        rw [if_pos rfl] at here
        refine extract_keeps later here ?_
        intro other stored same
        rw [List.append_cancel_left_eq] at same
        exact once.1 (same ▸ List.mem_map_of_mem stored)
      · exact ih later once.2 known

/-- A path that is above no member keeps what it has, by induction on the members. -/
theorem extract_untouched {target : Location} {members : List (Member Content)}
    {tree next : FileTree Content} (extracted : extract target members tree = some next)
    {path : Location} (apart : ∀ member ∈ members, ¬ path <+: target ++ member.1)
    : next.lookup path = tree.lookup path := by
  induction members generalizing tree with
  | nil =>
      cases extracted
      rfl
  | cons first rest ih =>
      obtain ⟨middle, placed, later⟩ := Option.bind_eq_some_iff.mp extracted
      have away := apart first List.mem_cons_self
      have here := place_lookup placed path
      have other : path ≠ target ++ first.1 := by
        rintro rfl
        exact away (List.prefix_refl _)
      rw [if_neg other, if_neg away] at here
      rw [← here]
      exact ih later (fun member known => apart member (List.mem_cons_of_mem _ known))

/-- The tree below a target holds nothing but what a source has. -/
def Fits (source : FileTree Content) (dir target : Location) (tree : FileTree Content) : Prop :=
  ∀ rest entry, tree.lookup (target ++ rest) = some entry
    → source.lookup (dir ++ rest) = some entry

theorem place_possible {target : Location} {tree : FileTree Content} {member : Member Content}
    (real : target ++ member.1 ≠ [])
    (clear
      : ∀ path, path <+: target ++ member.1 → path ≠ target ++ member.1
        → tree.isFile path = false)
    (same
      : ∀ entry, tree.lookup (target ++ member.1) = some entry
        → (entry = .dir ↔ member.2 = .dir))
    : ∃ next, place target tree member = some next := by
  obtain ⟨name, entry⟩ := member
  dsimp only at real clear same
  cases entry with
  | dir =>
      have whole : tree.Clear (target ++ name) := by
        intro path member
        have above := (List.mem_inits _ _).mp member
        by_cases own : path = target ++ name
        · subst own
          rw [Bool.eq_false_iff, ne_eq, FileTree.isFile_eq_true]
          rintro ⟨content, stored⟩
          cases (same _ stored).mpr rfl
        · exact clear path above own
      exact whole.makes
  | file content =>
      have above : tree.Clear (target ++ name).dropLast := by
        intro path member
        have inside := (List.mem_inits _ _).mp member
        obtain ⟨higher, other⟩ := (prefix_dropLast_iff real).mp inside
        exact clear path higher other
      obtain ⟨made, directories⟩ := above.makes
      have after := (FileTree.makeDirs_some directories).2
      have writable : made.Writable (target ++ name) := by
        refine ⟨real, ?_, ?_⟩
        · rw [FileTree.isDir_eq_true, after, if_pos (List.prefix_refl _)]
        · have own : ¬ target ++ name <+: (target ++ name).dropLast := fun within =>
            ((prefix_dropLast_iff real).mp within).2 rfl
          rw [Bool.eq_false_iff, ne_eq, FileTree.isDir_eq_true, after, if_neg own]
          intro stored
          cases (same _ stored).mp rfl
      obtain ⟨next, written⟩ := writable.writes content
      exact ⟨next, by simp only [place, directories, Option.bind_some, written]⟩

theorem Fits.clear {source tree : FileTree Content} {dir target : Location}
    (fits : Fits source dir target tree) (isDir : tree.lookup target = some .dir)
    {name : Location} (taken : source.lookup (dir ++ name) ≠ none) {path : Location}
    (above : path <+: target ++ name) (other : path ≠ target ++ name)
    : tree.isFile path = false := by
  rw [Bool.eq_false_iff, ne_eq, FileTree.isFile_eq_true]
  rintro ⟨content, stored⟩
  rcases List.prefix_or_prefix_of_prefix above (List.prefix_append target name) with
    outside | ⟨rest, rfl⟩
  · obtain ⟨more, rfl⟩ := outside
    cases more with
    | nil =>
        rw [List.append_nil, stored] at isDir
        cases isDir
    | cons first later =>
        rw [tree.ancestor_dir (by rw [isDir]; simp) (List.cons_ne_nil first later)] at stored
        cases stored
  · obtain ⟨more, rfl⟩ := (List.prefix_append_right_inj target).mp above
    have below := fits rest _ stored
    cases more with
    | nil => simp at other
    | cons first later =>
        rw [← List.append_assoc] at taken
        rw [source.ancestor_dir taken (List.cons_ne_nil first later)] at below
        cases below

theorem Fits.place {source tree : FileTree Content} {dir target : Location}
    (fits : Fits source dir target tree) (isDir : tree.lookup target = some .dir)
    {member : Member Content} (real : member.1 ≠ [])
    (taken : source.lookup (dir ++ member.1) = some member.2)
    : ∃ next, Library.place target tree member = some next
        ∧ Fits source dir target next ∧ next.lookup target = some .dir := by
  have stored : source.lookup (dir ++ member.1) ≠ none := by rw [taken]; simp
  have kinds : ∀ entry, tree.lookup (target ++ member.1) = some entry
      → (entry = .dir ↔ member.2 = .dir) := by
    intro entry present
    have same := fits member.1 entry present
    rw [taken] at same
    cases same
    rfl
  obtain ⟨next, placed⟩ := place_possible (by simp [real])
    (fun path above other => fits.clear isDir stored above other) kinds
  refine ⟨next, placed, ?_, place_keeps placed isDir (by simpa using Ne.symm real)⟩
  intro rest entry present
  rw [place_lookup placed] at present
  split at present
  · rename_i own
    rw [List.append_cancel_left_eq] at own
    rw [own, taken]
    exact present
  · rename_i other
    split at present
    · rename_i above
      obtain ⟨more, longer⟩ := (List.prefix_append_right_inj target).mp above
      cases more with
      | nil => simp [← longer] at other
      | cons first later =>
          rw [← longer, ← List.append_assoc] at stored
          rw [source.ancestor_dir stored (List.cons_ne_nil first later)]
          exact present
    · exact fits rest entry present

/-- Members taken from a source can be extracted into an empty directory, by induction on the
members.
-/
theorem Fits.extract {source tree : FileTree Content} {dir target : Location}
    {members : List (Member Content)} (fits : Fits source dir target tree)
    (isDir : tree.lookup target = some .dir)
    (taken
      : ∀ member ∈ members, member.1 ≠ [] ∧ source.lookup (dir ++ member.1) = some member.2)
    : ∃ next, Library.extract target members tree = some next
        ∧ Fits source dir target next := by
  induction members generalizing tree with
  | nil => exact ⟨tree, rfl, fits⟩
  | cons first rest ih =>
      obtain ⟨real, entry⟩ := taken first List.mem_cons_self
      obtain ⟨middle, placed, stillFits, stillDir⟩ := fits.place isDir real entry
      obtain ⟨next, later, final⟩ := ih stillFits stillDir
        (fun member known => taken member (List.mem_cons_of_mem _ known))
      refine ⟨next, ?_, final⟩
      rw [Library.extract, placed]
      exact later

end Library
