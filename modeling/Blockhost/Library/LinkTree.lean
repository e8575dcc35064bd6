import Blockhost.Library.RawPath

/-! Trees with symbolic links. A path is followed in two ways: by the system, which stops where
something is missing, and by `realpath`, which goes on by name. Where the system arrives,
`realpath` arrives too.
-/

namespace Library

/-- What a name that is no directory stands for: a numbered file, which may be a regular one, or
a symbolic link.
-/
inductive Leaf where
  | node (regular : Bool) (inode : Nat)
  | link (text : String)
deriving DecidableEq, Repr

abbrev LinkTree := FileTree Leaf

/-- The parts of a path as the system reads them; `.` is one of them. -/
def systemParts (text : String) : RawPath :=
  ((text.toList.splitOn '/').map String.ofList).filter (fun part => part ≠ "")

/-- By induction on the parts. -/
theorem infix_intercalate {separator part : List Char} {parts : List (List Char)}
    (member : part ∈ parts)
    : part <:+: separator.intercalate parts := by
  induction parts with
  | nil => cases member
  | cons first rest ih =>
      cases rest with
      | nil => simp_all
      | cons second more =>
          rw [List.intercalate_cons_cons]
          rcases List.mem_cons.mp member with rfl | later
          · exact ⟨[], separator ++ separator.intercalate (second :: more), by simp⟩
          · exact (ih later).trans (List.suffix_append _ _).isInfix

theorem infix_of_mem_systemParts {text part : String} (member : part ∈ systemParts text)
    : part.toList <:+: text.toList := by
  obtain ⟨letters, split, rfl⟩ := List.mem_map.mp (List.mem_filter.mp member).1
  have within : letters <:+: ['/'].intercalate (text.toList.splitOn '/') :=
    infix_intercalate split
  rw [List.intercalate_splitOn] at within
  simpa using within

/-- The parts of a link's text; a slash at its end asks for a directory. -/
def linkParts (text : String) : RawPath :=
  systemParts text ++ if text.toList.getLast? = some '/' then ["."] else []

def linkBase (here : Location) (text : String) : Location := if isAbsolute text then [] else here

def maxSymlinks : Nat := 40

namespace FileTree

variable (tree : LinkTree)

def linkText (place : Location) : Option String :=
  match tree.lookup place with
  | some (.file (.link text)) => some text
  | _ => none

-- Paths as the system follows them

/-- Follow a path from a place on; `jump` goes on after a link. A last link is followed on
request only, and a last name may be missing.
-/
def walkWith (follow : Bool) (jump : Location → RawPath → Option Location) (here : Location)
    : RawPath → Option Location
  | [] => some here
  | part :: rest =>
      if !tree.isDir here then none
      else if part = "." then walkWith follow jump here rest
      else if part = ".." then walkWith follow jump here.dropLast rest
      else
        match tree.lookup (here ++ [part]) with
        | none => if rest = [] then some (here ++ [part]) else none
        | some (.file (.link text)) =>
            if rest = [] ∧ follow = false then some (here ++ [part])
            else jump (linkBase here text) (linkParts text ++ rest)
        | some _ => walkWith follow jump (here ++ [part]) rest

/-- Follow a path through so many links at most. -/
def walk (follow : Bool) : Nat → Location → RawPath → Option Location
  | 0 => tree.walkWith follow (fun _ _ => none)
  | jumps + 1 => tree.walkWith follow (walk follow jumps)

/-- The place that a call such as `open` or `chmod` works on. -/
def find (path : RawPath) : Option Location := tree.walk true maxSymlinks [] path

/-- The place that a call such as `unlink` or `mkdir` works on. -/
def findName (path : RawPath) : Option Location := tree.walk false maxSymlinks [] path

-- Paths as `realpath` follows them

/-- Replace the links in a path by what they lead to; `jump` does so for the text of a link. -/
def resolveWith (jump : Location → RawPath → Option Location) (here : Location)
    : RawPath → Option Location
  | [] => some here
  | part :: rest =>
      if part = "." then resolveWith jump here rest
      else if part = ".." then resolveWith jump here.dropLast rest
      else
        match tree.linkText (here ++ [part]) with
        | none => resolveWith jump (here ++ [part]) rest
        | some text =>
            (jump (linkBase here text) (linkParts text)).bind
              (fun place => resolveWith jump place rest)

/-- Replace links that lead to links up to a depth. -/
def resolve : Nat → Location → RawPath → Option Location
  | 0 => tree.resolveWith (fun _ _ => none)
  | depth + 1 => tree.resolveWith (resolve depth)

/-- `realpath`, which fails on links that lead in a circle: without a circle no more links than
the tree has lead to each other.
-/
def realpath (path : RawPath) : Option Location :=
  tree.resolve (tree.support.length + maxSymlinks) [] path

/-- Where the links in a path lead, if they do not lead in a circle. -/
def LeadsTo (path : RawPath) (place : Location) : Prop :=
  ∃ depth, tree.resolve depth [] path = some place

/-- Wherever a path leads, it is below a directory. -/
def LeadsInside (root : Location) (path : RawPath) : Prop :=
  ∀ place, tree.LeadsTo path place → root <+: place

variable {tree}

-- Steps of `realpath`

@[simp] theorem resolve_nil (depth : Nat) (here : Location)
    : tree.resolve depth here [] = some here := by
  cases depth <;> rfl

@[simp] theorem resolve_dot (depth : Nat) (here : Location) (rest : RawPath)
    : tree.resolve depth here ("." :: rest) = tree.resolve depth here rest := by
  cases depth <;> simp [resolve, resolveWith]

@[simp] theorem resolve_parent (depth : Nat) (here : Location) (rest : RawPath)
    : tree.resolve depth here (".." :: rest) = tree.resolve depth here.dropLast rest := by
  cases depth <;> simp [resolve, resolveWith]

theorem resolve_name {here : Location} {part : String} (named : part ≠ "." ∧ part ≠ "..")
    (plain : tree.linkText (here ++ [part]) = none) (depth : Nat) (rest : RawPath)
    : tree.resolve depth here (part :: rest) = tree.resolve depth (here ++ [part]) rest := by
  cases depth <;> simp [resolve, resolveWith, named, plain]

theorem resolve_link_zero {here : Location} {part text : String}
    (named : part ≠ "." ∧ part ≠ "..") (linked : tree.linkText (here ++ [part]) = some text)
    (rest : RawPath)
    : tree.resolve 0 here (part :: rest) = none := by
  simp [resolve, resolveWith, named, linked]

theorem resolve_link {here : Location} {part text : String} (named : part ≠ "." ∧ part ≠ "..")
    (linked : tree.linkText (here ++ [part]) = some text) (depth : Nat) (rest : RawPath)
    : tree.resolve (depth + 1) here (part :: rest)
      = (tree.resolve depth (linkBase here text) (linkParts text)).bind
          (fun place => tree.resolve (depth + 1) place rest) := by
  simp [resolve, resolveWith, named, linked]

theorem part_cases (tree : LinkTree) (here : Location) (part : String)
    : part = "." ∨ part = ".."
      ∨ (part ≠ "." ∧ part ≠ "..") ∧ tree.linkText (here ++ [part]) = none
      ∨ (part ≠ "." ∧ part ≠ "..") ∧ ∃ text, tree.linkText (here ++ [part]) = some text := by
  cases linked : tree.linkText (here ++ [part]) with
  | none => by_cases part = "." <;> by_cases part = ".." <;> simp_all
  | some text => by_cases part = "." <;> by_cases part = ".." <;> simp_all

@[elab_as_elim] theorem resolve_induction (tree : LinkTree)
    {motive : Nat → Location → RawPath → Prop}
    (nil : ∀ depth here, motive depth here [])
    (dot : ∀ depth here rest, motive depth here rest → motive depth here ("." :: rest))
    (parent
      : ∀ depth here rest, motive depth here.dropLast rest → motive depth here (".." :: rest))
    (name
      : ∀ depth here part rest, part ≠ "." ∧ part ≠ ".." → tree.linkText (here ++ [part]) = none
        → motive depth (here ++ [part]) rest → motive depth here (part :: rest))
    (stuck
      : ∀ here part rest text, part ≠ "." ∧ part ≠ ".."
        → tree.linkText (here ++ [part]) = some text → motive 0 here (part :: rest))
    (link
      : ∀ depth here part rest text, part ≠ "." ∧ part ≠ ".."
        → tree.linkText (here ++ [part]) = some text
        → motive depth (linkBase here text) (linkParts text)
        → (∀ place, motive (depth + 1) place rest) → motive (depth + 1) here (part :: rest))
    (depth : Nat) (here : Location) (path : RawPath)
    : motive depth here path := by
  induction depth generalizing here path with
  | zero =>
      induction path generalizing here with
      | nil => exact nil 0 here
      | cons part rest ih =>
          rcases part_cases tree here part with
            rfl | rfl | ⟨named, plain⟩ | ⟨named, text, linked⟩
          · exact dot 0 here rest (ih here)
          · exact parent 0 here rest (ih _)
          · exact name 0 here part rest named plain (ih _)
          · exact stuck here part rest text named linked
  | succ depth deeper =>
      induction path generalizing here with
      | nil => exact nil _ here
      | cons part rest ih =>
          rcases part_cases tree here part with
            rfl | rfl | ⟨named, plain⟩ | ⟨named, text, linked⟩
          · exact dot _ here rest (ih here)
          · exact parent _ here rest (ih _)
          · exact name _ here part rest named plain (ih _)
          · exact link depth here part rest text named linked (deeper _ _) ih

/-- A path in two parts, by induction on the first one. -/
theorem resolve_append (depth : Nat) (here : Location) (first second : RawPath)
    : tree.resolve depth here (first ++ second)
      = (tree.resolve depth here first).bind (fun place => tree.resolve depth place second) := by
  induction depth, here, first using resolve_induction tree with
  | nil depth here => simp
  | dot depth here rest ih => simpa using ih
  | parent depth here rest ih => simpa using ih
  | name depth here part rest named plain ih => simpa [resolve_name named plain] using ih
  | stuck here part rest text named linked => simp [resolve_link_zero named linked]
  | link depth here part rest text named linked _ ih =>
      simp [resolve_link named linked, Option.bind_assoc, ih]

/-- A greater depth changes no result, by induction along the path. -/
theorem resolve_succ {depth : Nat} {here place : Location} {path : RawPath}
    (resolved : tree.resolve depth here path = some place)
    : tree.resolve (depth + 1) here path = some place := by
  induction depth, here, path using resolve_induction tree generalizing place with
  | nil depth here => simpa using resolved
  | dot depth here rest ih => simpa using ih (by simpa using resolved)
  | parent depth here rest ih => simpa using ih (by simpa using resolved)
  | name depth here part rest named plain ih =>
      rw [resolve_name named plain] at resolved ⊢
      exact ih resolved
  | stuck here part rest text named linked => simp [resolve_link_zero named linked] at resolved
  | link depth here part rest text named linked deeper ih =>
      rw [resolve_link named linked] at resolved ⊢
      obtain ⟨middle, jumped, later⟩ := Option.bind_eq_some_iff.mp resolved
      exact Option.bind_eq_some_iff.mpr ⟨middle, deeper jumped, ih middle later⟩

theorem resolve_mono {depth more : Nat} (deeper : depth ≤ more) {here place : Location}
    {path : RawPath} (resolved : tree.resolve depth here path = some place)
    : tree.resolve more here path = some place := by
  induction deeper with
  | refl => exact resolved
  | step _ ih => exact resolve_succ ih

theorem LeadsTo.unique {path : RawPath} {place other : Location} (leads : tree.LeadsTo path place)
    (again : tree.LeadsTo path other)
    : place = other := by
  obtain ⟨depth, resolved⟩ := leads
  obtain ⟨more, known⟩ := again
  have first := resolve_mono (Nat.le_max_left depth more) resolved
  have second := resolve_mono (Nat.le_max_right depth more) known
  exact Option.some.inj (first.symm.trans second)

theorem LeadsTo.inside {path : RawPath} {place root : Location} (leads : tree.LeadsTo path place)
    (inside : root <+: place)
    : tree.LeadsInside root path :=
  fun _ again => leads.unique again ▸ inside

theorem leadsTo_of_realpath {path : RawPath} {place : Location}
    (resolved : tree.realpath path = some place)
    : tree.LeadsTo path place :=
  ⟨_, resolved⟩

-- Places without links

/-- A place whose names are names, and none of them a link. -/
structure Settled (tree : LinkTree) (place : Location) : Prop where
  noDot : "." ∉ place
  noParent : ".." ∉ place
  noLink : ∀ above, above <+: place → tree.linkText above = none

theorem linkText_root : tree.linkText [] = none := by
  simp [linkText, tree.root]

theorem settled_root : tree.Settled [] where
  noDot := List.not_mem_nil
  noParent := List.not_mem_nil
  noLink above within := by simp [List.prefix_nil.mp within, linkText_root]

theorem Settled.above {place above : Location} (settled : tree.Settled place)
    (within : above <+: place)
    : tree.Settled above where
  noDot member := settled.noDot (within.subset member)
  noParent member := settled.noParent (within.subset member)
  noLink _ higher := settled.noLink _ (higher.trans within)

theorem Settled.parent {place : Location} (settled : tree.Settled place)
    : tree.Settled place.dropLast :=
  settled.above (List.dropLast_prefix place)

theorem Settled.name {here : Location} {part : String} (settled : tree.Settled here)
    (named : part ≠ "." ∧ part ≠ "..") (plain : tree.linkText (here ++ [part]) = none)
    : tree.Settled (here ++ [part]) where
  noDot := by simp [settled.noDot, Ne.symm named.1]
  noParent := by simp [settled.noParent, Ne.symm named.2]
  noLink above within := by
    rcases List.prefix_concat_iff.mp within with same | higher
    · rw [same, plain]
    · exact settled.noLink above higher

theorem Settled.base {here : Location} (settled : tree.Settled here) (text : String)
    : tree.Settled (linkBase here text) := by
  unfold linkBase
  split
  · exact settled_root
  · exact settled

/-- Where `realpath` arrives no links are left, by induction along the path. -/
theorem Settled.resolve {depth : Nat} {here place : Location} {path : RawPath}
    (settled : tree.Settled here) (resolved : tree.resolve depth here path = some place)
    : tree.Settled place := by
  induction depth, here, path using resolve_induction tree generalizing place with
  | nil depth here =>
      simp only [resolve_nil, Option.some.injEq] at resolved
      exact resolved ▸ settled
  | dot depth here rest ih => exact ih settled (by simpa using resolved)
  | parent depth here rest ih => exact ih settled.parent (by simpa using resolved)
  | name depth here part rest named plain ih =>
      exact ih (settled.name named plain) (resolve_name named plain .. ▸ resolved)
  | stuck here part rest text named linked => simp [resolve_link_zero named linked] at resolved
  | link depth here part rest text named linked deeper ih =>
      rw [resolve_link named linked] at resolved
      obtain ⟨middle, jumped, later⟩ := Option.bind_eq_some_iff.mp resolved
      exact ih middle (deeper (settled.base text) jumped) later

theorem LeadsTo.settled {path : RawPath} {place : Location} (leads : tree.LeadsTo path place)
    : tree.Settled place := by
  obtain ⟨depth, resolved⟩ := leads
  exact settled_root.resolve resolved

/-- Names that are no links lead where they say, by induction on them. -/
theorem resolve_plain {depth : Nat} {here names : Location}
    (settled : tree.Settled (here ++ names))
    : tree.resolve depth here names = some (here ++ names) := by
  induction names generalizing here with
  | nil => simp
  | cons part rest ih =>
      have named : part ≠ "." ∧ part ≠ ".." :=
        ⟨fun dot => settled.noDot (by simp [dot]), fun up => settled.noParent (by simp [up])⟩
      rw [List.append_cons] at settled ⊢
      rw [resolve_name named (settled.noLink _ (List.prefix_append ..)), ih settled]

theorem Settled.leadsTo {place : Location} (settled : tree.Settled place)
    : tree.LeadsTo place place :=
  ⟨0, resolve_plain settled⟩

-- Trees with the same links

/-- Where a path leads depends on the links only, by induction along the path. -/
theorem resolve_congr {next : LinkTree} (same : ∀ place, next.linkText place = tree.linkText place)
    (depth : Nat) (here : Location) (path : RawPath)
    : next.resolve depth here path = tree.resolve depth here path := by
  induction depth, here, path using resolve_induction tree with
  | nil depth here => simp
  | dot depth here rest ih => simpa using ih
  | parent depth here rest ih => simpa using ih
  | name depth here part rest named plain ih =>
      rw [resolve_name named plain, resolve_name named ((same _).trans plain), ih]
  | stuck here part rest text named linked =>
      rw [resolve_link_zero named linked, resolve_link_zero named ((same _).trans linked)]
  | link depth here part rest text named linked deeper ih =>
      simp [resolve_link named linked, resolve_link named ((same _).trans linked), deeper, ih]

theorem leadsTo_congr {next : LinkTree} (same : ∀ place, next.linkText place = tree.linkText place)
    (path : RawPath) (place : Location)
    : next.LeadsTo path place ↔ tree.LeadsTo path place := by
  simp only [LeadsTo, resolve_congr same]

theorem LeadsInside.congr {next : LinkTree} {root : Location} {path : RawPath}
    (inside : tree.LeadsInside root path)
    (same : ∀ place, next.linkText place = tree.linkText place)
    : next.LeadsInside root path :=
  fun place leads => inside place ((leadsTo_congr same path place).mp leads)

-- Where the system arrives

theorem linkText_of_missing {place : Location} (missing : tree.lookup place = none)
    : tree.linkText place = none := by
  simp [linkText, missing]

theorem linkText_eq_some {place : Location} {text : String}
    : tree.linkText place = some text ↔ tree.lookup place = some (.file (.link text)) := by
  unfold linkText
  split <;> simp_all

/-- The system arrives where `realpath` leads: for one path, when the jumps do, by induction on
the path.
-/
private theorem resolve_of_walkWith {follow : Bool} {depth : Nat} {place : Location}
    {jump : Location → RawPath → Option Location}
    (whole : follow = true ∨ tree.linkText place = none)
    (jumps
      : ∀ here text rest part, tree.linkText (here ++ [part]) = some text
        → part ≠ "." ∧ part ≠ ".."
        → jump (linkBase here text) (linkParts text ++ rest) = some place
        → tree.resolve depth here (part :: rest) = some place)
    {here : Location} {path : RawPath}
    (walked : tree.walkWith follow jump here path = some place)
    : tree.resolve depth here path = some place := by
  induction path generalizing here with
  | nil => simpa [walkWith] using walked
  | cons part rest ih =>
      simp only [walkWith] at walked
      split at walked
      · cases walked
      · rcases part_cases tree here part with
          rfl | rfl | ⟨named, plain⟩ | ⟨named, text, linked⟩
        · exact (resolve_dot ..).trans (ih (by simpa using walked))
        · exact (resolve_parent ..).trans (ih (by simpa using walked))
        · rw [if_neg named.1, if_neg named.2] at walked
          rw [resolve_name named plain]
          split at walked
          · split at walked
            · rename_i last
              simpa [last] using walked
            · cases walked
          · rename_i text stored
            simp [linkText, stored] at plain
          · exact ih walked
        · rw [if_neg named.1, if_neg named.2, linkText_eq_some.mp linked] at walked
          dsimp only at walked
          split at walked
          · rename_i last
            cases walked
            simp [last.2, linked] at whole
          · exact jumps here text rest part linked named walked

/-- By induction on the number of links. -/
theorem resolve_of_walk {follow : Bool} {jumps : Nat} {here place : Location} {path : RawPath}
    (walked : tree.walk follow jumps here path = some place)
    (whole : follow = true ∨ tree.linkText place = none)
    : tree.resolve jumps here path = some place := by
  induction jumps generalizing here path with
  | zero => exact resolve_of_walkWith whole (fun _ _ _ _ _ _ jumped => by simp at jumped) walked
  | succ jumps ih =>
      refine resolve_of_walkWith whole ?_ walked
      intro here text rest part linked named jumped
      have resolved := ih jumped
      rw [resolve_append] at resolved
      obtain ⟨middle, first, second⟩ := Option.bind_eq_some_iff.mp resolved
      rw [resolve_link named linked]
      exact Option.bind_eq_some_iff.mpr ⟨middle, first, resolve_succ second⟩

theorem leadsTo_of_find {path : RawPath} {place : Location} (found : tree.find path = some place)
    : tree.LeadsTo path place :=
  ⟨_, resolve_of_walk found (.inl rfl)⟩

theorem leadsTo_of_findName {path : RawPath} {place : Location}
    (found : tree.findName path = some place) (plain : tree.linkText place = none)
    : tree.LeadsTo path place :=
  ⟨_, resolve_of_walk found (.inr plain)⟩

def NameIn (dir : Location) (last : String) (place : Location) : Prop :=
  place = dir ++ [last] ∨ last = "." ∧ place = dir ∨ last = ".." ∧ place = dir.dropLast

/-- A path to a name goes through the directory of it: for one path, when the jumps do, by
induction on the path.
-/
private theorem walkWith_name {follow : Bool} {last : String} {place : Location}
    {jump jumpName : Location → RawPath → Option Location}
    (jumps
      : ∀ base path, jumpName base (path ++ [last]) = some place
        → ∃ dir, jump base path = some dir ∧ tree.isDir dir = true
          ∧ (follow = false → NameIn dir last place))
    {here : Location} {dirs : RawPath}
    (walked : tree.walkWith follow jumpName here (dirs ++ [last]) = some place)
    : ∃ dir, tree.walkWith true jump here dirs = some dir ∧ tree.isDir dir = true
        ∧ (follow = false → NameIn dir last place) := by
  induction dirs generalizing here with
  | nil =>
      simp only [List.nil_append, walkWith] at walked
      split at walked
      · cases walked
      · rename_i isDir
        refine ⟨here, rfl, by simpa using isDir, ?_⟩
        rintro rfl
        split at walked
        · rename_i dot
          exact .inr (.inl ⟨dot, (Option.some.inj walked).symm⟩)
        split at walked
        · rename_i up
          exact .inr (.inr ⟨up, (Option.some.inj walked).symm⟩)
        · left
          split at walked <;> simpa using walked.symm
  | cons part rest ih =>
      simp only [List.cons_append, walkWith] at walked ⊢
      split at walked
      · cases walked
      · rename_i isDir
        rw [if_neg isDir]
        by_cases dot : part = "."
        · rw [if_pos dot] at walked ⊢
          exact ih walked
        by_cases up : part = ".."
        · rw [if_neg dot, if_pos up] at walked ⊢
          exact ih walked
        rw [if_neg dot, if_neg up] at walked ⊢
        split at walked
        · simp at walked
        · rename_i text stored
          simp at walked
          simpa using jumps (linkBase here text) (linkParts text ++ rest) (by simpa using walked)
        · exact ih walked

/-- By induction on the number of links. -/
theorem walk_name {follow : Bool} {last : String} {jumps : Nat} {here place : Location}
    {dirs : RawPath} (walked : tree.walk follow jumps here (dirs ++ [last]) = some place)
    : ∃ dir, tree.walk true jumps here dirs = some dir ∧ tree.isDir dir = true
        ∧ (follow = false → NameIn dir last place) := by
  induction jumps generalizing here dirs with
  | zero => exact walkWith_name (fun _ _ jumped => by simp at jumped) walked
  | succ jumps ih =>
      refine walkWith_name ?_ walked
      exact fun base path jumped => ih jumped

/-- A path that is followed to its end goes through directories, by induction from its end. -/
theorem walk_front {jumps : Nat} {here place : Location} {front back : RawPath}
    (walked : tree.walk true jumps here (front ++ back) = some place) (longer : back ≠ [])
    : ∃ dir, tree.walk true jumps here front = some dir ∧ tree.isDir dir = true := by
  induction back using List.reverseRecOn generalizing place with
  | nil => contradiction
  | append_singleton back last ih =>
      rw [← List.append_assoc] at walked
      obtain ⟨dir, higher, isDir, _⟩ := walk_name walked
      by_cases more : back = []
      · exact ⟨dir, by simpa [more] using higher, isDir⟩
      · exact ih higher more

-- Trees with more entries

/-- A path that is found stays so when more is stored, unless it ends at a link: for one path, when
the jumps do, by induction on the path.
-/
private theorem walkWith_grown {next : LinkTree} {follow : Bool} {place : Location}
    {jump jumpNext : Location → RawPath → Option Location}
    (kept : ∀ path, tree.lookup path ≠ none → next.lookup path = tree.lookup path)
    (plain : next.linkText place = none)
    (jumps : ∀ base path, jump base path = some place → jumpNext base path = some place)
    {here : Location} {path : RawPath}
    (walked : tree.walkWith follow jump here path = some place)
    : next.walkWith true jumpNext here path = some place := by
  induction path generalizing here with
  | nil => exact walked
  | cons part rest ih =>
      simp only [walkWith] at walked ⊢
      split at walked
      · cases walked
      · rename_i isDir
        have dir : tree.lookup here = some .dir := by simpa using isDir
        rw [if_neg (by simp [kept here (by simp [dir]), dir])]
        by_cases dot : part = "."
        · rw [if_pos dot] at walked ⊢
          exact ih walked
        by_cases up : part = ".."
        · rw [if_neg dot, if_pos up] at walked ⊢
          exact ih walked
        rw [if_neg dot, if_neg up] at walked ⊢
        split at walked
        · simp only [Option.ite_none_right_eq_some, Option.some.injEq] at walked
          obtain ⟨rfl, rfl⟩ := walked
          split
          · rfl
          · rename_i text stored
            simp [linkText, stored] at plain
          · rfl
        · rename_i text stored
          have linked : next.lookup (here ++ [part]) = some (.file (.link text)) := by
            rw [kept _ (by simp [stored]), stored]
          simp only [linked, Bool.true_eq_false, and_false, if_false]
          split at walked
          · obtain rfl := Option.some.inj walked
            simp [linkText, linked] at plain
          · exact jumps _ _ walked
        · rename_i entry notLink stored
          rw [kept _ (by simp [stored]), stored]
          split
          · simp_all
          · simp_all
          · exact ih walked

/-- By induction on the number of links. -/
theorem walk_grown {next : LinkTree} {follow : Bool} {jumps : Nat} {here place : Location}
    {path : RawPath} (kept : ∀ path, tree.lookup path ≠ none → next.lookup path = tree.lookup path)
    (plain : next.linkText place = none)
    (walked : tree.walk follow jumps here path = some place)
    : next.walk true jumps here path = some place := by
  induction jumps generalizing here path with
  | zero => exact walkWith_grown kept plain (fun _ _ jumped => by simp at jumped) walked
  | succ jumps ih => exact walkWith_grown kept plain (fun _ _ jumped => ih jumped) walked

-- What a removal hides

/-- A path that is found without a name was found with it, unless it ends there: for one path,
when the jumps do, by induction on the path.
-/
private theorem walkWith_remove {follow : Bool} {gone place : Location}
    {jump jumpWith : Location → RawPath → Option Location} (leaf : tree.isFile gone = true)
    (other : place ≠ gone)
    (jumps : ∀ base path, jump base path = some place → jumpWith base path = some place)
    {here : Location} {path : RawPath}
    (walked : (tree.remove gone).walkWith follow jump here path = some place)
    : tree.walkWith follow jumpWith here path = some place := by
  have lookups := lookup_remove_leaf leaf
  have dirs : ∀ path, (tree.remove gone).isDir path = tree.isDir path := by
    intro path
    obtain ⟨content, stored⟩ := isFile_eq_true.mp leaf
    by_cases same : path = gone <;> simp [isDir, lookups, same, stored]
  induction path generalizing here with
  | nil => exact walked
  | cons part rest ih =>
      simp only [walkWith, dirs] at walked ⊢
      split at walked
      · cases walked
      · rename_i isDir
        rw [if_neg isDir]
        by_cases dot : part = "."
        · rw [if_pos dot] at walked ⊢
          exact ih walked
        by_cases up : part = ".."
        · rw [if_neg dot, if_pos up] at walked ⊢
          exact ih walked
        rw [if_neg dot, if_neg up] at walked ⊢
        by_cases same : here ++ [part] = gone
        · simp [lookups, same] at walked
          exact absurd walked.2.symm other
        rw [lookups, if_neg same] at walked
        split at walked
        · exact walked
        · by_cases last : rest = [] ∧ follow = false
          · rw [if_pos last] at walked ⊢
            exact walked
          · rw [if_neg last] at walked ⊢
            exact jumps _ _ walked
        · exact ih walked

/-- By induction on the number of links. -/
theorem walk_remove {follow : Bool} {gone : Location} {jumps : Nat} {here place : Location}
    {path : RawPath} (leaf : tree.isFile gone = true) (other : place ≠ gone)
    (walked : (tree.remove gone).walk follow jumps here path = some place)
    : tree.walk follow jumps here path = some place := by
  induction jumps generalizing here path with
  | zero => exact walkWith_remove leaf other (fun _ _ jumped => jumped) walked
  | succ jumps ih => exact walkWith_remove leaf other (fun _ _ jumped => ih jumped) walked

-- Missing names

/-- The system arrives at a missing name in a directory: for one path, when the jumps do, by
induction on the path.
-/
private theorem walkWith_missing {follow : Bool} {place : Location}
    {jump : Location → RawPath → Option Location} (missing : tree.lookup place = none)
    (jumps
      : ∀ base path, tree.lookup base ≠ none → jump base path = some place
        → tree.isDir place.dropLast = true)
    {here : Location} {path : RawPath} (stored : tree.lookup here ≠ none)
    (walked : tree.walkWith follow jump here path = some place)
    : tree.isDir place.dropLast = true := by
  induction path generalizing here with
  | nil => exact absurd missing (Option.some.inj walked ▸ stored)
  | cons part rest ih =>
      simp only [walkWith] at walked
      split at walked
      · cases walked
      · rename_i isDir
        split at walked
        · exact ih stored walked
        split at walked
        · exact ih (tree.lookup_of_prefix stored (List.dropLast_prefix here)) walked
        split at walked
        · simp only [Option.ite_none_right_eq_some, Option.some.injEq] at walked
          simpa [← walked.2] using isDir
        · rename_i text link
          split at walked
          · rename_i last
            simp [← Option.some.inj walked, link] at missing
          · refine jumps _ _ ?_ walked
            unfold linkBase
            split
            · simp [tree.root]
            · exact stored
        · rename_i entry _ found
          exact ih (by simp [found]) walked

/-- By induction on the number of links. -/
theorem walk_missing {follow : Bool} {jumps : Nat} {here place : Location} {path : RawPath}
    (walked : tree.walk follow jumps here path = some place) (stored : tree.lookup here ≠ none)
    (missing : tree.lookup place = none)
    : tree.isDir place.dropLast = true := by
  induction jumps generalizing here path with
  | zero => exact walkWith_missing missing (fun _ _ _ jumped => by simp at jumped) stored walked
  | succ jumps ih =>
      exact walkWith_missing missing (fun _ _ base jumped => ih jumped base) stored walked

/-- Below a missing place a path leads on by name, by induction on the path. -/
theorem resolve_missing {depth : Nat} {here : Location} {path : RawPath}
    (missing : tree.lookup here = none) (plain : ".." ∉ path)
    : tree.resolve depth here path = some (here ++ path.filter (fun part => part ≠ ".")) := by
  induction path generalizing here with
  | nil => simp
  | cons part rest ih =>
      have later : ".." ∉ rest := fun member => plain (List.mem_cons_of_mem _ member)
      by_cases dot : part = "."
      · simpa [dot] using ih missing later
      · have named : part ≠ "." ∧ part ≠ ".." := ⟨dot, fun up => plain (by simp [up])⟩
        have below : tree.lookup (here ++ [part]) = none := by
          by_contra stored
          simp [tree.closed here part stored] at missing
        rw [resolve_name named (by simp [linkText, below]), ih below later]
        simp [dot]

theorem inside_of_missing {root place extra : Location} {path more : RawPath}
    (inside : ∀ other, tree.LeadsTo (path ++ more) other → root <+: other ++ extra)
    (stored : tree.lookup root ≠ none) (leads : tree.LeadsTo path place)
    (missing : tree.lookup place = none) (plain : ".." ∉ more)
    : root <+: place := by
  obtain ⟨depth, resolved⟩ := leads
  have whole : tree.LeadsTo (path ++ more) (place ++ more.filter (fun part => part ≠ ".")) :=
    ⟨depth, by rw [resolve_append, resolved]; exact resolve_missing missing plain⟩
  have within := inside _ whole
  rw [List.append_assoc] at within
  rcases List.prefix_or_prefix_of_prefix within (List.prefix_append place _) with below | above
  · exact below
  · exact absurd missing (tree.lookup_of_prefix stored above)

end FileTree

end Library
