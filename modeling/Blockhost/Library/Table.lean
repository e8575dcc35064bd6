import Mathlib.Data.List.Basic
import Mathlib.Data.List.Induction
import Mathlib.Data.List.Nodup
import Mathlib.Data.List.MinMax

/-! Finite tables whose rows carry their own key. A table stores its rows in the order in
which they were added; the key constraint is a field, so no operation can break it.
-/

namespace Library

variable {Row Key : Type}

section Places

variable {rows : List Row} {row changed found : Row} {index other : Nat}

theorem getElem?_concat_cases (known : (rows ++ [row])[index]? = some found)
    : rows[index]? = some found ∨ index = rows.length ∧ found = row := by
  rcases Nat.lt_trichotomy index rows.length with below | same | above
  · rw [List.getElem?_append_left below] at known
    exact .inl known
  · rw [same, List.getElem?_concat_length] at known
    exact .inr ⟨same, (Option.some.inj known).symm⟩
  · have past : (rows ++ [row]).length ≤ index := by
      rw [List.length_append, List.length_singleton]
      exact above
    rw [List.getElem?_eq_none past] at known
    cases known

theorem getElem?_concat (known : rows[index]? = some found)
    : (rows ++ [row])[index]? = some found := by
  rw [List.getElem?_append_left (List.getElem?_eq_some_iff.mp known).1]
  exact known

theorem getElem?_set_own (known : rows[index]? = some row) (changed : Row)
    : (rows.set index changed)[index]? = some changed :=
  List.getElem?_set_self (List.getElem?_eq_some_iff.mp known).1

theorem getElem?_set_other (known : rows[other]? = some found) (differs : other ≠ index)
    (changed : Row)
    : (rows.set index changed)[other]? = some found := by
  rw [List.getElem?_set_ne (Ne.symm differs)]
  exact known

theorem getElem?_set_cases (known : (rows.set index changed)[other]? = some found)
    : other = index ∧ found = changed ∨ other ≠ index ∧ rows[other]? = some found := by
  by_cases same : other = index
  · rw [same] at known
    have bound := (List.getElem?_eq_some_iff.mp known).1
    rw [List.length_set] at bound
    rw [List.getElem?_set_self bound] at known
    exact .inl ⟨same, (Option.some.inj known).symm⟩
  · rw [List.getElem?_set_ne (Ne.symm same)] at known
    exact .inr ⟨same, known⟩

end Places

section Latest

variable {Value : Type} [LinearOrder Value]

/-- The first row with the greatest value, as `ORDER BY value DESC LIMIT 1` finds it. -/
def latest (value : Row → Value) (rows : List Row) : Option Row := rows.argmax value

@[simp] theorem latest_nil (value : Row → Value) : latest value [] = none := rfl

@[simp] theorem latest_singleton (value : Row → Value) (row : Row)
    : latest value [row] = some row :=
  rfl

theorem latest_eq_none {value : Row → Value} {rows : List Row}
    : latest value rows = none ↔ rows = [] :=
  List.argmax_eq_none

theorem latest_some {value : Row → Value} {rows : List Row} {row : Row}
    (found : latest value rows = some row)
    : row ∈ rows ∧ ∀ other ∈ rows, value other ≤ value row :=
  ⟨List.argmax_mem found, fun _ member => List.le_of_mem_argmax member found⟩

/-- A rewriting that keeps the measured value keeps the position of the row found, by
induction from the end of the list.
-/
theorem latest_map (value : Row → Value) (change : Row → Row)
    (kept : ∀ row, value (change row) = value row) (rows : List Row)
    : latest value (rows.map change) = (latest value rows).map change := by
  unfold latest
  induction rows using List.reverseRecOn with
  | nil => rfl
  | append_singleton rows last ih =>
      rw [List.map_append, List.map_singleton, List.argmax_concat, List.argmax_concat, ih]
      cases rows.argmax value with
      | none => rfl
      | some best =>
          simp only [Option.map_some, kept]
          split <;> rfl

theorem latest_concat {value : Row → Value} {rows : List Row} {row : Row}
    (greater : ∀ other ∈ rows, value other < value row)
    : latest value (rows ++ [row]) = some row := by
  unfold latest
  rw [List.argmax_concat]
  cases found : rows.argmax value with
  | none => rfl
  | some best => exact if_pos (greater best (List.argmax_mem found))

end Latest

/-- Rows in insertion order, no two of them with the same key. -/
structure Table (key : Row → Key) where
  rows : List Row
  unique : (rows.map key).Nodup

/-- A rewriting of rows that leaves their keys alone. -/
structure Change (key : Row → Key) where
  apply : Row → Row
  kept : ∀ row, key (apply row) = key row := by intro row; rfl

structure Template (number : Row → Nat) where
  make : Nat → Row
  keyed : ∀ k, number (make k) = k := by intro k; rfl

def Change.at [DecidableEq Key] {key : Row → Key} (change : Change key) (k : Key)
    : Change key where
  apply row := if key row = k then change.apply row else row
  kept row := by split <;> simp [change.kept]

theorem Change.at_same [DecidableEq Key] {key : Row → Key} (change : Change key) {k : Key}
    {row : Row} (same : key row = k)
    : (change.at k).apply row = change.apply row :=
  if_pos same

theorem Change.at_other [DecidableEq Key] {key : Row → Key} (change : Change key) {k : Key}
    {row : Row} (other : key row ≠ k)
    : (change.at k).apply row = row :=
  if_neg other

def Change.when {key : Row → Key} (change : Change key) (test : Row → Bool) : Change key where
  apply row := if test row then change.apply row else row
  kept row := by split <;> simp [change.kept]

namespace Table

variable {key : Row → Key}

def empty : Table key := ⟨[], List.nodup_nil⟩

instance : Inhabited (Table key) := ⟨empty⟩

def get? [DecidableEq Key] (table : Table key) (k : Key) : Option Row :=
  table.rows.find? (fun row => key row = k)

def update (table : Table key) (change : Change key) : Table key where
  rows := table.rows.map change.apply
  unique := by
    have same : key ∘ change.apply = key := funext change.kept
    simpa only [List.map_map, same] using table.unique

/-- Rewrite the row stored under one key. -/
def modify [DecidableEq Key] (table : Table key) (k : Key) (change : Change key) : Table key :=
  table.update (change.at k)

def insert (table : Table key) (row : Row) (fresh : key row ∉ table.rows.map key)
    : Table key where
  rows := table.rows ++ [row]
  unique := by
    rw [List.map_append, List.nodup_append]
    refine ⟨table.unique, by simp, ?_⟩
    intro left stored right added same
    rw [List.map_singleton, List.mem_singleton] at added
    exact fresh (added ▸ same ▸ stored)

/-- Append a row, or refuse it when its key is in use (the primary-key constraint). -/
def insert? [DecidableEq Key] (table : Table key) (row : Row) : Option (Table key) :=
  if used : key row ∈ table.rows.map key then none else some (table.insert row used)

def filter (table : Table key) (keep : Row → Bool) : Table key where
  rows := table.rows.filter keep
  unique := table.unique.sublist (List.Sublist.map key List.filter_sublist)

@[simp] theorem rows_empty : (empty : Table key).rows = [] := rfl

@[simp] theorem rows_update (table : Table key) (change : Change key)
    : (table.update change).rows = table.rows.map change.apply :=
  rfl

@[simp] theorem keys_update (table : Table key) (change : Change key)
    : (table.update change).rows.map key = table.rows.map key := by
  rw [rows_update, List.map_map]
  exact List.map_congr_left (fun row _ => change.kept row)

@[simp] theorem rows_insert (table : Table key) (row : Row)
    (fresh : key row ∉ table.rows.map key)
    : (table.insert row fresh).rows = table.rows ++ [row] :=
  rfl

@[simp] theorem rows_filter (table : Table key) (keep : Row → Bool)
    : (table.filter keep).rows = table.rows.filter keep :=
  rfl

theorem eq_of_key_eq (table : Table key) {left right : Row} (first : left ∈ table.rows)
    (second : right ∈ table.rows) (same : key left = key right)
    : left = right :=
  List.inj_on_of_nodup_map table.unique first second same

theorem mem_update_iff (table : Table key) (change : Change key) {row : Row}
    (stored : row ∈ table.rows)
    : row ∈ (table.update change).rows ↔ change.apply row = row := by
  constructor
  · intro member
    obtain ⟨other, known, same⟩ := List.mem_map.mp member
    have found : other = row :=
      table.eq_of_key_eq known stored ((change.kept other).symm.trans (congrArg key same))
    rw [found] at same
    exact same
  · intro same
    exact List.mem_map.mpr ⟨row, stored, same⟩

theorem eq_of_rows_eq {left right : Table key} (same : left.rows = right.rows) : left = right := by
  cases left
  cases right
  cases same
  rfl

theorem update_congr {table : Table key} {left right : Change key}
    (same : ∀ row ∈ table.rows, left.apply row = right.apply row)
    : table.update left = table.update right := by
  unfold update
  congr 1
  exact List.map_congr_left same

section Lookups

variable [DecidableEq Key]

@[simp] theorem rows_modify (table : Table key) (k : Key) (change : Change key)
    : (table.modify k change).rows
      = table.rows.map (fun row => if key row = k then change.apply row else row) :=
  rfl

@[simp] theorem keys_modify (table : Table key) (k : Key) (change : Change key)
    : (table.modify k change).rows.map key = table.rows.map key :=
  table.keys_update (change.at k)

theorem get?_some {table : Table key} {k : Key} {row : Row} (found : table.get? k = some row)
    : row ∈ table.rows ∧ key row = k :=
  ⟨List.mem_of_find?_eq_some found, by simpa using List.find?_some found⟩

theorem get?_of_mem {table : Table key} {row : Row} (member : row ∈ table.rows)
    : table.get? (key row) = some row := by
  cases found : table.get? (key row) with
  | none => simpa using List.find?_eq_none.mp found row member
  | some other =>
      obtain ⟨stored, same⟩ := get?_some found
      rw [table.eq_of_key_eq stored member same]

theorem get?_eq_none {table : Table key} {k : Key}
    : table.get? k = none ↔ k ∉ table.rows.map key := by
  simp only [get?, List.find?_eq_none, decide_eq_true_eq, List.mem_map, not_exists, not_and]

theorem get?_update (table : Table key) (change : Change key) (k : Key)
    : (table.update change).get? k = (table.get? k).map change.apply := by
  simp only [get?, rows_update, List.find?_map]
  congr 2
  funext row
  simp [change.kept]

theorem get?_modify (table : Table key) (k other : Key) (change : Change key)
    : (table.modify k change).get? other
      = if other = k then (table.get? other).map change.apply else table.get? other := by
  rw [modify, get?_update]
  cases found : table.get? other with
  | none => simp
  | some row =>
      have rowKey := (get?_some found).2
      subst rowKey
      by_cases same : key row = k <;> simp [Change.at, same]

theorem of_mem_modify {table : Table key} {k : Key} {change : Change key} {row : Row}
    (stored : row ∈ (table.modify k change).rows)
    : ∃ before ∈ table.rows, key before = key row
      ∧ (key before = k ∧ row = change.apply before ∨ key before ≠ k ∧ row = before) := by
  obtain ⟨before, known, rfl⟩ := List.mem_map.mp stored
  refine ⟨before, known, ((change.at k).kept before).symm, ?_⟩
  by_cases same : key before = k
  · exact .inl ⟨same, Change.at_same change same⟩
  · exact .inr ⟨same, Change.at_other change same⟩

theorem modify_absent {table : Table key} {k : Key} (absent : k ∉ table.rows.map key)
    (change : Change key)
    : table.modify k change = table := by
  refine eq_of_rows_eq ((List.map_congr_left ?_).trans (List.map_id _))
  intro row member
  refine if_neg ?_
  intro found
  exact absent (found ▸ List.mem_map_of_mem member)

theorem rows_modify_split (table : Table key) (change : Change key) {row : Row}
    (stored : row ∈ table.rows)
    : ∃ before after, table.rows = before ++ row :: after
      ∧ (table.modify (key row) change).rows = before ++ change.apply row :: after := by
  obtain ⟨before, after, whole⟩ := List.append_of_mem stored
  have unique := table.unique
  rw [whole, List.map_append, List.map_cons, List.nodup_append, List.nodup_cons] at unique
  obtain ⟨_, ⟨later, _⟩, earlier⟩ := unique
  have others (rows : List Row) (apart : ∀ other ∈ rows, key other ≠ key row)
      : rows.map (fun other => if key other = key row then change.apply other else other)
        = rows := by
    refine (List.map_congr_left ?_).trans (List.map_id rows)
    intro other member
    exact if_neg (apart other member)
  refine ⟨before, after, whole, ?_⟩
  rw [rows_modify, whole, List.map_append, List.map_cons, if_pos rfl, others before,
    others after]
  · intro other member same
    exact later (same ▸ List.mem_map_of_mem member)
  · intro other member same
    exact earlier _ (List.mem_map_of_mem member) _ List.mem_cons_self same

theorem mem_modify (table : Table key) (change : Change key) {row : Row}
    (stored : row ∈ table.rows)
    : change.apply row ∈ (table.modify (key row) change).rows :=
  List.mem_map.mpr ⟨row, stored, if_pos rfl⟩

theorem length_filter_modify (table : Table key) (change : Change key)
    (test : Row → Bool) {row : Row} (stored : row ∈ table.rows) (before : test row = false)
    (after : test (change.apply row) = true)
    : ((table.modify (key row) change).rows.filter test).length
      = (table.rows.filter test).length + 1 := by
  obtain ⟨head, tail, whole, changed⟩ := table.rows_modify_split change stored
  rw [changed, whole]
  simp [before, after]
  omega

theorem get?_insert (table : Table key) (row : Row) (fresh : key row ∉ table.rows.map key)
    (k : Key)
    : (table.insert row fresh).get? k
      = if key row = k then some row else table.get? k := by
  by_cases same : key row = k
  · subst same
    have absent : table.get? (key row) = none := get?_eq_none.mpr fresh
    simp only [get?] at absent
    simp [get?, List.find?_append, absent]
  · simp only [get?, rows_insert, List.find?_append, same, if_false]
    cases table.rows.find? (fun row => decide (key row = k)) <;> simp [same]

theorem insert?_fresh {table : Table key} (row : Row) (fresh : key row ∉ table.rows.map key)
    : table.insert? row = some (table.insert row fresh) :=
  dif_neg fresh

/-- A refused insert means that the key was in use; a granted one appends the row. -/
theorem insert?_some {table next : Table key} {row : Row} (added : table.insert? row = some next)
    : ∃ fresh, next = table.insert row fresh := by
  unfold insert? at added
  split at added
  · contradiction
  · exact ⟨_, (Option.some.inj added).symm⟩

end Lookups

section Fresh

variable {number : Row → Nat}

def freshKey (table : Table number) : Nat :=
  table.rows.foldr (fun row bound => max (number row + 1) bound) 0

/-- Every stored key lies below the fresh key, by induction on the rows. -/
theorem lt_freshKey (table : Table number) {row : Row} (member : row ∈ table.rows)
    : number row < table.freshKey := by
  have bounded : ∀ rows : List Row, row ∈ rows
      → number row < rows.foldr (fun row bound => max (number row + 1) bound) 0 := by
    intro rows member
    induction rows with
    | nil => cases member
    | cons head rest ih =>
        rcases List.mem_cons.mp member with same | later
        · subst same
          simp
        · exact lt_of_lt_of_le (ih later) (le_max_right _ _)
  exact bounded table.rows member

theorem freshKey_notMem (table : Table number) : table.freshKey ∉ table.rows.map number := by
  intro used
  obtain ⟨row, member, same⟩ := List.mem_map.mp used
  exact absurd (table.lt_freshKey member) (by omega)

def create (table : Table number) (row : Template number) : Table number :=
  table.insert (row.make table.freshKey) (by rw [row.keyed]; exact table.freshKey_notMem)

@[simp] theorem rows_create (table : Table number) (row : Template number)
    : (table.create row).rows = table.rows ++ [row.make table.freshKey] :=
  rfl

@[simp] theorem keys_create (table : Table number) (row : Template number)
    : (table.create row).rows.map number = table.rows.map number ++ [table.freshKey] := by
  rw [rows_create, List.map_append, List.map_singleton, row.keyed]

theorem get?_create (table : Table number) (row : Template number) (k : Nat)
    : (table.create row).get? k
      = if k = table.freshKey then some (row.make table.freshKey) else table.get? k := by
  rw [create, get?_insert, row.keyed]
  simp only [eq_comm]

theorem get?_freshKey (table : Table number) : table.get? table.freshKey = none :=
  get?_eq_none.mpr table.freshKey_notMem

end Fresh

end Table

end Library
