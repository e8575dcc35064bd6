import Blockhost.Library.Table

/-! The sum of a quantity over the rows that pass a test, and how it changes with the rows. -/

namespace Library

variable {Row Key : Type}

def weight (test : Row → Bool) (value : Row → Int) (row : Row) : Int :=
  if test row then value row else 0

def total (test : Row → Bool) (value : Row → Int) : List Row → Int
  | [] => 0
  | row :: rows => weight test value row + total test value rows

variable {test left right : Row → Bool} {value other : Row → Int} {rows : List Row}

@[simp] theorem weight_pass {row : Row} (passes : test row = true)
    : weight test value row = value row := by
  rw [weight, passes, if_pos rfl]

@[simp] theorem weight_fail {row : Row} (fails : test row = false)
    : weight test value row = 0 := by
  rw [weight, fails, if_neg Bool.false_ne_true]

@[simp] theorem total_nil : total test value [] = 0 := rfl

@[simp] theorem total_cons (row : Row) (rows : List Row)
    : total test value (row :: rows) = weight test value row + total test value rows :=
  rfl

@[simp] theorem total_append (first second : List Row)
    : total test value (first ++ second) = total test value first + total test value second := by
  induction first with
  | nil => simp
  | cons row rows ih => simp only [List.cons_append, total_cons, ih, Int.add_assoc]

/-- An accumulating loop over the rows that pass adds their total, by induction on the rows. -/
theorem foldl_filter_eq_total (rows : List Row) (start : Int)
    : (rows.filter test).foldl (fun sum row => sum + value row) start
      = start + total test value rows := by
  induction rows generalizing start with
  | nil => simp
  | cons row rows ih =>
      cases passes : test row with
      | true => simp only [List.filter_cons, passes, if_true, List.foldl_cons, ih, total_cons,
          weight_pass, Int.add_assoc]
      | false => simp [passes, ih]

theorem total_congr (same : ∀ row ∈ rows, weight left value row = weight right other row)
    : total left value rows = total right other rows := by
  induction rows with
  | nil => rfl
  | cons row rows ih =>
      have others := ih (fun other member => same other (List.mem_cons_of_mem row member))
      rw [total_cons, total_cons, others, same row List.mem_cons_self]

/-- A total over the kept rows, by induction on the rows. -/
theorem total_filter (keep : Row → Bool) (rows : List Row)
    : total test value (rows.filter keep)
      = total (fun row => keep row && test row) value rows := by
  induction rows with
  | nil => rfl
  | cons row rows ih =>
      cases kept : keep row <;> simp [weight, kept, ih]

/-- Rows that pass one of two tests, and never both, by induction on the rows. -/
theorem total_or (apart : ∀ row ∈ rows, left row = true → right row = false)
    : total (fun row => left row || right row) value rows
      = total left value rows + total right value rows := by
  induction rows with
  | nil => rfl
  | cons row rows ih =>
      have others := ih (fun other member => apart other (List.mem_cons_of_mem row member))
      have here : weight (fun row => left row || right row) value row
          = weight left value row + weight right value row := by
        cases passes : left row with
        | true => simp [weight, passes, apart row List.mem_cons_self passes]
        | false => simp [weight, passes]
      simp only [total_cons, others, here]
      omega

/-- Rows without weight add nothing, by induction on the rows. -/
theorem total_weightless (none : ∀ row ∈ rows, weight test value row = 0)
    : total test value rows = 0 := by
  induction rows with
  | nil => rfl
  | cons row rows ih =>
      have others := ih (fun other member => none other (List.mem_cons_of_mem row member))
      rw [total_cons, others, none row List.mem_cons_self, Int.add_zero]

theorem Table.total_modify [DecidableEq Key] {key : Row → Key} (table : Table key)
    (change : Change key) {row : Row} (stored : row ∈ table.rows)
    : total test value (table.modify (key row) change).rows
      = total test value table.rows - weight test value row
        + weight test value (change.apply row) := by
  obtain ⟨before, after, whole, changed⟩ := table.rows_modify_split change stored
  rw [changed, whole]
  simp only [total_append, total_cons]
  omega

theorem Table.total_split [DecidableEq Key] {key : Row → Key} (table : Table key) {row : Row}
    (stored : row ∈ table.rows)
    : total test value table.rows
      = total (fun other => key other ≠ key row && test other) value table.rows
        + weight test value row := by
  obtain ⟨before, after, whole⟩ := List.append_of_mem stored
  have others : ∀ other ∈ before ++ after, key other ≠ key row := by
    have unique := table.unique
    rw [whole, List.map_append, List.map_cons, List.nodup_middle, ← List.map_append] at unique
    intro other member same
    exact (List.nodup_cons.mp unique).1 (same ▸ List.mem_map_of_mem member)
  have kept {rows : List Row} (part : ∀ other ∈ rows, other ∈ before ++ after)
      : total (fun other => key other ≠ key row && test other) value rows
        = total test value rows := by
    refine total_congr fun other member => ?_
    simp [weight, others other (part other member)]
  have own : weight (fun other => key other ≠ key row && test other) value row = 0 := by
    simp [weight]
  rw [whole, total_append, total_append, total_cons, total_cons, own,
    kept fun other member => List.mem_append_left after member,
    kept fun other member => List.mem_append_right before member]
  omega

end Library
