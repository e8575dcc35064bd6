import Mathlib.Data.List.DropRight
import Mathlib.Data.List.Basic

/-! Texts as lists of characters: stripped of the space around them, split at a separator. -/

namespace Library

/-- The characters that a strip removes. -/
def isSpace (letter : Char) : Bool :=
  let code := letter.toNat
  (9 ≤ code && code ≤ 13) || (28 ≤ code && code ≤ 32) || code = 133 || code = 160
  || code = 5760 || (8192 ≤ code && code ≤ 8202) || code = 8232 || code = 8233
  || code = 8239 || code = 8287 || code = 12288

/-- `strip()` -/
def strip (text : List Char) : List Char := (text.dropWhile isSpace).rdropWhile isSpace

def segments (separator : Char) (text : List Char) : List (List Char) :=
  (text.splitOn separator).filter (fun part => part ≠ [])

variable {text : List Char} {separator : Char}

theorem strip_parts (text : List Char)
    : ∃ front back, text = front ++ strip text ++ back
        ∧ (∀ letter ∈ front, isSpace letter = true)
        ∧ ∀ letter ∈ back, isSpace letter = true := by
  refine ⟨text.takeWhile isSpace, (text.dropWhile isSpace).rtakeWhile isSpace, ?_, ?_, ?_⟩
  · have rest : strip text ++ (text.dropWhile isSpace).rtakeWhile isSpace
        = text.dropWhile isSpace :=
      List.rdropWhile_append_rtakeWhile ..
    rw [List.append_assoc, rest, List.takeWhile_append_dropWhile]
  · exact fun letter member => List.mem_takeWhile_imp member
  · exact fun letter member => List.mem_rtakeWhile_imp member

theorem strip_eq_self (same : (strip text).countP isSpace = text.countP isSpace)
    : strip text = text := by
  obtain ⟨front, back, whole, allFront, allBack⟩ := strip_parts text
  have counted := congrArg (List.countP isSpace) whole
  rw [List.countP_append, List.countP_append, List.countP_eq_length.mpr allFront,
    List.countP_eq_length.mpr allBack, same] at counted
  have noFront : front = [] := List.length_eq_zero_iff.mp (by omega)
  have noBack : back = [] := List.length_eq_zero_iff.mp (by omega)
  rw [noFront, noBack, List.nil_append, List.append_nil] at whole
  exact whole.symm

theorem isSpace_head_of_strip {first : Char} {rest : List Char}
    (stripped : strip (first :: rest) = first :: rest)
    : isSpace first = false := by
  by_contra space
  have dropped : (first :: rest).dropWhile isSpace = rest.dropWhile isSpace :=
    List.dropWhile_cons_of_pos (Bool.not_eq_false _ ▸ space)
  have front := List.rdropWhile_prefix isSpace (rest.dropWhile isSpace)
  have shorter := front.length_le
  have within := (List.dropWhile_sublist (l := rest) isSpace).length_le
  have same := congrArg List.length stripped
  rw [strip, dropped, List.length_cons] at same
  omega

/-- What a split loses are the separators, by induction on the text. -/
theorem flatten_splitOn (text : List Char)
    : (text.splitOn separator).flatten = text.filter (fun letter => letter ≠ separator) := by
  induction text with
  | nil => rfl
  | cons letter rest ih =>
      rw [List.splitOn_cons_eq_if_modifyHead]
      by_cases same : letter = separator
      · simp [same, ih]
      · obtain ⟨head, tail, parts⟩ :=
          List.exists_cons_of_ne_nil (List.splitOn_ne_nil separator rest)
        rw [parts, List.flatten_cons] at ih
        rw [parts, if_neg (by simpa using same), List.modifyHead_cons, List.flatten_cons,
          List.cons_append, ih, List.filter_cons_of_pos (by simpa using same)]

theorem not_mem_of_mem_splitOn {part : List Char} (member : part ∈ text.splitOn separator)
    : separator ∉ part := by
  intro inside
  have kept : separator ∈ (text.splitOn separator).flatten :=
    List.mem_flatten.mpr ⟨part, member, inside⟩
  rw [flatten_splitOn] at kept
  exact of_decide_eq_true (List.mem_filter.mp kept).2 rfl

theorem mem_segments {part : List Char} (member : part ∈ segments separator text)
    : part ≠ [] ∧ separator ∉ part := by
  obtain ⟨listed, real⟩ := List.mem_filter.mp member
  exact ⟨of_decide_eq_true real, not_mem_of_mem_splitOn listed⟩

end Library
