import Blockhost.Library.Texts
import Mathlib.Data.List.Induction
import Mathlib.Logic.Function.Basic

/-! Texts of lines, as Python reads and writes them, and what a list of assignments leaves each
of its keys.
-/

namespace Library

abbrev Text := List Char

-- Lines

/-- The characters at which `splitlines` splits. -/
def isBreak (letter : Char) : Bool :=
  letter.toNat ∈ [10, 11, 12, 13, 28, 29, 30, 133, 8232, 8233]

/-- A file that is read as text has the same break at the end of each line. -/
def universalNewlines : Text → Text
  | [] => []
  | '\r' :: '\n' :: rest => '\n' :: universalNewlines rest
  | '\r' :: rest => '\n' :: universalNewlines rest
  | letter :: rest => letter :: universalNewlines rest

/-- `splitlines()` of a text whose breaks are single characters; a break at the end begins no
line of its own.
-/
def splitlines (text : Text) : List Text :=
  let parts := text.splitOnP isBreak
  if parts.getLast? = some [] then parts.dropLast else parts

/-- `read_text().splitlines()` -/
def readLines (text : Text) : List Text := splitlines (universalNewlines text)

/-- `"\n".join(lines) + "\n"` -/
def writeLines (lines : List Text) : Text := ['\n'].intercalate lines ++ ['\n']

/-- No part of a split text holds a break, by induction on the text. -/
theorem unbroken_of_mem_splitOnP {text line : Text} (member : line ∈ text.splitOnP isBreak)
    : ∀ letter ∈ line, isBreak letter = false := by
  induction text generalizing line with
  | nil =>
      rw [List.splitOnP_nil, List.mem_singleton] at member
      subst member
      exact fun letter none => nomatch none
  | cons first rest ih =>
      rw [List.splitOnP_cons_eq_if_modifyHead] at member
      split at member
      · rcases List.mem_cons.mp member with empty | later
        · subst empty
          exact fun letter none => nomatch none
        · exact ih later
      · rename_i joined
        obtain ⟨head, tail, parts⟩ :=
          List.exists_cons_of_ne_nil (List.splitOnP_ne_nil isBreak rest)
        rw [parts] at member ih
        rcases List.mem_cons.mp member with own | later
        · subst own
          intro letter inside
          rcases List.mem_cons.mp inside with same | inHead
          · rw [same]
            exact Bool.eq_false_iff.mpr joined
          · exact ih List.mem_cons_self letter inHead
        · exact ih (List.mem_cons_of_mem _ later)

/-- What stands before a text without a break belongs to its first part, by induction on it. -/
theorem splitOnP_append_text {front : Text} (unbroken : ∀ letter ∈ front, isBreak letter = false)
    (text : Text)
    : (front ++ text).splitOnP isBreak = (text.splitOnP isBreak).modifyHead (front ++ ·) := by
  induction front with
  | nil =>
      rw [List.nil_append]
      cases text.splitOnP isBreak with
      | nil => rfl
      | cons head tail => rfl
  | cons first rest ih =>
      obtain ⟨own, later⟩ := List.forall_mem_cons.mp unbroken
      rw [List.cons_append, List.splitOnP_cons_eq_if_modifyHead, own,
        if_neg Bool.false_ne_true, ih later, List.modifyHead_modifyHead]
      rfl

theorem unbroken_of_mem_readLines {text line : Text} (member : line ∈ readLines text)
    : ∀ letter ∈ line, isBreak letter = false := by
  unfold readLines splitlines at member
  dsimp only at member
  split at member
  · exact unbroken_of_mem_splitOnP ((List.dropLast_sublist _).subset member)
  · exact unbroken_of_mem_splitOnP member

/-- Only returns are changed when a file is read, by induction along the change. -/
theorem universalNewlines_eq_self {text : Text} (plain : '\r' ∉ text)
    : universalNewlines text = text := by
  induction text using universalNewlines.induct with
  | case1 => rfl
  | case2 rest ih => exact absurd List.mem_cons_self plain
  | case3 rest single ih => exact absurd List.mem_cons_self plain
  | case4 letter rest first second ih =>
      rw [universalNewlines, ih (fun inside => plain (List.mem_cons_of_mem _ inside))]
      · exact first
      · exact second

/-- Lines without breaks are split at the breaks between them, by induction on the lines. -/
theorem splitOnP_writeLines {lines : List Text} (some : lines ≠ [])
    (unbroken : ∀ line ∈ lines, ∀ letter ∈ line, isBreak letter = false)
    : (writeLines lines).splitOnP isBreak = lines ++ [[]] := by
  have lineFeed : isBreak '\n' = true := by decide
  induction lines with
  | nil => exact absurd rfl some
  | cons line rest ih =>
      obtain ⟨own, later⟩ := List.forall_mem_cons.mp unbroken
      cases rest with
      | nil =>
          rw [writeLines, List.intercalate_singleton,
            List.splitOnP_append_cons_of_forall_mem own '\n' lineFeed, List.splitOnP_nil]
          rfl
      | cons second rest =>
          have rest := ih (List.cons_ne_nil _ _) later
          rw [writeLines] at rest
          rw [writeLines, List.intercalate_cons_cons, List.append_assoc, List.append_assoc,
            List.singleton_append,
            List.splitOnP_append_cons_of_forall_mem own '\n' lineFeed, rest]
          rfl

theorem mem_writeLines {lines : List Text} {letter : Char} (inside : letter ∈ writeLines lines)
    : letter = '\n' ∨ ∃ line ∈ lines, letter ∈ line := by
  induction lines with
  | nil => exact .inl (List.mem_singleton.mp inside)
  | cons line rest ih =>
      cases rest with
      | nil =>
          rw [writeLines, List.intercalate_singleton] at inside
          rcases List.mem_append.mp inside with own | last
          · exact .inr ⟨line, List.mem_cons_self, own⟩
          · exact .inl (List.mem_singleton.mp last)
      | cons second rest =>
          rw [writeLines, List.intercalate_cons_cons, List.append_assoc, List.append_assoc]
            at inside
          rcases List.mem_append.mp inside with own | inside
          · exact .inr ⟨line, List.mem_cons_self, own⟩
          · rcases List.mem_append.mp inside with between | inside
            · exact .inl (List.mem_singleton.mp between)
            · refine (ih inside).imp_right ?_
              rintro ⟨other, member, found⟩
              exact ⟨other, List.mem_cons_of_mem _ member, found⟩

theorem readLines_writeLines {lines : List Text} (some : lines ≠ [])
    (unbroken : ∀ line ∈ lines, ∀ letter ∈ line, isBreak letter = false)
    : readLines (writeLines lines) = lines := by
  have returns : '\r' ∉ writeLines lines := by
    intro inside
    rcases mem_writeLines inside with feed | ⟨line, member, found⟩
    · exact absurd feed (by decide)
    · exact absurd (unbroken line member _ found) (by decide)
  rw [readLines, universalNewlines_eq_self returns, splitlines,
    splitOnP_writeLines some unbroken, if_pos (by simp), List.dropLast_concat]

section Parsing

variable {Entry : Type} {parse : Text → Option Entry}

/-- The breaks that reading a file changes leave the parts of a text that are not empty, by
induction along the change.
-/
theorem splitOnP_universalNewlines (blank : parse [] = none) (text : Text)
    : ∃ head left right, (universalNewlines text).splitOnP isBreak = head :: left
      ∧ text.splitOnP isBreak = head :: right
      ∧ left.filterMap parse = right.filterMap parse := by
  have lineFeed : isBreak '\n' = true := by decide
  have carriage : isBreak '\r' = true := by decide
  induction text using universalNewlines.induct with
  | case1 => exact ⟨[], [], [], rfl, rfl, rfl⟩
  | case2 rest ih =>
      obtain ⟨head, left, right, read, given, same⟩ := ih
      refine ⟨[], head :: left, [] :: head :: right, ?_, ?_, ?_⟩
      · rw [universalNewlines, List.splitOnP_cons_eq_if_modifyHead, if_pos lineFeed, read]
      · rw [List.splitOnP_cons_eq_if_modifyHead, if_pos carriage,
          List.splitOnP_cons_eq_if_modifyHead, if_pos lineFeed, given]
      · simp only [List.filterMap_cons, blank, same]
  | case3 rest single ih =>
      obtain ⟨head, left, right, read, given, same⟩ := ih
      refine ⟨[], head :: left, head :: right, ?_, ?_, ?_⟩
      · rw [universalNewlines, List.splitOnP_cons_eq_if_modifyHead, if_pos lineFeed, read]
        exact single
      · rw [List.splitOnP_cons_eq_if_modifyHead, if_pos carriage, given]
      · simp only [List.filterMap_cons, same]
  | case4 letter rest first second ih =>
      obtain ⟨head, left, right, read, given, same⟩ := ih
      rw [universalNewlines, List.splitOnP_cons_eq_if_modifyHead,
        List.splitOnP_cons_eq_if_modifyHead, read, given]
      · by_cases breaks : isBreak letter = true
        · rw [if_pos breaks, if_pos breaks]
          exact ⟨[], _, _, rfl, rfl, by simp only [List.filterMap_cons, same]⟩
        · rw [if_neg breaks, if_neg breaks]
          exact ⟨letter :: head, left, right, rfl, rfl, same⟩
      · exact first
      · exact second

theorem filterMap_readLines (blank : parse [] = none) (text : Text)
    : (readLines text).filterMap parse = (text.splitOnP isBreak).filterMap parse := by
  have dropped (parts : List Text)
      : (if parts.getLast? = some [] then parts.dropLast else parts).filterMap parse
        = parts.filterMap parse := by
    split
    · rename_i last
      conv_rhs => rw [← List.dropLast_append_getLast? [] last]
      rw [List.filterMap_append]
      simp [blank]
    · rfl
  obtain ⟨head, left, right, read, given, same⟩ := splitOnP_universalNewlines blank text
  unfold readLines splitlines
  rw [dropped, read, given, List.filterMap_cons, List.filterMap_cons, same]

/-- Lines that are written and read again say what their parts say, by induction on the lines.
-/
theorem filterMap_writeLines (blank : parse [] = none) (lines : List Text)
    : (readLines (writeLines lines)).filterMap parse
      = lines.flatMap (fun line => (line.splitOnP isBreak).filterMap parse) := by
  have lineFeed : isBreak '\n' = true := by decide
  rw [filterMap_readLines blank, writeLines,
    List.splitOnP_append_cons _ [] lineFeed, List.filterMap_append]
  have last : (List.splitOnP isBreak []).filterMap parse = [] := by simp [blank]
  rw [last, List.append_nil]
  induction lines with
  | nil => simp [blank]
  | cons line rest ih =>
      cases rest with
      | nil => simp
      | cons second rest =>
          rw [List.intercalate_cons_cons, List.append_assoc, List.singleton_append,
            List.splitOnP_append_cons _ _ lineFeed, List.filterMap_append, ih]
          rfl

end Parsing

-- Assignments

section Assignments

variable {Key Value : Type} [DecidableEq Key]

def assigned (assignments : List (Key × Value)) : Key → Option Value :=
  assignments.foldl (fun map entry => Function.update map entry.1 (some entry.2)) (fun _ => none)

@[simp] theorem assigned_nil (key : Key) : assigned ([] : List (Key × Value)) key = none := rfl

theorem assigned_concat (assignments : List (Key × Value)) (entry : Key × Value)
    : assigned (assignments ++ [entry])
      = Function.update (assigned assignments) entry.1 (some entry.2) := by
  unfold assigned
  rw [List.foldl_append]
  rfl

/-- The later assignments count, by induction on them. -/
theorem assigned_append (first second : List (Key × Value)) (key : Key)
    : assigned (first ++ second) key = (assigned second key).or (assigned first key) := by
  induction second using List.reverseRecOn with
  | nil => rw [List.append_nil]; rfl
  | append_singleton second entry ih =>
      rw [← List.append_assoc, assigned_concat, assigned_concat]
      by_cases same : key = entry.1
      · subst same
        simp
      · rw [Function.update_of_ne same, Function.update_of_ne same, ih]

theorem assigned_cons (entry : Key × Value) (assignments : List (Key × Value)) (key : Key)
    : assigned (entry :: assignments) key
      = (assigned assignments key).or (if key = entry.1 then some entry.2 else none) := by
  have single : assigned [entry] key = if key = entry.1 then some entry.2 else none := by
    change Function.update (fun _ => none) entry.1 (some entry.2) key = _
    rw [Function.update_apply]
  rw [← List.singleton_append, assigned_append, single]

theorem assigned_eq_none {assignments : List (Key × Value)} {key : Key}
    (other : ∀ entry ∈ assignments, entry.1 ≠ key)
    : assigned assignments key = none := by
  induction assignments with
  | nil => rfl
  | cons entry rest ih =>
      rw [List.forall_mem_cons] at other
      rw [assigned_cons, ih other.2, if_neg (fun same => other.1 same.symm)]
      rfl

/-- A key without a value is not assigned, by induction on the assignments. -/
theorem ne_of_assigned_eq_none {assignments : List (Key × Value)} {key : Key}
    (none : assigned assignments key = none) {entry : Key × Value} (member : entry ∈ assignments)
    : entry.1 ≠ key := by
  induction assignments with
  | nil => exact absurd member List.not_mem_nil
  | cons first rest ih =>
      rw [assigned_cons, Option.or_eq_none_iff] at none
      rcases List.mem_cons.mp member with own | later
      · intro same
        rw [own] at same
        rw [if_pos same.symm] at none
        exact absurd none.2 (Option.some_ne_none _)
      · exact ih none.1 later

/-- The value of a key was assigned to it, by induction on the assignments. -/
theorem mem_of_assigned {assignments : List (Key × Value)} {key : Key} {value : Value}
    (known : assigned assignments key = some value)
    : (key, value) ∈ assignments := by
  induction assignments with
  | nil => exact absurd known (by simp)
  | cons entry rest ih =>
      rw [assigned_cons] at known
      rcases Option.or_eq_some_iff.mp known with later | ⟨-, own⟩
      · exact List.mem_cons_of_mem _ (ih later)
      · by_cases same : key = entry.1
        · rw [if_pos same] at own
          rw [same, ← Option.some.inj own]
          exact List.mem_cons_self
        · rw [if_neg same] at own
          exact absurd own (by simp)

theorem assigned_of_mem {assignments : List (Key × Value)}
    (distinct : (assignments.map Prod.fst).Nodup) {entry : Key × Value}
    (member : entry ∈ assignments)
    : assigned assignments entry.1 = some entry.2 := by
  induction assignments with
  | nil => cases member
  | cons first rest ih =>
      rw [List.map_cons, List.nodup_cons] at distinct
      rw [assigned_cons]
      rcases List.mem_cons.mp member with own | later
      · have none : assigned rest entry.1 = none := by
          refine assigned_eq_none fun other inside same => distinct.1 ?_
          rw [← own, ← same]
          exact List.mem_map_of_mem inside
        rw [none, own, if_pos rfl, Option.none_or]
      · rw [ih distinct.2 later, Option.some_or]

/-- What follows the same assignments leaves the same map exactly when they already give each
key that only one side assigns its value.
-/
theorem assigned_append_eq_iff {base left right : List (Key × Value)}
    (needed : List (Key × Value))
    (oneSided : ∀ entry ∈ needed,
      assigned left entry.1 = none ∧ assigned right entry.1 = some entry.2
      ∨ assigned left entry.1 = some entry.2 ∧ assigned right entry.1 = none)
    (otherwise : ∀ key, (∀ entry ∈ needed, entry.1 ≠ key)
      → assigned left key = assigned right key)
    : assigned (base ++ left) = assigned (base ++ right)
      ↔ ∀ entry ∈ needed, assigned base entry.1 = some entry.2 := by
  constructor
  · intro same entry member
    have here := congrFun same entry.1
    rw [assigned_append, assigned_append] at here
    rcases oneSided entry member with ⟨none, some⟩ | ⟨some, none⟩
    · rwa [none, some, Option.none_or, Option.some_or] at here
    · rw [none, some, Option.none_or, Option.some_or] at here
      exact here.symm
  · intro supplied
    funext key
    rw [assigned_append, assigned_append]
    by_cases listed : ∃ entry ∈ needed, entry.1 = key
    · obtain ⟨entry, member, same⟩ := listed
      subst same
      rcases oneSided entry member with ⟨none, some⟩ | ⟨some, none⟩
      · rw [none, some, supplied entry member, Option.none_or, Option.some_or]
      · rw [none, some, supplied entry member, Option.none_or, Option.some_or]
    · rw [otherwise key fun entry member same => listed ⟨entry, member, same⟩]

end Assignments

end Library
