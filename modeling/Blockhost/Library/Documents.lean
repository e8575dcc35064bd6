import Blockhost.Library.Run
import Blockhost.Library.Session
import Mathlib.Data.Finmap
import Mathlib.Logic.Function.Basic

/-! A document of named values in one column. A transaction loads it as a whole, changes some keys
of its copy, and at its commit the session writes the copy back as a whole. Other transactions may
commit in between; which of their changes survive is decided by what the copy holds.
-/

namespace Library

variable {Key Value Writer : Type} [DecidableEq Key]

abbrev Document (Key Value : Type) := Finmap (fun _ : Key => Value)

-- Edits

/-- Keys that are set to a value, or removed, one after the other. -/
abbrev Edit (Key Value : Type) := List (Key × Option Value)

namespace Edit

def apply (edit : Edit Key Value) (document : Document Key Value) : Document Key Value :=
  edit.foldl
    (fun document assignment =>
      match assignment.2 with
      | some value => document.insert assignment.1 value
      | none => document.erase assignment.1)
    document

def last (key : Key) (edit : Edit Key Value) : Option (Option Value) :=
  edit.foldl
    (fun found assignment => if assignment.1 = key then some assignment.2 else found) none

@[simp] theorem apply_nil (document : Document Key Value) : apply [] document = document := rfl

@[simp] theorem last_nil (key : Key) : last key ([] : Edit Key Value) = none := rfl

theorem apply_append (first second : Edit Key Value) (document : Document Key Value)
    : apply (first ++ second) document = apply second (apply first document) :=
  List.foldl_append

theorem last_concat (key : Key) (edit : Edit Key Value) (assignment : Key × Option Value)
    : last key (edit ++ [assignment])
      = if assignment.1 = key then some assignment.2 else last key edit :=
  List.foldl_append

/-- After an edit every key holds the last value assigned to it, by induction from the end. -/
theorem lookup_apply (key : Key) (edit : Edit Key Value) (document : Document Key Value)
    : (apply edit document).lookup key = (last key edit).getD (document.lookup key) := by
  induction edit using List.reverseRecOn with
  | nil => rfl
  | append_singleton edit assignment ih =>
      rw [apply_append, last_concat]
      obtain ⟨assigned, value⟩ := assignment
      by_cases same : assigned = key
      · subst same
        cases value with
        | none => simp [apply]
        | some value => simp [apply]
      · have other : key ≠ assigned := fun back => same back.symm
        rw [if_neg same, ← ih]
        cases value with
        | none => exact Finmap.lookup_erase_ne other
        | some value => exact Finmap.lookup_insert_of_ne _ other

theorem last_append (key : Key) (first second : Edit Key Value)
    : last key (first ++ second) = (last key second).or (last key first) := by
  induction second using List.reverseRecOn with
  | nil => simp
  | append_singleton second assignment ih =>
      rw [← List.append_assoc, last_concat, last_concat, ih]
      split <;> rfl

end Edit

-- Transactions

/-- The copy of a transaction, as it was loaded, and what has been done to it. -/
structure Copy (Key Value : Type) where
  loaded : Document Key Value
  edit : Edit Key Value := []

def Copy.value (copy : Copy Key Value) : Document Key Value := copy.edit.apply copy.loaded

/-- The stored document, the copies of the open transactions, and what the committed ones have
done, in the order of their commits.
-/
structure Shared (Key Value : Type) where
  stored : Document Key Value
  copies : Nat → Option (Copy Key Value) := fun _ => none
  committed : Edit Key Value := []

inductive Access (Writer : Type) where
  | load (transaction : Nat)
  | change (transaction : Nat) (writer : Writer)
  | commit (transaction : Nat)
  | discard (transaction : Nat)

namespace Shared

variable [DecidableEq Value]

def copy (shared : Shared Key Value) (transaction : Nat) : Copy Key Value :=
  (shared.copies transaction).getD { loaded := shared.stored }

def withCopy (shared : Shared Key Value) (transaction : Nat) (copy : Option (Copy Key Value))
    : Shared Key Value :=
  { shared with copies := Function.update shared.copies transaction copy }

def perform (edit : Writer → Document Key Value → Edit Key Value) (shared : Shared Key Value)
    : Access Writer → Shared Key Value
  | .load transaction => shared.withCopy transaction (some (shared.copy transaction))
  | .change transaction writer =>
      let copy := shared.copy transaction
      shared.withCopy transaction
        (some { copy with edit := copy.edit ++ edit writer copy.value })
  | .commit transaction =>
      let copy := shared.copy transaction
      { shared.withCopy transaction none with
        stored := written (some copy.loaded) copy.value shared.stored
        committed := shared.committed ++ copy.edit }
  | .discard transaction => shared.withCopy transaction none

/-- Every key holds the last value that a committed transaction has assigned to it. -/
def KeepsUpdates (initial : Document Key Value) (shared : Shared Key Value) : Prop :=
  ∀ key, shared.stored.lookup key
    = (shared.committed.last key).getD (initial.lookup key)

/-- The stored document still has what a transaction has loaded, under every key that its
commit neglects: the keys that it did not assign, if the copy is written, and those that it
assigned, if the copy is as it was loaded.
-/
def Current (shared : Shared Key Value) (copy : Copy Key Value) : Prop :=
  ∀ key, (copy.value = copy.loaded ↔ (copy.edit.last key).isSome = true)
    → copy.loaded.lookup key = shared.stored.lookup key

theorem lookup_commit (shared : Shared Key Value) (copy : Copy Key Value) (key : Key)
    : (written (some copy.loaded) copy.value shared.stored).lookup key
      = if copy.value = copy.loaded then shared.stored.lookup key
        else (copy.edit.last key).getD (copy.loaded.lookup key) := by
  by_cases same : copy.value = copy.loaded
  · rw [if_pos same, same, written_unchanged]
  · have dirty : some copy.loaded ≠ some copy.value := fun back => same (Option.some.inj back).symm
    rw [if_neg same, written_changed dirty]
    exact Edit.lookup_apply key copy.edit copy.loaded

theorem commit_keeps_iff {initial : Document Key Value} {shared : Shared Key Value}
    (kept : KeepsUpdates initial shared)
    (edit : Writer → Document Key Value → Edit Key Value) (transaction : Nat)
    : KeepsUpdates initial (shared.perform edit (.commit transaction))
      ↔ Current shared (shared.copy transaction) := by
  refine forall_congr' ?_
  intro key
  change Finmap.lookup key (written _ _ _) = (Edit.last key (_ ++ _)).getD _ ↔ _
  have holds := kept key
  have edited := Edit.lookup_apply key (shared.copy transaction).edit
    (shared.copy transaction).loaded
  rw [lookup_commit, Edit.last_append]
  generalize shared.copy transaction = copy at edited ⊢
  by_cases same : copy.value = copy.loaded
  · rw [if_pos same]
    change copy.value.lookup key = _ at edited
    rw [same] at edited
    cases assigned : copy.edit.last key with
    | none => simp [same, holds]
    | some value =>
        rw [assigned, Option.getD_some] at edited
        simp [same, edited, eq_comm]
  · rw [if_neg same]
    cases assigned : copy.edit.last key with
    | none => simp [same, holds]
    | some value => simp [same]

theorem perform_uncommitted (shared : Shared Key Value)
    (edit : Writer → Document Key Value → Edit Key Value) {access : Access Writer}
    (other : ∀ transaction, access ≠ .commit transaction)
    : (shared.perform edit access).stored = shared.stored
      ∧ (shared.perform edit access).committed = shared.committed := by
  cases access with
  | load transaction => exact ⟨rfl, rfl⟩
  | change transaction writer => exact ⟨rfl, rfl⟩
  | commit transaction => exact absurd rfl (other transaction)
  | discard transaction => exact ⟨rfl, rfl⟩

/-- One access of a transaction. -/
structure Step (edit : Writer → Document Key Value → Edit Key Value)
    (before : Shared Key Value) (access : Access Writer) (after : Shared Key Value)
    : Prop where
  performed : after = before.perform edit access

structure CurrentStep (edit : Writer → Document Key Value → Edit Key Value)
    (before : Shared Key Value) (access : Access Writer) (after : Shared Key Value)
    : Prop where
  step : Step edit before access after
  current : ∀ transaction, access = .commit transaction
    → Current before (before.copy transaction)

variable {edit : Writer → Document Key Value → Edit Key Value}

theorem Step.keeps_iff {initial : Document Key Value} {before after : Shared Key Value}
    {access : Access Writer} (taken : Step edit before access after)
    (kept : KeepsUpdates initial before)
    : KeepsUpdates initial after ↔ CurrentStep edit before access after := by
  have step := taken
  obtain ⟨rfl⟩ := taken
  by_cases commits : ∃ transaction, access = .commit transaction
  · obtain ⟨transaction, rfl⟩ := commits
    rw [commit_keeps_iff kept]
    refine ⟨fun current => ⟨step, ?_⟩, fun taken => taken.current transaction rfl⟩
    intro other same
    cases same
    exact current
  · have other (transaction : Nat) : access ≠ .commit transaction :=
      fun same => commits ⟨transaction, same⟩
    obtain ⟨stored, committed⟩ := perform_uncommitted before edit other
    constructor
    · intro _
      exact ⟨step, fun transaction same => absurd same (other transaction)⟩
    · intro _ key
      rw [stored, committed]
      exact kept key

/-- A run keeps the updates in every state that it reaches exactly if every commit on it is one of
a current copy, by induction on the run.
-/
theorem run_keeps_updates_iff {start finish : Shared Key Value} {accesses : List (Access Writer)}
    (run : Run (Step edit) start accesses finish) (untouched : start.committed = [])
    : (∀ earlier later middle, accesses = earlier ++ later
        → Run (Step edit) start earlier middle → Run (Step edit) middle later finish
        → KeepsUpdates start.stored middle)
      ↔ Run (CurrentStep edit) start accesses finish := by
  have initial : KeepsUpdates start.stored start := by
    intro key
    rw [untouched]
    rfl
  constructor
  · intro keeps
    induction run with
    | done => exact .done
    | @next middle finish accesses access earlier taken ih =>
        have before : KeepsUpdates start.stored middle :=
          keeps accesses [access] middle rfl earlier (.single taken)
        refine (ih ?_).next ((taken.keeps_iff before).mp
          (keeps _ [] finish (List.append_nil _).symm (earlier.next taken) .done))
        intro first later state same opening rest
        refine keeps first (later ++ [access]) state ?_ opening (rest.next taken)
        rw [same, List.append_assoc]
  · intro current earlier later middle same opening _
    rw [same] at current
    obtain ⟨state, first, _⟩ := current.split earlier
    have steps : Run (Step edit) start earlier state := by
      simpa using first.map id (fun _ _ _ taken => taken.step)
    have decided : state = middle := by
      refine steps.unique ?_ opening
      intro before access after other one two
      rw [one.performed, two.performed]
    rw [← decided]
    exact first.invariant (KeepsUpdates start.stored) (fun _ => True)
      (fun _ taken kept => (taken.step.keeps_iff kept).mpr taken) (fun _ _ => trivial) initial

end Shared

end Library
