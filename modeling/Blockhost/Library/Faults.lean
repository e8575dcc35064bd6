import Blockhost.Library.Result
import Mathlib.Data.List.Basic

/-! Computations whose steps may raise. A computation has the effects of its steps in order and
ends with the first one that raises, so what a run leaves is read off from its steps. A unit of
work collects the changes of a database session until they are committed; a failed commit drops
them and leaves a session that can do nothing more.
-/

namespace Library

variable {Step Error State Value Data : Type}

-- Units of work

structure UnitOfWork (Data : Type) where
  committed : Data
  changes : Data → Data := id
  usable : Bool := true

namespace UnitOfWork

def current (work : UnitOfWork Data) : Data := work.changes work.committed

def change (f : Data → Data) (work : UnitOfWork Data) : UnitOfWork Data :=
  { work with changes := fun data => f (work.changes data) }

def flush (work : UnitOfWork Data) : UnitOfWork Data := { committed := work.current }

def spoil (work : UnitOfWork Data) : UnitOfWork Data :=
  { work with changes := id, usable := false }

@[simp] theorem change_committed (f : Data → Data) (work : UnitOfWork Data)
    : (work.change f).committed = work.committed :=
  rfl

@[simp] theorem change_usable (f : Data → Data) (work : UnitOfWork Data)
    : (work.change f).usable = work.usable :=
  rfl

@[simp] theorem change_current (f : Data → Data) (work : UnitOfWork Data)
    : (work.change f).current = f work.current :=
  rfl

@[simp] theorem flush_committed (work : UnitOfWork Data) : work.flush.committed = work.current :=
  rfl

@[simp] theorem flush_current (work : UnitOfWork Data) : work.flush.current = work.current := rfl

@[simp] theorem flush_usable (work : UnitOfWork Data) : work.flush.usable = true := rfl

@[simp] theorem spoil_committed (work : UnitOfWork Data)
    : work.spoil.committed = work.committed :=
  rfl

@[simp] theorem spoil_usable (work : UnitOfWork Data) : work.spoil.usable = false := rfl

end UnitOfWork

-- The first step that raises

structure FirstRaise (raises : Step → Option Error) (steps before : List Step) (step : Step)
    (failure : Error)
    : Prop where
  split : ∃ later, steps = before ++ step :: later
  passes : ∀ earlier ∈ before, raises earlier = none
  raised : raises step = some failure

def AllPass (raises : Step → Option Error) (steps : List Step) : Prop :=
  ∀ step ∈ steps, raises step = none

variable {raises : Step → Option Error}

/-- All steps pass, or one of them is the first to raise, by induction on the steps. -/
theorem allPass_or_firstRaise (raises : Step → Option Error) (steps : List Step)
    : AllPass raises steps
      ∨ ∃ before step failure, FirstRaise raises steps before step failure := by
  induction steps with
  | nil => exact .inl nofun
  | cons first rest ih =>
      cases outcome : raises first with
      | some failure => exact .inr ⟨[], first, failure, ⟨rest, rfl⟩, nofun, outcome⟩
      | none =>
          rcases ih with passes | ⟨before, step, failure, ⟨later, split⟩, passes, raised⟩
          · exact .inl (List.forall_mem_cons.mpr ⟨outcome, passes⟩)
          · exact .inr ⟨first :: before, step, failure, ⟨later, congrArg (first :: ·) split⟩,
              List.forall_mem_cons.mpr ⟨outcome, passes⟩, raised⟩

namespace FirstRaise

variable {steps left right before : List Step} {step : Step} {failure : Error}

theorem mem (first : FirstRaise raises steps before step failure) : step ∈ steps := by
  obtain ⟨later, rfl⟩ := first.split
  simp

theorem mem_before (first : FirstRaise raises steps before step failure) {earlier : Step}
    (member : earlier ∈ before)
    : earlier ∈ steps := by
  obtain ⟨later, rfl⟩ := first.split
  simp [member]

theorem of_single {only : Step} (first : FirstRaise raises [only] before step failure)
    : before = [] ∧ step = only := by
  obtain ⟨later, split⟩ := first.split
  rcases List.append_eq_cons_iff.mp split.symm with ⟨rfl, same⟩ | ⟨rest, rfl, same⟩
  · cases same
    exact ⟨rfl, rfl⟩
  · exact absurd same (by simp)

theorem not_allPass (first : FirstRaise raises steps before step failure)
    : ¬ AllPass raises steps := by
  intro passes
  cases first.raised.symm.trans (passes step first.mem)

theorem append (first : FirstRaise raises left before step failure) (right : List Step)
    : FirstRaise raises (left ++ right) before step failure := by
  obtain ⟨⟨later, rfl⟩, passes, raised⟩ := first
  exact ⟨⟨later ++ right, by simp⟩, passes, raised⟩

theorem of_append (first : FirstRaise raises (left ++ right) before step failure)
    : FirstRaise raises left before step failure
      ∨ AllPass raises left
        ∧ ∃ rest, before = left ++ rest ∧ FirstRaise raises right rest step failure := by
  obtain ⟨⟨later, split⟩, passes, raised⟩ := first
  rcases List.append_eq_append_iff.mp split with ⟨rest, rfl, same⟩ | ⟨rest, rfl, same⟩
  · right
    refine ⟨fun earlier member => passes earlier (List.mem_append_left _ member), rest, rfl,
      ⟨later, same⟩, fun earlier member => passes earlier (List.mem_append_right _ member), raised⟩
  · cases rest with
    | nil =>
        right
        rw [List.append_nil]
        exact ⟨passes, [], (List.append_nil _).symm, ⟨later, same.symm⟩, nofun, raised⟩
    | cons next rest =>
        cases same
        exact .inl ⟨⟨rest, rfl⟩, passes, raised⟩

end FirstRaise

-- Programs of steps

def attempt (raises : Step → Option Error) (step : Step) (effect : State → State)
    : EStateM Error State Unit :=
  fun state =>
    match raises step with
    | some failure => .error failure state
    | none => .ok () (effect state)

def advance (effect : Step → State → State) (steps : List Step) (state : State) : State :=
  steps.foldl (fun reached step => effect step reached) state

variable {effect breaks : Step → State → State}

@[simp] theorem advance_nil (state : State) : advance effect [] state = state := rfl

@[simp] theorem advance_cons (step : Step) (steps : List Step) (state : State)
    : advance effect (step :: steps) state = advance effect steps (effect step state) :=
  rfl

@[simp] theorem advance_append (first second : List Step) (state : State)
    : advance effect (first ++ second) state
      = advance effect second (advance effect first state) :=
  List.foldl_append

/-- What every one of some steps keeps, all of them keep, by induction on the steps. -/
theorem advance_keeps (holds : State → Prop) {steps : List Step}
    (keeps : ∀ step ∈ steps, ∀ state, holds state → holds (effect step state))
    {state : State} (start : holds state)
    : holds (advance effect steps state) := by
  induction steps generalizing state with
  | nil => exact start
  | cons step rest ih =>
      exact ih (fun later member => keeps later (List.mem_cons_of_mem _ member))
        (keeps step List.mem_cons_self state start)

/-- From a state on, a computation has the effects of its steps, up to the first one that
raises, which may leave something behind.
-/
structure Performs (raises : Step → Option Error) (effect breaks : Step → State → State)
    (steps : List Step) (state : State) (computation : EStateM Error State Unit)
    : Prop where
  passes : AllPass raises steps → computation state = .ok () (advance effect steps state)
  fails
    : ∀ {before step failure}, FirstRaise raises steps before step failure
      → computation state = .error failure (breaks step (advance effect before state))

variable {state : State}

theorem Performs.of_run {computation other : EStateM Error State Unit} {steps : List Step}
    (performs : Performs raises effect breaks steps state other)
    (ran : computation state = other state)
    : Performs raises effect breaks steps state computation where
  passes all := ran.trans (performs.passes all)
  fails first := ran.trans (performs.fails first)

theorem performs_pure : Performs raises effect breaks [] state (pure ()) where
  passes _ := rfl
  fails first := absurd first.mem List.not_mem_nil

theorem performs_single {computation : EStateM Error State Unit} {step : Step}
    (passes : raises step = none → computation state = .ok () (effect step state))
    (fails : ∀ failure, raises step = some failure
      → computation state = .error failure (breaks step state))
    : Performs raises effect breaks [step] state computation where
  passes all := passes (all step List.mem_cons_self)
  fails first := by
    obtain ⟨rfl, rfl⟩ := first.of_single
    exact fails _ first.raised

theorem performs_attempt {step : Step} {change : State → State}
    (same : change state = effect step state) (clean : breaks step state = state)
    : Performs raises effect breaks [step] state (attempt raises step change) := by
  refine performs_single ?_ ?_
  · intro passed
    simp only [attempt, passed, same]
  · intro failure raised
    simp only [attempt, raised, clean]

theorem Performs.bind {first second : EStateM Error State Unit} {left right : List Step}
    (opening : Performs raises effect breaks left state first)
    (later : Performs raises effect breaks right (advance effect left state) second)
    : Performs raises effect breaks (left ++ right) state (first >>= fun _ => second) where
  passes all := by
    have opened := opening.passes (fun step member => all step (List.mem_append_left _ member))
    have ended := later.passes (fun step member => all step (List.mem_append_right _ member))
    simp only [Bind.bind, EStateM.bind, opened, ended, advance_append]
  fails raised := by
    rcases raised.of_append with first | ⟨passes, rest, rfl, second⟩
    · simp only [Bind.bind, EStateM.bind, opening.fails first]
    · simp only [Bind.bind, EStateM.bind, opening.passes passes, later.fails second,
        advance_append]

theorem Performs.cons {first second : EStateM Error State Unit} {step : Step}
    {later : List Step} (opening : Performs raises effect breaks [step] state first)
    (rest : Performs raises effect breaks later (effect step state) second)
    : Performs raises effect breaks (step :: later) state (first >>= fun _ => second) :=
  opening.bind rest

theorem performs_ite {condition : Prop} [Decidable condition]
    {yes no : EStateM Error State Unit} {left right : List Step}
    (holds : condition → Performs raises effect breaks left state yes)
    (fails : ¬ condition → Performs raises effect breaks right state no)
    : Performs raises effect breaks (if condition then left else right) state
        (if condition then yes else no) := by
  split
  · exact holds ‹_›
  · exact fails ‹_›

-- Cleaning up

/-- What runs at the end in any case; a failure of its own replaces the one before. -/
def closing (body cleanUp : EStateM Error State Unit) : EStateM Error State Unit :=
  fun state =>
    match body state with
    | .ok _ middle => cleanUp middle
    | .error failure middle =>
        match cleanUp middle with
        | .ok _ next => .error failure next
        | .error other next => .error other next

theorem finalState_closing (body cleanUp : EStateM Error State Unit) (state : State)
    : finalState (closing body cleanUp state)
      = finalState (cleanUp (finalState (body state))) := by
  unfold closing
  cases body state with
  | ok value middle => rfl
  | error failure middle =>
      simp only [finalState]
      cases cleanUp middle with
      | ok value next => rfl
      | error other next => rfl

def Carries (holds : State → Prop) (before after : State) : Prop := holds before → holds after

instance (holds : State → Prop) : IsPreorder State (Carries holds) where
  refl _ := id
  trans _ _ _ first second := second ∘ first

section Keeps

variable {holds : State → Prop}

theorem keeps_attempt {step : Step} {change : State → State}
    (keeps : ∀ state, holds state → holds (change state))
    : Keeps (Carries holds) (attempt raises step change) := by
  intro state start
  unfold attempt
  cases raises step with
  | none => exact keeps state start
  | some failure => exact start

theorem keeps_ite {relation : State → State → Prop} {condition : Prop} [Decidable condition]
    {yes no : EStateM Error State Value} (first : Keeps relation yes) (second : Keeps relation no)
    : Keeps relation (if condition then yes else no) := by
  split
  · exact first
  · exact second

theorem keeps_modify {change : State → State}
    (keeps : ∀ state, holds state → holds (change state))
    : Keeps (Carries holds) (modify change : EStateM Error State Unit) :=
  fun state start => keeps state start

theorem Keeps.closing {body cleanUp : EStateM Error State Unit}
    (ran : Keeps (Carries holds) body) (cleaned : Keeps (Carries holds) cleanUp)
    : Keeps (Carries holds) (closing body cleanUp) := by
  intro state start
  have middle := ran state start
  unfold Library.closing
  cases outcome : body state with
  | ok value next =>
      rw [outcome] at middle
      exact cleaned next middle
  | error failure next =>
      rw [outcome] at middle
      have ended := cleaned next middle
      simp only
      cases last : cleanUp next with
      | ok value final =>
          rw [last] at ended
          exact ended
      | error other final =>
          rw [last] at ended
          exact ended

end Keeps

-- Computations that return

/-- A computation ends without raising. -/
def Returns (computation : EStateM Error State Value) (state : State) : Prop :=
  ∃ value next, computation state = .ok value next

theorem returns_bind {Other : Type} {first : EStateM Error State Value}
    {second : Value → EStateM Error State Other} {state : State}
    : Returns (first >>= second) state
      ↔ ∃ value middle, first state = .ok value middle ∧ Returns (second value) middle := by
  constructor
  · rintro ⟨value, next, returned⟩
    obtain ⟨result, middle, opened, ended⟩ := state_bind_ok returned
    exact ⟨result, middle, opened, value, next, ended⟩
  · rintro ⟨result, middle, opened, value, next, ended⟩
    exact ⟨value, next, (state_bind_run opened).trans ended⟩

end Library
