import Mathlib.Data.List.Basic
import Mathlib.Data.List.Induction

/-! Finite labelled runs of a transition relation. An invariant is proved once for a single
step; the rules here carry it to every state that a run reaches.
-/

namespace Library

variable {State Event : Type}

/-- `Run step start events finish` performs the events in order, one step each. -/
inductive Run (step : State → Event → State → Prop) (start : State)
    : List Event → State → Prop
  | done : Run step start [] start
  | next {middle finish : State} {events : List Event} {event : Event}
      : Run step start events middle
        → step middle event finish
        → Run step start (events ++ [event]) finish

namespace Run

variable {step : State → Event → State → Prop}
variable {start middle finish : State} {events more : List Event}

theorem nil_eq (run : Run step start [] finish) : finish = start := by
  generalize empty : ([] : List Event) = events at run
  cases run with
  | done => rfl
  | next _ _ => simp at empty

theorem last (events : List Event) {event : Event}
    (run : Run step start (events ++ [event]) finish)
    : ∃ middle, Run step start events middle ∧ step middle event finish := by
  generalize whole : events ++ [event] = all at run
  cases run with
  | done => simp at whole
  | next earlier taken =>
      obtain ⟨rfl, same⟩ := List.append_inj' whole rfl
      cases same
      exact ⟨_, earlier, taken⟩

/-- Runs compose, by induction on the second one. -/
theorem append (first : Run step start events middle) (second : Run step middle more finish)
    : Run step start (events ++ more) finish := by
  induction second with
  | done => simpa only [List.append_nil] using first
  | next _ taken ih => simpa only [List.append_assoc] using ih.next taken

theorem split (events : List Event) {more : List Event}
    (run : Run step start (events ++ more) finish)
    : ∃ middle, Run step start events middle ∧ Run step middle more finish := by
  induction more using List.reverseRecOn generalizing finish with
  | nil => exact ⟨finish, by simpa only [List.append_nil] using run, .done⟩
  | append_singleton more event ih =>
      rw [← List.append_assoc] at run
      obtain ⟨before, earlier, taken⟩ := run.last (events ++ more)
      obtain ⟨middle, first, second⟩ := ih earlier
      exact ⟨middle, first, second.next taken⟩

theorem single {event : Event} (taken : step start event finish)
    : Run step start [event] finish :=
  Run.done.next taken

theorem cons {event : Event} (taken : step start event middle)
    (later : Run step middle events finish)
    : Run step start (event :: events) finish :=
  (single taken).append later

/-- Where every event can be performed in every state, performing them in order is a run; by
induction on the events.
-/
theorem of_foldl {perform : State → Event → State}
    (steps : ∀ before event, step before event (perform before event))
    : Run step start events (events.foldl perform start) := by
  induction events generalizing start with
  | nil => exact .done
  | cons event rest ih => exact .cons (steps start event) ih

/-- Performing the events in order is a run when each performance is a step, by induction from the
last event.
-/
theorem of_foldlM {perform : State → Event → Option State} (events : List Event)
    (steps : ∀ event ∈ events, ∀ before after, perform before event = some after
      → step before event after)
    (performed : events.foldlM perform start = some finish)
    : Run step start events finish := by
  induction events using List.reverseRecOn generalizing finish with
  | nil =>
      cases performed
      exact .done
  | append_singleton events event ih =>
      rw [List.foldlM_append] at performed
      obtain ⟨middle, earlier, last⟩ := Option.bind_eq_some_iff.mp performed
      have taken : perform middle event = some finish := by
        simpa [List.foldlM_cons] using last
      exact (ih (fun event member => steps event (List.mem_append_left _ member)) earlier).next
        (steps event (by simp) middle finish taken)

theorem of_foldlM_allowed {perform : State → Event → Option State}
    {allowed : State → Event → Prop} (events : List Event)
    (free : ∀ event ∈ events, ∀ before, allowed before event)
    (performed : events.foldlM perform start = some finish)
    : Run (fun before event after => perform before event = some after ∧ allowed before event)
        start events finish :=
  of_foldlM events (fun event member before _ taken => ⟨taken, free event member before⟩)
    performed

/-- Where each step has one result, the events decide where a run ends, by induction on one of two
runs.
-/
theorem unique
    (decided : ∀ before event after other, step before event after → step before event other
      → after = other)
    (first : Run step start events finish) {other : State} (second : Run step start events other)
    : finish = other := by
  induction first generalizing other with
  | done => exact second.nil_eq.symm
  | next _ taken ih =>
      obtain ⟨before, earlier, last⟩ := second.last
      rw [← ih earlier] at last
      exact decided _ _ _ _ taken last

theorem first {event : Event} (run : Run step start (event :: events) finish)
    : ∃ middle, step start event middle ∧ Run step middle events finish := by
  obtain ⟨middle, opening, later⟩ := split [event] run
  obtain ⟨origin, none, taken⟩ := last [] opening
  rw [none.nil_eq] at taken
  exact ⟨middle, taken, later⟩

/-- What the start satisfies and every allowed step keeps holds at the end, by induction
on the run.
-/
theorem invariant (property : State → Prop) (allowed : Event → Prop)
    (kept : ∀ {before event after}, allowed event → step before event after
      → property before → property after)
    (run : Run step start events finish) (every : ∀ event ∈ events, allowed event)
    (initial : property start)
    : property finish := by
  induction run with
  | done => exact initial
  | next _ taken ih =>
      have earlier := ih (fun event member => every event (List.mem_append_left _ member))
      exact kept (every _ (by simp)) taken earlier

/-- Where an event is clear exactly when its step keeps a property, the property holds in every
state that a run comes through exactly when every event is clear; by induction on the run.
-/
theorem throughout_iff (kept property : State → Prop) (clear : State → Event → Prop)
    (decided : ∀ before event after other, step before event after → step before event other
      → after = other)
    (keeps : ∀ before event after, step before event after → kept before → kept after)
    (meets : ∀ before event after, step before event after → kept before → property before
      → (property after ↔ clear before event))
    (run : Run step start events finish) (initial : kept start) (holds : property start)
    : (∀ earlier later, events = earlier ++ later → ∀ reached, Run step start earlier reached
        → property reached)
      ↔ ∀ earlier event later, events = earlier ++ event :: later → ∀ reached,
        Run step start earlier reached → clear reached event := by
  constructor
  · rintro always earlier event later rfl reached before
    obtain ⟨middle, first, second⟩ := run.split earlier
    cases first.unique decided before
    obtain ⟨after, taken, _⟩ := second.first
    have sound := first.invariant kept (fun _ => True) (fun _ => keeps _ _ _) (fun _ _ => trivial)
      initial
    have held := always earlier (event :: later) rfl reached first
    refine (meets _ _ _ taken sound held).mp ?_
    exact always (earlier ++ [event]) later (by simp) after (first.next taken)
  · rintro clears earlier later rfl reached before
    clear run finish
    induction before generalizing later with
    | done => exact holds
    | @next middle after events event first taken ih =>
        have sound := first.invariant kept (fun _ => True) (fun _ => keeps _ _ _)
          (fun _ _ => trivial) initial
        have held := ih (event :: later) fun earlier event more same =>
          clears earlier event more (by rw [← same]; simp)
        refine (meets _ _ _ taken sound held).mpr ?_
        exact clears events event later (by simp) middle first

/-- A number that no step raises under an invariant, and that some events lower, bounds how many
such events a run has; by induction on the run.
-/
theorem descends (property : State → Prop) (measure : State → Nat) (lowers : Event → Bool)
    (kept : ∀ before event after, step before event after → property before
      → property after ∧ measure after + (if lowers event then 1 else 0) ≤ measure before)
    (run : Run step start events finish) (initial : property start)
    : property finish ∧ measure finish + events.countP lowers ≤ measure start := by
  induction run with
  | done => exact ⟨initial, Nat.le_refl _⟩
  | @next middle finish events event earlier taken ih =>
      obtain ⟨held, bound⟩ := ih
      obtain ⟨holds, last⟩ := kept middle event finish taken held
      refine ⟨holds, ?_⟩
      rw [List.countP_append, List.countP_singleton]
      omega

/-- A run of steps is one of any steps that they are under other events, by induction on the
run.
-/
theorem map {Other : Type} {other : State → Other → State → Prop} (rename : Event → Other)
    (weaker : ∀ before event after, step before event after → other before (rename event) after)
    (run : Run step start events finish)
    : Run other start (events.map rename) finish := by
  induction run with
  | done => exact .done
  | next _ taken ih =>
      rw [List.map_append]
      exact ih.next (weaker _ _ _ taken)

theorem congr {other : State → Event → State → Prop}
    (same : ∀ before event after, step before event after ↔ other before event after)
    : Run step start events finish ↔ Run other start events finish := by
  have steps : step = other := by
    funext before event after
    exact propext (same before event after)
  rw [steps]

end Run

/-- States that some run reaches from a start. -/
def Reachable (step : State → Event → State → Prop) (start finish : State) : Prop :=
  ∃ events, Run step start events finish

namespace Reachable

variable {step : State → Event → State → Prop} {start middle finish : State}

theorem refl (state : State) : Reachable step state state :=
  ⟨[], .done⟩

theorem next {event : Event} (reached : Reachable step start middle)
    (taken : step middle event finish)
    : Reachable step start finish := by
  obtain ⟨events, run⟩ := reached
  exact ⟨events ++ [event], run.next taken⟩

theorem trans (first : Reachable step start middle) (second : Reachable step middle finish)
    : Reachable step start finish := by
  obtain ⟨events, run⟩ := first
  obtain ⟨more, later⟩ := second
  exact ⟨events ++ more, run.append later⟩

theorem map {Other : Type} {other : State → Other → State → Prop} (rename : Event → Other)
    (weaker : ∀ before event after, step before event after → other before (rename event) after)
    (reached : Reachable step start finish)
    : Reachable other start finish := by
  obtain ⟨events, run⟩ := reached
  exact ⟨events.map rename, run.map rename weaker⟩

theorem mono {other : State → Event → State → Prop}
    (weaker : ∀ before event after, step before event after → other before event after)
    (reached : Reachable step start finish)
    : Reachable other start finish :=
  reached.map id weaker

theorem invariant (property : State → Prop)
    (kept : ∀ {before event after}, step before event after → property before
      → property after)
    (reached : Reachable step start finish) (initial : property start)
    : property finish := by
  obtain ⟨events, run⟩ := reached
  exact run.invariant property (fun _ => True) (fun _ => kept) (fun _ _ => trivial) initial

end Reachable

end Library
