import Blockhost.Library.Faults

/-! Computations on a database session. A step stores rows with a commit or changes what the
computation holds besides the session, and may raise instead. A commit that fails leaves a
session that refuses every load and every commit from then on.
-/

namespace Library

variable {Data Vars Step Error : Type}

/-- A session, with what its computation holds besides. -/
structure Transacted (Data Vars : Type) where
  work : UnitOfWork Data
  vars : Vars

/-- What the steps of a computation do. -/
structure StepMeaning (Step Data Vars : Type) where
  /-- The rows that a commit stores. -/
  stores : Step → Option (Data → Data)
  acts : Step → Vars → Vars
  /-- What a step leaves that raises. -/
  tears : Step → Vars → Vars := fun _ => id

-- Operations

def loadRow (refusal : Error) : EStateM Error (Transacted Data Vars) Unit := fun state =>
  if state.work.usable then .ok () state else .error refusal state

def changeData (f : Data → Data) : EStateM Error (Transacted Data Vars) Unit := fun state =>
  .ok () { state with work := state.work.change f }

def commitData (refusal : Error) (raises : Step → Option Error) (step : Step)
    : EStateM Error (Transacted Data Vars) Unit :=
  fun state =>
    if state.work.usable then
      match raises step with
      | some failure => .error failure { state with work := state.work.spoil }
      | none => .ok () { state with work := state.work.flush }
    else .error refusal state

/-- A step on what the computation holds besides the session. -/
def actOn (raises : Step → Option Error) (step : Step) (change : Vars → Vars)
    : EStateM Error (Transacted Data Vars) Unit :=
  attempt raises step (fun state => { state with vars := change state.vars })

def actTorn (raises : Step → Option Error) (step : Step) (change tear : Vars → Vars)
    : EStateM Error (Transacted Data Vars) Unit :=
  fun state =>
    match raises step with
    | some failure => .error failure { state with vars := tear state.vars }
    | none => .ok () { state with vars := change state.vars }

def setVars (change : Vars → Vars) : EStateM Error (Transacted Data Vars) Unit :=
  modify (fun state => { state with vars := change state.vars })

-- Effects

namespace StepMeaning

variable (meaning : StepMeaning Step Data Vars)

def effect (step : Step) (state : Transacted Data Vars) : Transacted Data Vars :=
  match meaning.stores step with
  | some f =>
      { work := (state.work.change f).flush, vars := meaning.acts step state.vars }
  | none => { state with vars := meaning.acts step state.vars }

def broken (step : Step) (state : Transacted Data Vars) : Transacted Data Vars :=
  match meaning.stores step with
  | some _ => { work := state.work.spoil, vars := meaning.tears step state.vars }
  | none => { state with vars := meaning.tears step state.vars }

/-- What the commits among some steps store. -/
def stored (steps : List Step) (data : Data) : Data :=
  steps.foldl (fun data step => ((meaning.stores step).getD id) data) data

theorem stored_append (first second : List Step) (data : Data)
    : meaning.stored (first ++ second) data
      = meaning.stored second (meaning.stored first data) :=
  List.foldl_append

/-- Steps that are no commits store nothing, by induction on the steps. -/
theorem stored_plain {steps : List Step} (plain : ∀ step ∈ steps, meaning.stores step = none)
    (data : Data)
    : meaning.stored steps data = data := by
  induction steps with
  | nil => rfl
  | cons step rest ih =>
      obtain ⟨first, later⟩ := List.forall_mem_cons.mp plain
      rw [stored, List.foldl_cons, first]
      exact ih later

end StepMeaning

/-- A session that can go on, with nothing left to store. -/
structure Ready (state : Transacted Data Vars) : Prop where
  usable : state.work.usable = true
  clean : state.work.changes = id

theorem Ready.current {state : Transacted Data Vars} (ready : Ready state)
    : state.work.current = state.work.committed :=
  congrFun ready.clean _

variable {meaning : StepMeaning Step Data Vars} {state : Transacted Data Vars}

theorem effect_ready (step : Step) (ready : Ready state)
    : Ready (meaning.effect step state) := by
  unfold StepMeaning.effect
  cases meaning.stores step with
  | none => exact ⟨ready.usable, ready.clean⟩
  | some f => exact ⟨rfl, rfl⟩

theorem advance_ready (steps : List Step) (ready : Ready state)
    : Ready (advance meaning.effect steps state) :=
  advance_keeps Ready (fun step _ _ => effect_ready step) ready

theorem Ready.broken {step : Step} (ready : Ready state) (plain : meaning.stores step = none)
    : Ready (meaning.broken step state) ∧ (meaning.broken step state).work = state.work := by
  have same : (meaning.broken step state).work = state.work := by
    unfold StepMeaning.broken
    rw [plain]
  exact ⟨⟨same ▸ ready.usable, same ▸ ready.clean⟩, same⟩

/-- The steps store what their commits store, by induction on the steps. -/
theorem advance_committed (steps : List Step) (ready : Ready state)
    : (advance meaning.effect steps state).work.committed
      = meaning.stored steps state.work.committed := by
  induction steps generalizing state with
  | nil => rfl
  | cons step rest ih =>
      rw [advance_cons, ih (effect_ready step ready), StepMeaning.stored, StepMeaning.stored,
        List.foldl_cons, StepMeaning.effect]
      congr 1
      cases meaning.stores step with
      | none => rfl
      | some f => simp [ready.current]

-- Programs

variable {refusal : Error} {raises : Step → Option Error}

theorem loadRow_ready (ready : Ready state)
    : (loadRow refusal : EStateM Error (Transacted Data Vars) Unit) state = .ok () state := by
  unfold loadRow
  rw [if_pos ready.usable]

theorem actOn_ok {step : Step} {change : Vars → Vars} (passed : raises step = none)
    : actOn raises step change state = .ok () { state with vars := change state.vars } := by
  simp only [actOn, attempt, passed]

theorem actOn_error {step : Step} {change : Vars → Vars} {failure : Error}
    (raised : raises step = some failure)
    : actOn raises step change state = .error failure state := by
  simp only [actOn, attempt, raised]

theorem commitData_ok {step : Step} (usable : state.work.usable = true)
    (passed : raises step = none)
    : commitData refusal raises step state = .ok () { state with work := state.work.flush } := by
  simp only [commitData, usable, if_true, passed]

theorem commitData_error {step : Step} {failure : Error} (usable : state.work.usable = true)
    (raised : raises step = some failure)
    : commitData refusal raises step state
      = .error failure { state with work := state.work.spoil } := by
  simp only [commitData, usable, if_true, raised]

/-- A computation has the effects of its steps, up to the first one that raises. The exception
may be another one in the end.
-/
structure Follows (raises : Step → Option Error) (meaning : StepMeaning Step Data Vars)
    (steps : List Step) (state : Transacted Data Vars)
    (computation : EStateM Error (Transacted Data Vars) Unit)
    : Prop where
  passes
    : AllPass raises steps → computation state = .ok () (advance meaning.effect steps state)
  fails
    : ∀ {before step failure}, FirstRaise raises steps before step failure
      → ∃ raised, computation state
        = .error raised (meaning.broken step (advance meaning.effect before state))

/-- On a session that can go on the computation follows the steps. -/
def Runs (raises : Step → Option Error) (meaning : StepMeaning Step Data Vars)
    (steps : List Step) (computation : EStateM Error (Transacted Data Vars) Unit)
    : Prop :=
  ∀ state, Ready state → Follows raises meaning steps state computation

variable {left right steps : List Step}
  {first second : EStateM Error (Transacted Data Vars) Unit}

theorem runs_pure : Runs raises meaning [] (pure ()) := fun _ _ =>
  ⟨fun _ => rfl, fun raised => absurd raised.mem List.not_mem_nil⟩

theorem runs_single {step : Step}
    (passes : ∀ state, Ready state → raises step = none
      → first state = .ok () (meaning.effect step state))
    (fails : ∀ state failure, Ready state → raises step = some failure
      → ∃ raised, first state = .error raised (meaning.broken step state))
    : Runs raises meaning [step] first := by
  refine fun state ready => ⟨?_, ?_⟩
  · exact fun all => passes state ready (all step List.mem_cons_self)
  · intro before other failure raised
    obtain ⟨rfl, rfl⟩ := raised.of_single
    exact fails state failure ready raised.raised

theorem Runs.bind (opening : Runs raises meaning left first)
    (later : Runs raises meaning right second)
    : Runs raises meaning (left ++ right) (do first; second) := by
  intro state ready
  have reached : Ready (advance meaning.effect left state) := advance_ready left ready
  refine ⟨?_, ?_⟩
  · intro all
    have opened := (opening state ready).passes
      (fun step member => all step (List.mem_append_left _ member))
    have ended := (later _ reached).passes
      (fun step member => all step (List.mem_append_right _ member))
    rw [state_bind_run opened, ended, advance_append]
  · intro before step failure raised
    rcases raised.of_append with inner | ⟨passed, rest, rfl, inner⟩
    · obtain ⟨other, failed⟩ := (opening state ready).fails inner
      exact ⟨other, state_bind_error failed⟩
    · have opened := (opening state ready).passes passed
      obtain ⟨other, failed⟩ := (later _ reached).fails inner
      exact ⟨other, by rw [state_bind_run opened, failed, advance_append]⟩

theorem Runs.cons {step : Step} (opening : Runs raises meaning [step] first)
    (later : Runs raises meaning steps second)
    : Runs raises meaning (step :: steps) (do first; second) :=
  opening.bind later

theorem runs_ite {condition : Prop} [Decidable condition]
    (holds : Runs raises meaning left first) (fails : Runs raises meaning right second)
    : Runs raises meaning (if condition then left else right)
        (if condition then first else second) := by
  split
  · exact holds
  · exact fails

theorem runs_loadRow (runs : Runs raises meaning steps first)
    : Runs raises meaning steps (do loadRow refusal; first) := by
  intro state ready
  have ran : (do loadRow refusal; first : EStateM Error (Transacted Data Vars) Unit) state
      = first state :=
    state_bind_run (loadRow_ready ready)
  refine ⟨?_, ?_⟩
  · intro all
    rw [ran]
    exact (runs state ready).passes all
  · intro before step failure raised
    rw [ran]
    exact (runs state ready).fails raised

theorem Runs.closing {last : Step} (body : Runs raises meaning steps first)
    (plain : meaning.stores last = none) (same : meaning.acts last = id)
    (whole : meaning.tears last = id)
    : Runs raises meaning (steps ++ [last]) (closing first (actOn raises last id)) := by
  have still (state : Transacted Data Vars) : meaning.effect last state = state := by
    rw [StepMeaning.effect, plain, same]
    rfl
  have kept (state : Transacted Data Vars) : meaning.broken last state = state := by
    rw [StepMeaning.broken, plain, whole]
    rfl
  refine fun state ready => ⟨?_, ?_⟩
  · intro all
    have ran := (body state ready).passes
      (fun step member => all step (List.mem_append_left _ member))
    have passed := all last (List.mem_append_right _ List.mem_cons_self)
    simp only [Library.closing, ran, actOn, attempt, passed, advance_append, advance_cons,
      advance_nil, still]
    rfl
  · intro before step failure raised
    rcases raised.of_append with inner | ⟨passed, rest, rfl, inner⟩
    · obtain ⟨other, failed⟩ := (body state ready).fails inner
      simp only [Library.closing, failed, actOn, attempt]
      cases raises last with
      | none => exact ⟨other, rfl⟩
      | some another => exact ⟨another, rfl⟩
    · have ran := (body state ready).passes passed
      have failed := inner.raised
      obtain ⟨rfl, rfl⟩ := inner.of_single
      refine ⟨failure, ?_⟩
      simp only [Library.closing, ran, actOn, attempt, failed, List.append_nil, kept]

theorem runs_actOn {step : Step} {change : Vars → Vars} (plain : meaning.stores step = none)
    (same : meaning.acts step = change) (whole : meaning.tears step = id)
    : Runs raises meaning [step] (actOn raises step change) := by
  refine runs_single ?_ ?_
  · intro state _ passed
    rw [StepMeaning.effect, plain, same]
    exact actOn_ok passed
  · intro state failure _ raised
    rw [StepMeaning.broken, plain, whole]
    exact ⟨failure, actOn_error raised⟩

theorem runs_actTorn {step : Step} {change tear : Vars → Vars}
    (plain : meaning.stores step = none) (same : meaning.acts step = change)
    (torn : meaning.tears step = tear)
    : Runs raises meaning [step] (actTorn raises step change tear) := by
  refine runs_single ?_ ?_
  · intro state _ passed
    rw [StepMeaning.effect, plain, same]
    simp only [actTorn, passed]
  · intro state failure _ raised
    rw [StepMeaning.broken, plain, torn]
    exact ⟨failure, by simp only [actTorn, raised]⟩

theorem runs_setVars {step : Step} {set change : Vars → Vars}
    (plain : meaning.stores step = none) (same : meaning.acts step = change ∘ set)
    (torn : meaning.tears step = set)
    : Runs raises meaning [step] (do setVars set; actOn raises step change) := by
  refine runs_single ?_ ?_
  · intro state _ passed
    rw [StepMeaning.effect, plain, same]
    exact (state_bind_run rfl).trans (actOn_ok passed)
  · intro state failure _ raised
    rw [StepMeaning.broken, plain, torn]
    exact ⟨failure, (state_bind_run rfl).trans (actOn_error raised)⟩

theorem runs_setVars_then {step : Step} {set change : Vars → Vars}
    (plain : meaning.stores step = none) (same : meaning.acts step = change ∘ set)
    (torn : meaning.tears step = set) (later : Runs raises meaning steps first)
    : Runs raises meaning (step :: steps) (do setVars set; actOn raises step change; first) := by
  have both : Runs raises meaning (step :: steps)
      (do (do setVars set; actOn raises step change); first) :=
    (runs_setVars plain same torn).cons later
  rw [bind_assoc] at both
  exact both

theorem runs_changeData {step : Step} {f : Data → Data} (stores : meaning.stores step = some f)
    (same : meaning.acts step = id) (whole : meaning.tears step = id)
    : Runs raises meaning [step] (do changeData f; commitData refusal raises step) := by
  refine runs_single ?_ ?_
  · intro state ready passed
    rw [StepMeaning.effect, stores, same]
    refine (state_bind_run rfl).trans ?_
    simp only [commitData, UnitOfWork.change_usable, ready.usable, if_true, passed, id]
  · intro state failure ready raised
    rw [StepMeaning.broken, stores, whole]
    refine ⟨failure, (state_bind_run rfl).trans ?_⟩
    simp only [commitData, UnitOfWork.change_usable, ready.usable, if_true, raised, id]
    rfl

theorem runs_commitData {step : Step} (stores : meaning.stores step = some id)
    (same : meaning.acts step = id) (whole : meaning.tears step = id)
    : Runs raises meaning [step] (commitData refusal raises step) := by
  refine runs_single ?_ ?_
  · intro state ready passed
    rw [StepMeaning.effect, stores, same]
    exact commitData_ok ready.usable passed
  · intro state failure ready raised
    rw [StepMeaning.broken, stores, whole]
    exact ⟨failure, commitData_error ready.usable raised⟩

theorem runs_changeData_then {step : Step} {f : Data → Data}
    (stores : meaning.stores step = some f) (same : meaning.acts step = id)
    (whole : meaning.tears step = id) (later : Runs raises meaning steps first)
    : Runs raises meaning (step :: steps)
        (do changeData f; commitData refusal raises step; first) := by
  have both : Runs raises meaning (step :: steps)
      (do (do changeData f; commitData refusal raises step); first) :=
    (runs_changeData stores same whole).cons later
  rw [bind_assoc] at both
  exact both

-- What is kept

def SameSession (before after : Transacted Data Vars) : Prop := after.work = before.work

instance : IsPreorder (Transacted Data Vars) SameSession where
  refl _ := rfl
  trans _ _ _ first second := second.trans first

theorem sameSession_actOn (step : Step) (change : Vars → Vars)
    : Keeps SameSession
        (actOn raises step change : EStateM Error (Transacted Data Vars) Unit) := by
  intro state
  unfold actOn attempt
  cases raises step <;> rfl

section Kept

variable {holds : UnitOfWork Data → Prop}

abbrev OfSession (holds : UnitOfWork Data → Prop) (state : Transacted Data Vars) : Prop :=
  holds state.work

theorem keeps_loadRow
    : Keeps (Carries (OfSession holds))
        (loadRow refusal : EStateM Error (Transacted Data Vars) Unit) := by
  intro state start
  unfold loadRow
  split <;> exact start

theorem keeps_actOn (step : Step) (change : Vars → Vars)
    : Keeps (Carries (OfSession holds)) (actOn raises step change) :=
  keeps_attempt (fun _ start => start)

theorem keeps_actTorn (step : Step) (change tear : Vars → Vars)
    : Keeps (Carries (OfSession holds)) (actTorn raises step change tear) := by
  intro state start
  unfold actTorn
  split <;> exact start

theorem keeps_commitData (step : Step)
    (flush : ∀ work, work.usable = true → holds work → holds work.flush)
    (spoil : ∀ work, holds work → holds work.spoil)
    : Keeps (Carries (OfSession holds))
        (commitData refusal raises step : EStateM Error (Transacted Data Vars) Unit) := by
  intro state start
  unfold commitData
  split
  · split
    · exact spoil state.work start
    · exact flush state.work ‹_› start
  · exact start

end Kept

/-- Nothing waits to be stored. -/
structure Holding (data : Data) (work : UnitOfWork Data) : Prop where
  clean : work.changes = id
  stored : work.committed = data

theorem Holding.flush {data : Data} {work : UnitOfWork Data} (holding : Holding data work)
    : Holding data work.flush := by
  refine ⟨rfl, ?_⟩
  rw [UnitOfWork.flush_committed, UnitOfWork.current, holding.clean]
  exact holding.stored

theorem Holding.spoil {data : Data} {work : UnitOfWork Data} (holding : Holding data work)
    : Holding data work.spoil :=
  ⟨rfl, holding.stored⟩

end Library
