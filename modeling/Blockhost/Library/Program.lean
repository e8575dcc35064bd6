import Blockhost.Library.Run
import Mathlib.Data.Stream.Defs

/-! Programs that act on a shared world one action at a time. A program may run alone, or take
turns with others in a pool; the rules here carry a property from single actions to a whole run
of either kind.
-/

namespace Library

/-- A computation that asks for actions, goes on with their answers, and may fail. -/
inductive Program (Action : Type) (Answer : Action → Type) (Error Result : Type) where
  | done (result : Result)
  | failed (error : Error)
  | act (action : Action) (next : Answer action → Program Action Answer Error Result)

variable {Action : Type} {Answer : Action → Type} {Error Result Later : Type}

namespace Program

def bind (first : Program Action Answer Error Result)
    (second : Result → Program Action Answer Error Later)
    : Program Action Answer Error Later :=
  match first with
  | .done result => second result
  | .failed error => .failed error
  | .act action next => .act action (fun answer => (next answer).bind second)

def handle (first : Program Action Answer Error Result)
    (handler : Error → Program Action Answer Error Result)
    : Program Action Answer Error Result :=
  match first with
  | .done result => .done result
  | .failed error => handler error
  | .act action next => .act action (fun answer => (next answer).handle handler)

instance : Monad (Program Action Answer Error) where
  pure := .done
  bind := bind

instance : MonadExcept Error (Program Action Answer Error) where
  throw := .failed
  tryCatch := handle

def perform (action : Action) : Program Action Answer Error (Answer action) :=
  .act action .done

end Program

abbrev Machine (Action : Type) (Answer : Action → Type) (Outside World : Type) :=
  (action : Action) → Outside → World → World × Answer action

variable {Outside World : Type}

-- One program alone

/-- How a program ends: its world, the inputs that it has not used, and its result. -/
structure Outcome (Outside World Error Result : Type) where
  world : World
  inputs : Stream' Outside
  result : Except Error Result

namespace Program

def run (machine : Machine Action Answer Outside World)
    : Program Action Answer Error Result → Stream' Outside → World
      → Outcome Outside World Error Result
  | .done result, inputs, world => ⟨world, inputs, .ok result⟩
  | .failed error, inputs, world => ⟨world, inputs, .error error⟩
  | .act action next, inputs, world =>
      let taken := machine action inputs.head world
      run machine (next taken.2) inputs.tail taken.1

variable {machine : Machine Action Answer Outside World}

/-- A sequence runs its parts one after the other, by induction on the first. -/
theorem run_bind (first : Program Action Answer Error Result)
    (second : Result → Program Action Answer Error Later) (inputs : Stream' Outside)
    (world : World)
    : (first >>= second).run machine inputs world
      = match first.run machine inputs world with
        | ⟨middle, rest, .ok result⟩ => (second result).run machine rest middle
        | ⟨middle, rest, .error error⟩ => ⟨middle, rest, .error error⟩ := by
  induction first generalizing inputs world with
  | done result => rfl
  | failed error => rfl
  | act action next ih => exact ih _ _ _

/-- A handled program runs the handler after a failure, by induction on the program. -/
theorem run_handle (first : Program Action Answer Error Result)
    (handler : Error → Program Action Answer Error Result) (inputs : Stream' Outside)
    (world : World)
    : (tryCatch first handler).run machine inputs world
      = match first.run machine inputs world with
        | ⟨middle, rest, .ok result⟩ => ⟨middle, rest, .ok result⟩
        | ⟨middle, rest, .error error⟩ => (handler error).run machine rest middle := by
  induction first generalizing inputs world with
  | done result => rfl
  | failed error => rfl
  | act action next ih => exact ih _ _ _

theorem run_perform {action : Action} {next : Answer action → Program Action Answer Error Later}
    {inputs : Stream' Outside} {world : World} {outcome : Outcome Outside World Error Later}
    (ended : (perform action >>= next).run machine inputs world = outcome)
    : ∃ after answer, machine action inputs.head world = (after, answer)
      ∧ (next answer).run machine inputs.tail after = outcome :=
  ⟨_, _, rfl, ended⟩

theorem run_bind_ok {first : Program Action Answer Error Result}
    {second : Result → Program Action Answer Error Later} {inputs rest : Stream' Outside}
    {world finish : World} {value : Later}
    (ended : (first >>= second).run machine inputs world = ⟨finish, rest, .ok value⟩)
    : ∃ middle remaining result, first.run machine inputs world = ⟨middle, remaining, .ok result⟩
      ∧ (second result).run machine remaining middle = ⟨finish, rest, .ok value⟩ := by
  rw [run_bind] at ended
  cases outcome : first.run machine inputs world with
  | mk middle remaining result =>
      rw [outcome] at ended
      cases result with
      | error error => cases ended
      | ok result => exact ⟨middle, remaining, result, rfl, ended⟩

/-- All actions of a program belong to a given set. -/
def Uses (allowed : Action → Prop) : Program Action Answer Error Result → Prop
  | .done _ => True
  | .failed _ => True
  | .act action next => allowed action ∧ ∀ answer, (next answer).Uses allowed

variable {allowed : Action → Prop}

/-- A sequence uses what its parts use, by induction on the first. -/
theorem Uses.bind {first : Program Action Answer Error Result}
    {second : Result → Program Action Answer Error Later} (before : first.Uses allowed)
    (after : ∀ result, (second result).Uses allowed)
    : (first >>= second).Uses allowed := by
  induction first with
  | done result => exact after result
  | failed error => trivial
  | act action next ih => exact ⟨before.1, fun answer => ih answer (before.2 answer)⟩

/-- So does a handled program, by induction on it. -/
theorem Uses.handle {first : Program Action Answer Error Result}
    {handler : Error → Program Action Answer Error Result} (before : first.Uses allowed)
    (after : ∀ error, (handler error).Uses allowed)
    : (tryCatch first handler : Program Action Answer Error Result).Uses allowed := by
  induction first with
  | done result => trivial
  | failed error => exact after error
  | act action next ih => exact ⟨before.1, fun answer => ih answer (before.2 answer)⟩

/-- What every used action keeps, a run keeps, by induction on the program. -/
theorem Uses.invariant {program : Program Action Answer Error Result}
    (used : program.Uses allowed) (property : World → Prop)
    (kept : ∀ action outside world, allowed action → property world
      → property (machine action outside world).1)
    (inputs : Stream' Outside) {world : World} (initial : property world)
    : property (program.run machine inputs world).world := by
  induction program generalizing inputs world with
  | done result => exact initial
  | failed error => exact initial
  | act action next ih => exact ih _ (used.2 _) _ (kept action _ _ used.1 initial)

section Protocols

variable {State : Type} {advance : State → (action : Action) → Answer action → State}
variable {permits : State → Action → Prop} {state : State}

def Follows (advance : State → (action : Action) → Answer action → State)
    (permits : State → Action → Prop)
    : State → Program Action Answer Error Result → Prop
  | _, .done _ => True
  | _, .failed _ => True
  | state, .act action next =>
      permits state action
      ∧ ∀ answer, (next answer).Follows advance permits (advance state action answer)

/-- A sequence keeps to a protocol when its second part does in every state, by induction on the
first.
-/
theorem Follows.bind {first : Program Action Answer Error Result}
    {second : Result → Program Action Answer Error Later}
    (before : first.Follows advance permits state)
    (after : ∀ result state, (second result).Follows advance permits state)
    : (first >>= second).Follows advance permits state := by
  induction first generalizing state with
  | done result => exact after result state
  | failed error => trivial
  | act action next ih => exact ⟨before.1, fun answer => ih answer (before.2 answer)⟩

/-- So does a handled program, by induction on it. -/
theorem Follows.handle {first : Program Action Answer Error Result}
    {handler : Error → Program Action Answer Error Result}
    (before : first.Follows advance permits state)
    (after : ∀ error state, (handler error).Follows advance permits state)
    : (tryCatch first handler : Program Action Answer Error Result).Follows advance permits
        state := by
  induction first generalizing state with
  | done result => trivial
  | failed error => exact after error state
  | act action next ih => exact ⟨before.1, fun answer => ih answer (before.2 answer)⟩

end Protocols

def runFor (machine : Machine Action Answer Outside World)
    : Nat → Program Action Answer Error Result → Stream' Outside → World
      → World × Program Action Answer Error Result
  | 0, program, _, world => (world, program)
  | count + 1, .act action next, inputs, world =>
      runFor machine count (next (machine action inputs.head world).2) inputs.tail
        (machine action inputs.head world).1
  | _ + 1, program, _, world => (world, program)

/-- With enough actions a program has ended, by induction on it. -/
theorem runFor_run (program : Program Action Answer Error Result) (inputs : Stream' Outside)
    (world : World)
    : ∃ count, (program.runFor machine count inputs world).1
      = (program.run machine inputs world).world := by
  induction program generalizing inputs world with
  | done result => exact ⟨0, rfl⟩
  | failed error => exact ⟨0, rfl⟩
  | act action next ih =>
      obtain ⟨count, same⟩ :=
        ih (machine action inputs.head world).2 inputs.tail (machine action inputs.head world).1
      exact ⟨count + 1, same⟩

end Program

-- Programs that take turns

structure Pool (Action : Type) (Answer : Action → Type) (Error World : Type) where
  world : World
  running : List (Program Action Answer Error Unit) := []

/-- A program starts, or one of those under way performs its next action. -/
inductive Turn (Action : Type) (Answer : Action → Type) (Error Outside : Type) where
  | start (program : Program Action Answer Error Unit)
  | advance (index : Nat) (outside : Outside)

/-- The possible turns of a pool whose programs come from a given set. -/
inductive Pool.Step (machine : Machine Action Answer Outside World)
    (allowed : Program Action Answer Error Unit → Prop)
    : Pool Action Answer Error World → Turn Action Answer Error Outside
      → Pool Action Answer Error World → Prop where
  | start {pool : Pool Action Answer Error World} {program : Program Action Answer Error Unit}
      (known : allowed program)
      : Step machine allowed pool (.start program)
          { pool with running := pool.running ++ [program] }
  | advance {pool : Pool Action Answer Error World} {index : Nat} {outside : Outside}
      {action : Action} {next : Answer action → Program Action Answer Error Unit}
      (turn : pool.running[index]? = some (.act action next))
      : Step machine allowed pool (.advance index outside)
          { world := (machine action outside pool.world).1
            running :=
              pool.running.set index (next (machine action outside pool.world).2) }

/-- Steps whose action meets a condition. -/
def Pool.StepWhen (machine : Machine Action Answer Outside World)
    (allowed : Program Action Answer Error Unit → Prop)
    (condition : Pool Action Answer Error World → Action → Outside → Prop)
    (before : Pool Action Answer Error World) (turn : Turn Action Answer Error Outside)
    (after : Pool Action Answer Error World)
    : Prop :=
  Pool.Step machine allowed before turn after
  ∧ ∀ index outside action next, turn = .advance index outside
    → before.running[index]? = some (.act action next)
    → condition before action outside

namespace Pool

variable {machine : Machine Action Answer Outside World}
variable {allowed : Program Action Answer Error Unit → Prop}
variable {condition : Pool Action Answer Error World → Action → Outside → Prop}
variable {start before after finish : Pool Action Answer Error World}

theorem Step.whenever {turn : Turn Action Answer Error Outside}
    (taken : Step machine allowed before turn after)
    : StepWhen machine allowed (fun _ _ _ => True) before turn after :=
  ⟨taken, fun _ _ _ _ _ _ => trivial⟩

theorem StepWhen.cases {turn : Turn Action Answer Error Outside}
    (taken : StepWhen machine allowed condition before turn after)
    : (∃ program, allowed program
        ∧ after = { before with running := before.running ++ [program] })
      ∨ ∃ index outside action next, turn = .advance index outside
        ∧ before.running[index]? = some (.act action next)
        ∧ condition before action outside
        ∧ after = {
            world := (machine action outside before.world).1
            running :=
              before.running.set index (next (machine action outside before.world).2) } := by
  obtain ⟨step, met⟩ := taken
  cases step with
  | start known => exact .inl ⟨_, known, rfl⟩
  | advance turn => exact .inr ⟨_, _, _, _, rfl, turn, met _ _ _ _ rfl turn, rfl⟩

theorem world_invariant (property : World → Prop)
    (kept : ∀ pool action outside, condition pool action outside → property pool.world
      → property (machine action outside pool.world).1)
    (reached : Reachable (StepWhen machine allowed condition) start finish)
    (initial : property start.world)
    : property finish.world := by
  refine reached.invariant (fun pool => property pool.world) ?_ initial
  intro before turn after taken held
  rcases taken.cases with ⟨_, _, rfl⟩ | ⟨_, _, _, _, _, _, met, rfl⟩
  · exact held
  · exact kept _ _ _ met held

theorem running_invariant (fits : World → Program Action Answer Error Unit → Prop)
    (starts : ∀ world program, allowed program → fits world program)
    (others : ∀ pool action outside other, condition pool action outside
      → other ∈ pool.running → fits pool.world other
      → fits (machine action outside pool.world).1 other)
    (advances : ∀ pool action outside next, condition pool action outside
      → .act action next ∈ pool.running → fits pool.world (.act action next)
      → fits (machine action outside pool.world).1
          (next (machine action outside pool.world).2))
    (reached : Reachable (StepWhen machine allowed condition) start finish)
    (initial : ∀ program ∈ start.running, fits start.world program)
    : ∀ program ∈ finish.running, fits finish.world program := by
  refine reached.invariant (fun pool => ∀ program ∈ pool.running, fits pool.world program) ?_
    initial
  intro before turn after taken held
  rcases taken.cases with ⟨program, known, rfl⟩ | ⟨index, outside, action, next, _, turn, met, rfl⟩
  · intro other member
    rcases List.mem_append.mp member with old | new
    · exact held other old
    · cases List.mem_singleton.mp new
      exact starts before.world program known
  · have acting := List.mem_of_getElem? turn
    intro other member
    rcases List.mem_or_eq_of_mem_set member with old | rfl
    · exact others before action outside other met old (held other old)
    · exact advances before action outside next met acting (held _ acting)

def afterLast (machine : Machine Action Answer Outside World)
    (others : List (Program Action Answer Error Unit)) (count : Nat)
    (program : Program Action Answer Error Unit) (inputs : Stream' Outside) (world : World)
    : Pool Action Answer Error World where
  world := (program.runFor machine count inputs world).1
  running := others ++ [(program.runFor machine count inputs world).2]

/-- One action more is a turn, unless the program has ended, by induction on the actions. -/
theorem afterLast_succ (others : List (Program Action Answer Error Unit)) (count : Nat)
    (program : Program Action Answer Error Unit) (inputs : Stream' Outside) (world : World)
    : afterLast machine others (count + 1) program inputs world
        = afterLast machine others count program inputs world
      ∨ ∃ turn, Step machine allowed (afterLast machine others count program inputs world) turn
        (afterLast machine others (count + 1) program inputs world) := by
  induction count generalizing program inputs world with
  | zero =>
      cases program with
      | done result => exact .inl rfl
      | failed error => exact .inl rfl
      | act action next =>
          have turn : (others ++ [.act action next])[others.length]? = some (.act action next) :=
            List.getElem?_concat_length ..
          have taken : Step machine allowed ⟨world, others ++ [.act action next]⟩
              (.advance others.length inputs.head) _ := .advance turn
          simp only [List.set_append_right _ _ (Nat.le_refl _), Nat.sub_self, List.set_cons_zero]
            at taken
          exact .inr ⟨_, taken⟩
  | succ count ih =>
      cases program with
      | done result => exact .inl rfl
      | failed error => exact .inl rfl
      | act action next => exact ih _ _ _

/-- So the actions are a run, by induction on their number. -/
theorem reachable_afterLast (others : List (Program Action Answer Error Unit)) (count : Nat)
    (program : Program Action Answer Error Unit) (inputs : Stream' Outside) (world : World)
    : Reachable (Step machine allowed) ⟨world, others ++ [program]⟩
        (afterLast machine others count program inputs world) := by
  induction count with
  | zero => exact .refl _
  | succ count ih =>
      rcases afterLast_succ others count program inputs world with same | ⟨_, taken⟩
      · rw [same]
        exact ih
      · exact ih.next taken

/-- The program at an index performs its next action. -/
def advance (machine : Machine Action Answer Outside World)
    (pool : Pool Action Answer Error World) (turn : Nat × Outside)
    : Pool Action Answer Error World :=
  match pool.running[turn.1]? with
  | some (.act action next) =>
      { world := (machine action turn.2 pool.world).1
        running := pool.running.set turn.1 (next (machine action turn.2 pool.world).2) }
  | _ => pool

/-- A schedule of turns is a run when every pool on the way meets the condition, by induction on
the turns.
-/
theorem reachable_schedule (turns : List (Nat × Outside))
    (pool : Pool Action Answer Error World)
    (met : ∀ count turn, turns[count]? = some turn → ∀ action next,
      ((turns.take count).foldl (advance machine) pool).running[turn.1]? = some (.act action next)
      → condition ((turns.take count).foldl (advance machine) pool) action turn.2)
    : Reachable (StepWhen machine allowed condition) pool
        (turns.foldl (advance machine) pool) := by
  induction turns generalizing pool with
  | nil => exact .refl pool
  | cons turn rest ih =>
      have later := ih (advance machine pool turn)
        (fun count other found => met (count + 1) other found)
      rw [List.foldl_cons]
      refine Reachable.trans ?_ later
      unfold advance
      split
      · rename_i action next running
        have taken : Step machine allowed pool (.advance turn.1 turn.2) _ := .advance running
        refine (Reachable.refl pool).next ⟨taken, ?_⟩
        intro index outside acting after same found
        cases same
        exact met 0 turn rfl acting after found
      · exact .refl pool

/-- Known programs start one after the other, by induction on them. -/
theorem reachable_starts (programs : List (Program Action Answer Error Unit))
    (known : ∀ program ∈ programs, allowed program) (pool : Pool Action Answer Error World)
    : Reachable (StepWhen machine allowed condition) pool
        { pool with running := pool.running ++ programs } := by
  induction programs generalizing pool with
  | nil =>
      rw [List.append_nil]
      exact .refl pool
  | cons program rest ih =>
      have first : StepWhen machine allowed condition pool
          (.start program : Turn Action Answer Error Outside)
          { pool with running := pool.running ++ [program] } :=
        ⟨.start (known program List.mem_cons_self), nofun⟩
      have others := ih (fun other member => known other (List.mem_cons_of_mem program member))
        { pool with running := pool.running ++ [program] }
      simp only [List.append_assoc, List.singleton_append] at others
      exact ((Reachable.refl pool).next first).trans others

theorem run_alone {program : Program Action Answer Error Unit} (known : allowed program)
    (others : List (Program Action Answer Error Unit)) (inputs : Stream' Outside)
    (world : World)
    : ∃ last, Reachable (Step machine allowed) ⟨world, others⟩
        ⟨(program.run machine inputs world).world, others ++ [last]⟩ := by
  obtain ⟨count, same⟩ :
      ∃ count, (program.runFor machine count inputs world).1
        = (program.run machine inputs world).world := program.runFor_run inputs world
  have started : Step machine allowed ⟨world, others⟩ (.start program)
      ⟨world, others ++ [program]⟩ := .start known
  have reached : Reachable (Step machine allowed) ⟨world, others ++ [program]⟩
      (afterLast machine others count program inputs world) :=
    reachable_afterLast others count program inputs world
  unfold afterLast at reached
  rw [same] at reached
  exact ⟨_, ((Reachable.refl _).next started).trans reached⟩

end Pool

end Library
