import Blockhost.Library.Program

/-! What a program ensures of the world and of its result when it runs alone, whatever comes in.
The rules follow the shape of the program: a sequence, a handler, a single action.
-/

namespace Library

variable {Action : Type} {Answer : Action → Type} {Error Result Later Outside World : Type}

namespace Program

/-- Each way of ending meets the postcondition, for all inputs of a given kind. -/
def Ensures (machine : Machine Action Answer Outside World) (given : Outside → Prop)
    (post : World → Except Error Result → Prop)
    : Program Action Answer Error Result → World → Prop
  | .done result, world => post world (.ok result)
  | .failed error, world => post world (.error error)
  | .act action next, world =>
      ∀ outside, given outside →
        Ensures machine given post (next (machine action outside world).2)
          (machine action outside world).1

variable {machine : Machine Action Answer Outside World} {given : Outside → Prop}
variable {post weaker : World → Except Error Result → Prop} {world : World}

/-- What a program ensures holds where a run of it ends, by induction on the program. -/
theorem Ensures.run {program : Program Action Answer Error Result}
    (ensured : program.Ensures machine given post world) {inputs : Stream' Outside}
    (known : ∀ index, given (inputs.get index))
    : post (program.run machine inputs world).world (program.run machine inputs world).result := by
  induction program generalizing inputs world with
  | done result => exact ensured
  | failed error => exact ensured
  | act action next ih =>
      exact ih _ (ensured inputs.head (known 0)) (fun index => known (index + 1))

/-- A weaker postcondition, by induction on the program. -/
theorem Ensures.mono {program : Program Action Answer Error Result}
    (ensured : program.Ensures machine given post world)
    (weakens : ∀ world result, post world result → weaker world result)
    : program.Ensures machine given weaker world := by
  induction program generalizing world with
  | done result => exact weakens _ _ ensured
  | failed error => exact weakens _ _ ensured
  | act action next ih => exact fun outside known => ih _ (ensured outside known)

/-- A sequence: the second part goes on where the first one returns, by induction on the first.
-/
theorem Ensures.bind {first : Program Action Answer Error Later}
    {second : Later → Program Action Answer Error Result}
    {between : World → Except Error Later → Prop}
    (before : first.Ensures machine given between world)
    (returned : ∀ world value, between world (.ok value)
      → (second value).Ensures machine given post world)
    (raised : ∀ world error, between world (.error error) → post world (.error error))
    : (first >>= second).Ensures machine given post world := by
  induction first generalizing world with
  | done value => exact returned _ _ before
  | failed error => exact raised _ _ before
  | act action next ih => exact fun outside known => ih _ (before outside known)

/-- A handler goes on where the program raises, by induction on the program. -/
theorem Ensures.handle {first : Program Action Answer Error Result}
    {handler : Error → Program Action Answer Error Result}
    {between : World → Except Error Result → Prop}
    (before : first.Ensures machine given between world)
    (returned : ∀ world value, between world (.ok value) → post world (.ok value))
    (raised : ∀ world error, between world (.error error)
      → (handler error).Ensures machine given post world)
    : (tryCatch first handler : Program Action Answer Error Result).Ensures machine given post
        world := by
  induction first generalizing world with
  | done value => exact returned _ _ before
  | failed error => exact raised _ _ before
  | act action next ih => exact fun outside known => ih _ (before outside known)

def settle (machine : Machine Action Answer Outside World) (inputs : Action → Outside)
    : Program Action Answer Error Result → World → World × Except Error Result
  | .done result, world => (world, .ok result)
  | .failed error, world => (world, .error error)
  | .act action next, world =>
      settle machine inputs (next (machine action (inputs action) world).2)
        (machine action (inputs action) world).1

/-- What a program ensures holds where it ends, by induction on the program. -/
theorem Ensures.settle {program : Program Action Answer Error Result}
    (ensured : program.Ensures machine given post world) (inputs : Action → Outside)
    (known : ∀ action, given (inputs action))
    : post (program.settle machine inputs world).1 (program.settle machine inputs world).2 := by
  induction program generalizing world with
  | done result => exact ensured
  | failed error => exact ensured
  | act action next ih => exact ih _ (ensured (inputs action) (known action))

/-- A sequence goes on where its first part ends well, by induction on the first part. -/
theorem settle_bind_ok {first : Program Action Answer Error Later}
    {second : Later → Program Action Answer Error Result} {inputs : Action → Outside}
    {world middle : World} {value : Later}
    (ended : first.settle machine inputs world = (middle, .ok value))
    : (first >>= second).settle machine inputs world
      = (second value).settle machine inputs middle := by
  induction first generalizing world with
  | done value =>
      cases ended
      rfl
  | failed error => cases congrArg Prod.snd ended
  | act action next ih => exact ih _ ended

/-- A sequence ends where its first part fails, by induction on the first part. -/
theorem settle_bind_error {first : Program Action Answer Error Later}
    {second : Later → Program Action Answer Error Result} {inputs : Action → Outside}
    {world middle : World} {error : Error}
    (ended : first.settle machine inputs world = (middle, .error error))
    : (first >>= second).settle machine inputs world = (middle, .error error) := by
  induction first generalizing world with
  | done value => cases congrArg Prod.snd ended
  | failed error =>
      cases ended
      rfl
  | act action next ih => exact ih _ ended

/-- A handler has nothing to do after a program that returns, by induction on the program. -/
theorem settle_handle_ok {first : Program Action Answer Error Result}
    {handler : Error → Program Action Answer Error Result} {inputs : Action → Outside}
    {world middle : World} {value : Result}
    (ended : first.settle machine inputs world = (middle, .ok value))
    : (tryCatch first handler : Program Action Answer Error Result).settle machine inputs world
      = (middle, .ok value) := by
  induction first generalizing world with
  | done result => exact ended
  | failed error => cases congrArg Prod.snd ended
  | act action next ih => exact ih _ ended

/-- A handler goes on where a program raises, by induction on the program. -/
theorem settle_handle_error {first : Program Action Answer Error Result}
    {handler : Error → Program Action Answer Error Result} {inputs : Action → Outside}
    {world middle : World} {error : Error}
    (ended : first.settle machine inputs world = (middle, .error error))
    : (tryCatch first handler : Program Action Answer Error Result).settle machine inputs world
      = (handler error).settle machine inputs middle := by
  induction first generalizing world with
  | done result => cases congrArg Prod.snd ended
  | failed error =>
      cases ended
      rfl
  | act action next ih => exact ih _ ended

-- Which actions a program comes to

/-- Whether a settled program comes to an action that passes a test. -/
def reaches (machine : Machine Action Answer Outside World) (inputs : Action → Outside)
    (test : Action → Bool)
    : Program Action Answer Error Result → World → Bool
  | .done _, _ => false
  | .failed _, _ => false
  | .act action next, world =>
      test action
      || reaches machine inputs test (next (machine action (inputs action) world).2)
          (machine action (inputs action) world).1

variable {inputs : Action → Outside} {test : Action → Bool}

/-- A program of other actions comes to none that passes the test, by induction on it. -/
theorem reaches_of_uses {program : Program Action Answer Error Result}
    (used : program.Uses (fun action => test action = false))
    : program.reaches machine inputs test world = false := by
  induction program generalizing world with
  | done result => rfl
  | failed error => rfl
  | act action next ih =>
      unfold reaches
      rw [used.1, ih _ (used.2 _)]
      rfl

/-- A sequence whose first part returns, by induction on the first part. -/
theorem reaches_bind_ok {first : Program Action Answer Error Later}
    {second : Later → Program Action Answer Error Result} {middle : World} {value : Later}
    (ended : first.settle machine inputs world = (middle, .ok value))
    : (first >>= second).reaches machine inputs test world
      = (first.reaches machine inputs test world
        || (second value).reaches machine inputs test middle) := by
  induction first generalizing world with
  | done value =>
      cases ended
      rfl
  | failed error => cases congrArg Prod.snd ended
  | act action next ih =>
      exact (congrArg (test action || ·) (ih _ ended)).trans (Bool.or_assoc ..).symm

/-- A sequence whose first part raises, by induction on the first part. -/
theorem reaches_bind_error {first : Program Action Answer Error Later}
    {second : Later → Program Action Answer Error Result} {middle : World} {error : Error}
    (ended : first.settle machine inputs world = (middle, .error error))
    : (first >>= second).reaches machine inputs test world
      = first.reaches machine inputs test world := by
  induction first generalizing world with
  | done value => cases congrArg Prod.snd ended
  | failed error => rfl
  | act action next ih => exact congrArg (test action || ·) (ih _ ended)

/-- A handler that comes to no such action, by induction on the program. -/
theorem reaches_handle {first : Program Action Answer Error Result}
    {handler : Error → Program Action Answer Error Result}
    (quiet : ∀ error world, (handler error).reaches machine inputs test world = false)
    : (tryCatch first handler : Program Action Answer Error Result).reaches machine inputs test
        world
      = first.reaches machine inputs test world := by
  induction first generalizing world with
  | done result => rfl
  | failed error => exact quiet error world
  | act action next ih => exact congrArg (test action || ·) (ih _)

end Program

end Library
