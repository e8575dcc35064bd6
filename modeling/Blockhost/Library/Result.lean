import Mathlib.Order.Defs.Unbundled

/-! Rules for computations that may fail. A sequence that succeeds has succeeded at each of its
parts; and what every part does to the state, successful or not, the whole does to it.
-/

namespace Library

theorem except_bind_ok {ε α β : Type} {first : Except ε α} {second : α → Except ε β} {value : β}
    (done : (first >>= second) = .ok value)
    : ∃ result, first = .ok result ∧ second result = .ok value := by
  cases first with
  | error failure => cases done
  | ok result => exact ⟨result, rfl, done⟩

theorem except_map_ok {ε α β : Type} {first : Except ε α} {change : α → β} {value : β}
    (done : first.map change = .ok value)
    : ∃ middle, first = .ok middle ∧ change middle = value := by
  cases first with
  | error refusal => cases done
  | ok middle => exact ⟨middle, rfl, Except.ok.inj done⟩

/-- A loop that succeeds has succeeded for each item, by induction on the items. -/
theorem except_forM_ok {ε α : Type} {action : α → Except ε Unit} {items : List α}
    (done : items.forM action = .ok ())
    : ∀ item ∈ items, action item = .ok () := by
  induction items with
  | nil => simp
  | cons first rest ih =>
      obtain ⟨_, here, later⟩ := except_bind_ok done
      exact List.forall_mem_cons.mpr ⟨here, ih later⟩

theorem except_mapError_ok {ε ε' α : Type} {checked : Except ε α} {change : ε → ε'} {value : α}
    (done : checked.mapError change = .ok value)
    : checked = .ok value := by
  cases checked with
  | error failure => cases done
  | ok result => exact congrArg Except.ok (Except.ok.inj done)

section Loops

variable {ε σ α : Type} {step : σ → α → Except ε σ} {items : List α} {start finish : σ}

/-- A loop whose steps succeed exactly on good items succeeds exactly when all items are good at
its start, as long as no step changes which items are good; by induction on the items.
-/
theorem foldlM_succeeds_iff (good : σ → α → Prop)
    (steps : ∀ state item, (∃ next, step state item = .ok next) ↔ good state item)
    (stable : ∀ state item next other, step state item = .ok next
      → (good next other ↔ good state other))
    : (∃ finish, items.foldlM step start = .ok finish) ↔ ∀ item ∈ items, good start item := by
  induction items generalizing start with
  | nil => exact iff_of_true ⟨start, rfl⟩ nofun
  | cons item rest ih =>
      rw [List.forall_mem_cons, List.foldlM_cons]
      constructor
      · rintro ⟨finish, done⟩
        obtain ⟨middle, first, later⟩ := except_bind_ok done
        refine ⟨(steps start item).mp ⟨middle, first⟩, ?_⟩
        intro other member
        exact (stable start item middle other first).mp (ih.mp ⟨finish, later⟩ other member)
      · rintro ⟨here, others⟩
        obtain ⟨middle, first⟩ := (steps start item).mpr here
        rw [first]
        refine ih.mpr ?_
        intro other member
        exact (stable start item middle other first).mpr (others other member)

/-- A loop that succeeds has performed the effects of its steps, by induction on the items. -/
theorem foldlM_eq_foldl (effect : σ → α → σ)
    (same : ∀ state item next, step state item = .ok next → next = effect state item)
    (done : items.foldlM step start = .ok finish)
    : finish = items.foldl effect start := by
  induction items generalizing start with
  | nil =>
      cases done
      rfl
  | cons item rest ih =>
      rw [List.foldlM_cons] at done
      obtain ⟨middle, first, later⟩ := except_bind_ok done
      rw [List.foldl_cons, ← same start item middle first]
      exact ih later

/-- What every step for an item of the list keeps, a loop that succeeds keeps, by induction on the
items.
-/
theorem foldlM_invariant_mem (property : σ → Prop)
    (kept : ∀ item ∈ items, ∀ state next, step state item = .ok next → property state
      → property next)
    (done : items.foldlM step start = .ok finish) (initial : property start)
    : property finish := by
  induction items generalizing start with
  | nil =>
      cases done
      exact initial
  | cons item rest ih =>
      rw [List.foldlM_cons] at done
      obtain ⟨middle, first, later⟩ := except_bind_ok done
      exact ih (fun other member => kept other (List.mem_cons_of_mem item member)) later
        (kept item List.mem_cons_self start middle first initial)

theorem foldlM_invariant (property : σ → Prop)
    (kept : ∀ state item next, step state item = .ok next → property state → property next)
    (done : items.foldlM step start = .ok finish) (initial : property start)
    : property finish :=
  foldlM_invariant_mem property (fun item _ state next => kept state item next) done initial

end Loops

theorem state_bind_ok {ε σ α β : Type} {first : EStateM ε σ α} {second : α → EStateM ε σ β}
    {value : β} {state next : σ} (done : (first >>= second) state = .ok value next)
    : ∃ result middle, first state = .ok result middle
      ∧ second result middle = .ok value next := by
  simp only [bind, EStateM.bind] at done
  cases outcome : first state with
  | ok result middle =>
      rw [outcome] at done
      exact ⟨result, middle, rfl, done⟩
  | error failure middle =>
      rw [outcome] at done
      cases done

theorem state_bind_run {ε σ α β : Type} {first : EStateM ε σ α} {second : α → EStateM ε σ β}
    {result : α} {state middle : σ} (done : first state = .ok result middle)
    : (first >>= second) state = second result middle := by
  simp only [bind, EStateM.bind, done]

theorem state_bind_error {ε σ α β : Type} {first : EStateM ε σ α} {second : α → EStateM ε σ β}
    {failure : ε} {state middle : σ} (failed : first state = .error failure middle)
    : (first >>= second) state = .error failure middle := by
  simp only [bind, EStateM.bind, failed]

theorem tryCatch_ok {ε σ α : Type} {action : EStateM ε σ α} {handler : ε → EStateM ε σ α}
    {value : α} {state middle : σ} (done : action state = .ok value middle)
    : MonadExcept.tryCatch action handler state = .ok value middle := by
  change EStateM.tryCatch action handler state = _
  delta EStateM.tryCatch
  rw [done]

theorem tryCatch_error {ε σ α : Type} {action : EStateM ε σ α} {handler : ε → EStateM ε σ α}
    {failure : ε} {state middle : σ} (failed : action state = .error failure middle)
    : MonadExcept.tryCatch action handler state = handler failure middle := by
  change EStateM.tryCatch action handler state = _
  delta EStateM.tryCatch
  rw [failed]
  rfl

section Keeps

variable {ε σ α β : Type}

/-- The state that a computation leaves, whether it succeeds or fails. -/
def finalState : EStateM.Result ε σ α → σ
  | .ok _ state => state
  | .error _ state => state

/-- The states before and after every run of a computation are related. -/
def Keeps (relation : σ → σ → Prop) (computation : EStateM ε σ α) : Prop :=
  ∀ state, relation state (finalState (computation state))

theorem finalState_tryCatch {γ : Type} (part : σ → γ) {action : EStateM ε σ α}
    {handler : ε → EStateM ε σ α} (state : σ)
    (same : ∀ failure middle, part (finalState (handler failure middle)) = part middle)
    : part (finalState (tryCatch action handler state)) = part (finalState (action state)) := by
  cases outcome : action state with
  | ok value middle => rw [tryCatch_ok outcome]
  | error failure middle =>
      rw [tryCatch_error outcome]
      exact same failure middle

/-- Do something only when it is wanted. -/
def onlyIf (wanted : Bool) (action : EStateM ε σ Unit) : EStateM ε σ Unit :=
  if wanted then action else pure ()

def refuse (wrong : Bool) (failure : ε) : EStateM ε σ Unit :=
  if wrong then throw failure else pure ()

theorem refuse_ok {ε σ : Type} {wrong : Bool} {failure : ε} {state next : σ} {value : Unit}
    (done : (refuse wrong failure : EStateM ε σ Unit) state = .ok value next)
    : wrong = false ∧ next = state := by
  cases wrong with
  | true => cases done
  | false =>
      cases done
      exact ⟨rfl, rfl⟩

def ignoreFailure (action : EStateM ε σ Unit) : EStateM ε σ Unit :=
  tryCatch action (fun _ => pure ())

variable {relation : σ → σ → Prop}

variable [IsPreorder σ relation]

theorem Keeps.pure (value : α) : Keeps relation (Pure.pure value : EStateM ε σ α) :=
  fun state => refl_of relation state

theorem Keeps.throw (failure : ε) : Keeps relation (MonadExcept.throw failure : EStateM ε σ α) :=
  fun state => refl_of relation state

theorem Keeps.get : Keeps relation (MonadState.get : EStateM ε σ σ) :=
  fun state => refl_of relation state

theorem Keeps.bind {first : EStateM ε σ α} {second : α → EStateM ε σ β}
    (before : Keeps relation first) (after : ∀ value, Keeps relation (second value))
    : Keeps relation (first >>= second) := by
  intro state
  have here := before state
  simp only [Bind.bind, EStateM.bind]
  cases outcome : first state with
  | ok value middle =>
      rw [outcome] at here
      exact trans_of relation here (after value middle)
  | error failure middle =>
      rw [outcome] at here
      exact here

theorem Keeps.tryCatch {action : EStateM ε σ α} {handler : ε → EStateM ε σ α}
    (before : Keeps relation action) (after : ∀ failure, Keeps relation (handler failure))
    : Keeps relation (MonadExcept.tryCatch action handler) := by
  intro state
  have here := before state
  cases outcome : action state with
  | ok value middle =>
      rw [outcome] at here
      rw [tryCatch_ok outcome]
      exact here
  | error failure middle =>
      rw [outcome] at here
      rw [tryCatch_error outcome]
      exact trans_of relation here (after failure middle)

theorem Keeps.onlyIf {action : EStateM ε σ Unit} (wanted : Bool)
    (kept : Keeps relation action)
    : Keeps relation (Library.onlyIf wanted action) := by
  cases wanted with
  | true => exact kept
  | false => exact Keeps.pure ()

theorem Keeps.refuse (wrong : Bool) (failure : ε)
    : Keeps relation (Library.refuse wrong failure : EStateM ε σ Unit) := by
  cases wrong with
  | true => exact Keeps.throw failure
  | false => exact Keeps.pure ()

theorem Keeps.ignoreFailure {action : EStateM ε σ Unit} (kept : Keeps relation action)
    : Keeps relation (Library.ignoreFailure action) :=
  kept.tryCatch (fun _ => Keeps.pure ())

/-- Something done for every item, by induction on the items. -/
theorem Keeps.forM {action : α → EStateM ε σ Unit} {items : List α}
    (kept : ∀ item ∈ items, Keeps relation (action item))
    : Keeps relation (items.forM action) := by
  induction items with
  | nil => exact Keeps.pure ()
  | cons item rest ih =>
      exact (kept item List.mem_cons_self).bind
        (fun _ => ih (fun next member => kept next (List.mem_cons_of_mem item member)))

end Keeps

end Library
