import Mathlib.Logic.Function.Basic

/-! Locks that a store leases for some time. An owner has a lock until it gives it back or its
lease runs out, whatever the owner is doing then.
-/

namespace Library

structure LeaseStore (Key Owner State : Type) where
  acquire : Key → Owner → Int → Int → State → Option State
  release : Key → Owner → State → State
  Held : State → Key → Owner → Int → Prop

variable {Key Owner State : Type}

/-- What users of a store rely on. -/
structure LeaseStore.Lawful (store : LeaseStore Key Owner State) : Prop where
  granted
    : ∀ {key owner now duration state next}, store.acquire key owner now duration state = some next
      → ∀ time, time < now + duration → store.Held next key owner time
  exclusive
    : ∀ {key owner other now duration state}, store.Held state key other now
      → store.acquire key owner now duration state = none
  acquire_other
    : ∀ {key owner now duration state next}, store.acquire key owner now duration state = some next
      → ∀ {otherKey other time}, otherKey ≠ key → store.Held state otherKey other time
      → store.Held next otherKey other time
  release_other
    : ∀ {key owner state otherKey other time}, (otherKey, other) ≠ (key, owner)
      → store.Held state otherKey other time
      → store.Held (store.release key owner state) otherKey other time

section ExpiringKeys

variable [DecidableEq Key] [DecidableEq Owner]

def expiringKeys : LeaseStore Key Owner (Key → Option (Owner × Int)) where
  acquire key owner now duration keys :=
    match keys key with
    | none => some (Function.update keys key (some (owner, now + duration)))
    | some (_, finish) =>
        if now < finish then none
        else some (Function.update keys key (some (owner, now + duration)))
  release key owner keys :=
    if (keys key).any (fun lease => lease.1 = owner) then Function.update keys key none else keys
  Held keys key owner time := ∃ finish, keys key = some (owner, finish) ∧ time < finish

theorem expiringKeys_acquire {key : Key} {owner : Owner} {now duration : Int}
    {keys next : Key → Option (Owner × Int)}
    (acquired : expiringKeys.acquire key owner now duration keys = some next)
    : next = Function.update keys key (some (owner, now + duration)) := by
  simp only [expiringKeys] at acquired
  split at acquired
  · cases acquired
    rfl
  · split at acquired
    · cases acquired
    · cases acquired
      rfl

theorem expiringKeys_lawful : (expiringKeys : LeaseStore Key Owner _).Lawful where
  granted := by
    intro key owner now duration keys next acquired time before
    rw [expiringKeys_acquire acquired]
    exact ⟨now + duration, Function.update_self .., before⟩
  exclusive := by
    rintro key owner other now duration keys ⟨finish, stored, before⟩
    simp [expiringKeys, stored, before]
  acquire_other := by
    rintro key owner now duration keys next acquired otherKey other time different
      ⟨finish, stored, before⟩
    rw [expiringKeys_acquire acquired]
    exact ⟨finish, by rw [Function.update_of_ne different, stored], before⟩
  release_other := by
    rintro key owner keys otherKey other time different ⟨finish, stored, before⟩
    refine ⟨finish, ?_, before⟩
    simp only [expiringKeys]
    split
    · rename_i owned
      have otherwise : otherKey ≠ key := by
        rintro rfl
        simp only [stored, Option.any_some, decide_eq_true_eq] at owned
        exact different (by rw [owned])
      rw [Function.update_of_ne otherwise, stored]
    · exact stored

end ExpiringKeys

end Library
