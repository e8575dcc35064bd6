/-! What an object-relational session writes back. It loads the attributes of a row, changes them
in memory, and at a commit writes those whose value is another one than the loaded one. A commit
makes the attributes expire, so that they are loaded again when they are read.
-/

namespace Library

variable {Value : Type} [DecidableEq Value]

/-- What a column holds after a commit that leaves an attribute at `value`. The loaded value is
missing if the attribute has expired.
-/
def written (loaded : Option Value) (value stored : Value) : Value :=
  if loaded = some value then stored else value

theorem written_changed {loaded : Option Value} {value : Value} (changed : loaded ≠ some value)
    (stored : Value)
    : written loaded value stored = value :=
  if_neg changed

@[simp] theorem written_unchanged (value stored : Value)
    : written (some value) value stored = stored :=
  if_pos rfl

@[simp] theorem written_current (value stored : Value)
    : written (some stored) value stored = value := by
  unfold written
  split
  · rename_i same
    exact Option.some.inj same
  · rfl

end Library
