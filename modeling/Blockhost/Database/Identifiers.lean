import Blockhost.Database.Schema

/-! Identifiers as texts. -/

namespace Blockhost

/-- Drop every occurrence of a word; the first argument counts characters still to skip. -/
def removeWord (word : List Char) : Nat → List Char → List Char
  | _, [] => []
  | skip + 1, _ :: rest => removeWord word skip rest
  | 0, letter :: rest =>
      if word.isPrefixOf (letter :: rest) then removeWord word (word.length - 1) rest
      else letter :: removeWord word 0 rest

/-- The value of a hexadecimal digit. -/
def hexDigit (letter : Char) : Option Nat :=
  if '0' ≤ letter ∧ letter ≤ '9' then some (letter.toNat - '0'.toNat)
  else if 'a' ≤ letter ∧ letter ≤ 'f' then some (letter.toNat - 'a'.toNat + 10)
  else if 'A' ≤ letter ∧ letter ≤ 'F' then some (letter.toNat - 'A'.toNat + 10)
  else none

/-- Characters of a set removed from both ends. -/
def stripChars (set : List Char) (text : List Char) : List Char :=
  ((text.dropWhile (· ∈ set)).reverse.dropWhile (· ∈ set)).reverse

/-- `uuid.UUID(text)`: 32 hexadecimal digits, with the usual decorations removed. -/
def parseUuid (text : String) : Option Uuid :=
  let bare := removeWord "uuid:".toList 0 (removeWord "urn:".toList 0 text.toList)
  let digits := (stripChars ['{', '}'] bare).filter (· ≠ '-')
  if digits.length = 32 then
    digits.foldl
      (fun value letter => value.bind (fun high => (hexDigit letter).map (high * 16 + ·)))
      (some 0)
  else none

/-- The 32 digits of an identifier, the highest one first. -/
def uuidDigits (id : Uuid) : List Char :=
  (List.range 32).map (fun place => Nat.digitChar ((id >>> (4 * (31 - place))) % 16))

def hyphenate : List Nat → List Char → List Char
  | [], digits => digits
  | size :: sizes, digits => digits.take size ++ '-' :: hyphenate sizes (digits.drop size)

/-- `str(id)` -/
def uuidText (id : Uuid) : String := String.ofList (hyphenate [8, 4, 4, 4] (uuidDigits id))

/-- Hyphens only make a text longer, by induction on the groups. -/
theorem length_le_hyphenate (sizes : List Nat) (digits : List Char)
    : digits.length ≤ (hyphenate sizes digits).length := by
  induction sizes generalizing digits with
  | nil => exact Nat.le_refl _
  | cons size sizes ih =>
      have later := ih (digits.drop size)
      rw [List.length_drop] at later
      rw [hyphenate, List.length_append, List.length_cons, List.length_take]
      omega

/-- A hyphen for each group, by induction on the groups. -/
theorem hyphenate_length_le (sizes : List Nat) (digits : List Char)
    : (hyphenate sizes digits).length ≤ digits.length + sizes.length := by
  induction sizes generalizing digits with
  | nil => exact Nat.le_refl _
  | cons size sizes ih =>
      have later := ih (digits.drop size)
      rw [List.length_drop] at later
      rw [hyphenate, List.length_append, List.length_cons, List.length_take, List.length_cons]
      omega

theorem length_uuidText_le (id : Uuid) : (uuidText id).toList.length ≤ 36 := by
  have long := hyphenate_length_le [8, 4, 4, 4] (uuidDigits id)
  rw [uuidDigits, List.length_map, List.length_range] at long
  rwa [uuidText, String.toList_ofList]

theorem uuidText_ne_parent (id : Uuid) : uuidText id ≠ ".." := by
  intro same
  have letters := congrArg (List.length ∘ String.toList) same
  have long := length_le_hyphenate [8, 4, 4, 4] (uuidDigits id)
  have digits : (uuidDigits id).length = 32 := by
    rw [uuidDigits, List.length_map, List.length_range]
  simp only [Function.comp_apply, uuidText, String.toList_ofList] at letters
  have two : ("..".toList).length = 2 := by decide
  omega

end Blockhost
