import Mathlib.Data.Rat.Init

/-! Decoded JSON values and what dynamically typed code does with them. -/

namespace Library

/-- A decoded value; the decoder also accepts the three special floats. -/
inductive Json where
  | null
  | bool (value : Bool)
  | int (value : Int)
  | float (value : Rat)
  | nan
  | infinity (negative : Bool)
  | text (value : String)
  | array (items : List Json)
  | object (fields : List (String × Json))

abbrev Fields := List (String × Json)

def Fields.lookup? (fields : Fields) (name : String) : Option Json :=
  (fields.find? (fun field => field.1 = name)).map Prod.snd

def Fields.get (fields : Fields) (name : String) : Json :=
  (Fields.lookup? fields name).getD .null

namespace Json

def fields? : Json → Option Fields
  | object fields => some fields
  | _ => none

/-- Zero, empty and null values count as false. -/
def truthy : Json → Bool
  | null => false
  | bool value => value
  | int value => value ≠ 0
  | float value => value ≠ 0
  | nan => true
  | infinity _ => true
  | text value => value ≠ ""
  | array items => !items.isEmpty
  | object fields => !fields.isEmpty

/-- The left value, or the right one when the left one counts as false. -/
def orElse (left right : Json) : Json := if left.truthy then left else right

def isText (value : Json) (expected : String) : Bool :=
  match value with
  | text actual => actual = expected
  | _ => false

inductive IntFailure where
  | value
  | overflow
deriving DecidableEq, Repr

/-- Conversion to an integer: floats are truncated, texts are parsed. -/
def toInt (parse : String → Option Int) : Json → Except IntFailure Int
  | bool value => .ok (if value then 1 else 0)
  | int value => .ok value
  | float value => .ok (value.num.tdiv value.den)
  | infinity _ => .error .overflow
  | text value =>
      match parse value with
      | some number => .ok number
      | none => .error .value
  | null | nan | array _ | object _ => .error .value

/-- Comparison with zero, which only numbers have. -/
def positive? : Json → Option Bool
  | bool value => some value
  | int value => some (0 < value)
  | float value => some (0 < value)
  | nan => some false
  | infinity negative => some !negative
  | null | text _ | array _ | object _ => none

end Json

end Library
