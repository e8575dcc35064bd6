import Blockhost.Database.Schema

/-! Request bodies after validation. A value of one of these types has passed the length
checks of its field.
-/

namespace Blockhost

/-- An error answer of an endpoint. -/
structure HttpError where
  status : Nat
  detail : String
deriving DecidableEq, Repr

def internalError : HttpError := ⟨500, "Internal Server Error"⟩

abbrev WorldName := { name : String // 1 ≤ name.length ∧ name.length ≤ 128 }

abbrev LevelName := { name : String // name.length ≤ 64 }

/-- The server properties of a request that the modelled functions use. -/
structure ServerConfig where
  levelName : Option LevelName := none

structure CreateServerRequest where
  worldName : WorldName
  flavor : ServerFlavor := .bedrock
  mcVersion : Option String := none
  config : Option ServerConfig := none

end Blockhost
