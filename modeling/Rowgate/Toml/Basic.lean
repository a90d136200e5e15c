/-
  TOML values.
-/
import Rowgate.Decimal.Binary

namespace Rowgate

inductive Toml where
  | string (s : String)
  | integer (n : Int)
  | float (x : Double)
  | boolean (b : Bool)
  /-- A date, a time or both, as written. -/
  | dateTime (text : String)
  | array (items : List Toml)
  | table (members : List (String × Toml))

namespace Toml

/-- The member of a name. -/
def member? (members : List (String × Toml)) (name : String) : Option Toml :=
  (members.find? (·.1 = name)).map (·.2)

end Toml

end Rowgate
