/-
  Pools of connections, as far as they are made from a text: which texts are accepted, and what
  is kept of them.  How connections are opened, lent and recycled is left out.
-/
import Rowgate.Address.ConnectionString
import Rowgate.Error

namespace Rowgate

/-- A pool: where it connects to, and how many connections it keeps at most. -/
structure Pool where
  settings : List ConnectionSetting
  maxSize : Nat

namespace Pool

/-- The size of a pool unless told otherwise. -/
def standardSize : Nat := 16

/-- A pool for a connection string.  No connection is made yet. -/
def create (connection : String) (maxSize : Nat) : Except Error Pool :=
  match (ConnectionString.settings? connection).filter (·.all ConnectionSetting.isValid) with
  | some settings => .ok ⟨settings, maxSize⟩
  | none => .error (.connection "invalid connection string")

end Pool

end Rowgate
