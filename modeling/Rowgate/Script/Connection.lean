/-
  Scripted connections of either sort.
-/
import Rowgate.Script.Direct
import Rowgate.Script.Wire

namespace Rowgate.Script

inductive Connection where
  | direct (d : Direct)
  | wire (w : Wire)

/-- What a connection has been asked. -/
inductive Event where
  | direct (e : DirectEvent)
  | wire (e : WireEvent)

namespace Connection

/-- The connection with other replies, and nothing logged. -/
def reload (replies : List Reply) : Connection → Connection
  | direct d => direct { d with replies, log := [] }
  | wire w => wire { w with replies, log := [] }

def log : Connection → List Event
  | direct d => d.log.map .direct
  | wire w => w.log.map .wire

def answer (c : database.Call) : Connection → database.Answer c × Connection
  | direct d =>
    let (a, d) := Direct.answer c d
    (a, direct d)
  | wire w =>
    let (a, w) := Wire.answer c w
    (a, wire w)

end Connection

end Rowgate.Script
