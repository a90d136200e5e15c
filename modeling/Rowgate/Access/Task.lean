/-
  The tasks that access is checked for.
-/
import Rowgate.Error
import Rowgate.Text.Blank
import Rowgate.Text.Case

namespace Rowgate

inductive Task where
  | create
  | read
  | update
  | delete
deriving DecidableEq

namespace Task

def name : Task → String
  | create => "create"
  | read => "read"
  | update => "update"
  | delete => "delete"

def byName : List (String × Task) :=
  [create, read, update, delete].map fun t => (t.name, t)

/-- Whether the task can be allowed record by record. -/
def isRecordScoped : Task → Bool
  | create => false
  | _ => true

/-- Reads a task in any case and with space around it. -/
def parse (s : String) : Except Error Task :=
  match String.ofList (Text.lower (Text.trim s.toList)) with
  | "create" | "insert" => .ok create
  | "read" => .ok read
  | "update" => .ok update
  | "delete" | "remove" => .ok delete
  | _ => .error (.unknownTask s)

end Task

end Rowgate
