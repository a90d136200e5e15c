/-
  Audit records: who did what to which table, with the rows before and what was
  applied.  Of the sinks there are the fields of a log event and the statement on an
  audit table; where events go and which connection is taken is left out.
-/
import Rowgate.Access.Task
import Rowgate.Database
import Rowgate.Ident
import Rowgate.Value.Json

namespace Rowgate

/-- One audit record. -/
structure AuditEntry where
  table : String
  before : List Record
  after : Json

namespace AuditEntry

def toJson (e : AuditEntry) : Json :=
  .object [("table_name", .string e.table), ("before", Record.listJson e.before),
    ("after", e.after)]

/-- What a sink acknowledges an action with. -/
def acknowledgement (action : Task) : String :=
  action.name ++ " audit recorded"

/-- The fields of an entry as a log event shows them. -/
def event (action : Task) (actor : String) (e : AuditEntry) : List (String × String) :=
  [("action", action.name), ("actor_id", actor), ("table", e.table),
    ("before", (Record.listJson e.before).text), ("after", e.after.text)]

/-- Writes an entry to an audit table at a time. -/
def insert (auditTable : String) (now : Instant) (action : Task) (actor : String)
    (e : AuditEntry) : Database.Action String := do
  let table ← Program.given (sqlIdent auditTable)
  let _ ← Database.execute ("INSERT INTO " ++ table ++
      "(table_name, log_records, new_log_records, log_type, log_by, log_at) " ++
      "VALUES($1, $2, $3, $4, $5, $6)")
    [.string e.table, .string (Record.listJson e.before).text, .string e.after.text,
      .string action.name, .string actor, .timestamp now]
  return acknowledgement action

end AuditEntry

end Rowgate
