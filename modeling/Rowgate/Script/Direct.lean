/-
  A scripted connection that takes statements with their values as they are.
-/
import Rowgate.Database
import Rowgate.Script.Reply

namespace Rowgate.Script

/-- A statement as the connection has taken it. -/
inductive DirectEvent where
  | statement (sql : String) (params : List Value)
  | copy (sql typesSql : String) (rows : List (List Value))

structure Direct where
  /-- Whether COPY is supported. -/
  copies : Bool
  replies : List Reply
  log : List DirectEvent

namespace Direct

/-- Takes one statement, answered by `use` of the reply unless that takes longer than
    the limit. -/
def take {α : Type} (limit : Option Span) (event : DirectEvent) (use : Reply → α) (d : Direct) :
    Except Error α × Direct :=
  let (reply, replies) := next d.replies
  let d := { d with replies, log := d.log ++ [event] }
  match limit.filter fun l => l.nanos < reply.delay.nanos with
  | some l => (.error (.timeout l), d)
  | none => (reply.outcome (use reply), d)

def answer : (c : database.Call) → Direct → database.Answer c × Direct
  | .query limit sql params, d => d.take limit (.statement sql params) Reply.resultRows
  | .execute limit sql params, d => d.take limit (.statement sql params) Reply.count
  | .copy limit sql typesSql rows, d =>
    if d.copies then d.take limit (.copy sql typesSql rows) fun _ => .ofNat rows.length
    else (.error (.connection "COPY is not supported by this client"), d)

end Direct

end Rowgate.Script
