/-
  A scripted connection that speaks the extended protocol: every statement is
  prepared, its parameters are bound to the types that the server names, and it is
  executed.

  The connection has a time of its own, and the server takes one thing after the
  other.  A call that runs into its limit is given up, but the server goes on with
  it; what has been sent in the meantime is taken when it is done.

  A COPY that the server refuses leaves an answer behind that the next statement
  takes for its own.  That statement fails, and the connection is closed.
-/
import Rowgate.Column.Encode
import Rowgate.Database
import Rowgate.Script.Reply

namespace Rowgate.Script

/-- What goes over the wire. -/
inductive WireEvent where
  | prepare (sql : String)
  | execute (sql : String) (params : List Cell)
  /-- The bytes of a COPY. -/
  | stream (bytes : List UInt8)

/-- Whether the answers of a connection still belong to its statements. -/
inductive WireState where
  | ready
  | shifted
  | closed
deriving DecidableEq

structure Wire where
  state : WireState
  /-- The time in nanoseconds. -/
  now : Nat
  /-- The time from which on the server takes what it is sent. -/
  busyUntil : Nat
  /-- The statements to prepare that nobody waits for any more. -/
  waiting : List String
  replies : List Reply
  log : List WireEvent

namespace Wire

def fresh : Wire := ⟨.ready, 0, 0, [], [], []⟩

/-- The end of a call that begins now. -/
def deadline (limit : Option Span) (w : Wire) : Option (Span × Nat) :=
  limit.map fun l => (l, w.now + l.nanos.val)

/-- The time passes until `time`, or until the end of the call if that comes first. -/
def wait (deadline : Option (Span × Nat)) (time : Nat) (w : Wire) : Except Error Unit × Wire :=
  match deadline.filter fun d => d.2 < time with
  | some (limit, stop) => (.error (.timeout limit), { w with now := stop })
  | none => (.ok (), { w with now := max w.now time })

/-- The server prepares a statement. -/
def takePrepare (sql : String) (w : Wire) : Reply × Wire :=
  let (reply, replies) := next w.replies
  (reply, { w with replies, log := w.log ++ [.prepare sql] })

/-- The number after every dollar sign of a text. -/
def placeholderNumbers : List Char → List Nat
  | [] => []
  | '$' :: r => ((Text.digits? (r.takeWhile Char.isDigit)).toList) ++ placeholderNumbers r
  | _ :: r => placeholderNumbers r

/-- The number of parameters of a statement. -/
def parameterCount (sql : String) : Nat :=
  (placeholderNumbers sql.toList).foldl max 0

/-- The values at their types.  The error names the first one that cannot be bound. -/
def bind (values : List (Value × ColumnType)) : Except Error (List Cell) :=
  values.zipIdx.mapM fun ((v, t), i) =>
    match v.encode? t with
    | some cell => .ok cell
    | none => .error (.query (.parameter i))

/-- The parameters of a prepared statement. -/
def bindParameters (reply : Reply) (sql : String) (params : List Value) :
    Except Error (List Cell) :=
  let count := parameterCount sql
  if params.length = count then
    bind (params.zipIdx.map fun (v, i) => (v, reply.parameterType i))
  else .error (.query (.parameterCount params.length count))

/-- Prepares a statement; the reply is the one to its execution. -/
def prepare (deadline : Option (Span × Nat)) (sql : String) (w : Wire) :
    Except Error Reply × Wire :=
  match w.state with
  | .ready =>
    match w.wait deadline w.busyUntil with
    | (.error e, w) => (.error e, { w with waiting := w.waiting ++ [sql] })
    | (.ok _, w) =>
      let w := w.waiting.foldl (fun w sql => (w.takePrepare sql).2) { w with waiting := [] }
      let (reply, w) := w.takePrepare sql
      (.ok reply, w)
  | .shifted =>
    (.error (.query .unexpectedMessage),
      { w with state := .closed, log := w.log ++ [.prepare sql] })
  | .closed => (.error (.query .closed), w)

/-- Prepares a statement, sends it with its parameters, and waits for the reply. -/
def submit (deadline : Option (Span × Nat)) (sql : String) (params : List Value) (w : Wire) :
    Except Error Reply × Wire :=
  match w.prepare deadline sql with
  | (.error e, w) => (.error e, w)
  | (.ok reply, w) =>
    match bindParameters reply sql params with
    | .error e => (.error e, w)
    | .ok cells =>
      let w := { w with
        busyUntil := w.now + reply.delay.nanos.val
        log := w.log ++ [WireEvent.execute sql cells] }
      match w.wait deadline w.busyUntil with
      | (.error e, w) => (.error e, w)
      | (.ok _, w) => (.ok { reply with failure := none }, w)

/-- Executes a statement, answered by `use` of the reply. -/
def execute {α : Type} (limit : Option Span) (sql : String) (params : List Value)
    (use : Reply → α) (w : Wire) : Except Error α × Wire :=
  match w.submit (w.deadline limit) sql params with
  | (.error e, w) => (.error e, w)
  | (.ok reply, w) => (reply.outcome (use reply), w)

/-- A value of a COPY: its length and its bytes, or a length of -1. -/
def copiedCell : Cell → List UInt8
  | none => Bytes.ofInt 4 (-1)
  | some bytes => Bytes.counted bytes

/-- The bytes of a COPY: a signature, two empty words, the rows, and an end mark. -/
def copiedBytes (rows : List (List Cell)) : List UInt8 :=
  [0x50, 0x47, 0x43, 0x4F, 0x50, 0x59, 0x0A, 0xFF, 0x0D, 0x0A, 0] ++ Bytes.ofNat 4 0 ++
    Bytes.ofNat 4 0 ++
    rows.flatMap (fun row => Bytes.ofNat 2 row.length ++ row.flatMap copiedCell) ++
    Bytes.ofInt 2 (-1)

/-- Copies rows: the types come from a query that is only prepared.  When a value
    cannot be bound, nothing is copied. -/
def copy (limit : Option Span) (sql typesSql : String) (rows : List (List Value)) (w : Wire) :
    Except Error UInt64 × Wire :=
  let deadline := w.deadline limit
  match w.prepare deadline typesSql with
  | (.error e, w) => (.error e, w)
  | (.ok described, w) =>
    match w.submit deadline sql [] with
    | (.error e, w) => (.error e, w)
    | (.ok reply, w) =>
      match reply.outcome () with
      | .error e => (.error e, { w with state := .shifted })
      | .ok _ =>
        let types := (described.columns.getD []).map Column.type
        match rows.mapM fun row => bind (row.zip types) with
        | .error e => (.error e, w)
        | .ok cells => (.ok reply.count, { w with log := w.log ++ [.stream (copiedBytes cells)] })

def answer : (c : database.Call) → Wire → database.Answer c × Wire
  | .query limit sql params, w => w.execute limit sql params Reply.resultRows
  | .execute limit sql params, w => w.execute limit sql params Reply.count
  | .copy limit sql typesSql rows, w => w.copy limit sql typesSql rows

end Wire

end Rowgate.Script
