/-
  What can go wrong, with the text of each cause and the response code it is
  answered with.

  * `Error.message` is the text of a cause;
  * `Error.responseCode` maps causes to codes; those that name no task take the
    code of the entry point that failed;
  * `Error.tagged` attaches the task that ran a failed statement.
-/
import Rowgate.Problem
import Rowgate.ResponseCode
import Rowgate.Span

namespace Rowgate

/-- The kind of statement that an execution failure belongs to. -/
inductive Stage where
  | insert
  | update
  | delete
  | read
  | save
  | remove
deriving DecidableEq

namespace Stage

def name : Stage → String
  | insert => "insert"
  | update => "update"
  | delete => "delete"
  | read => "read"
  | save => "save"
  | remove => "remove"

def responseCode : Stage → ResponseCode
  | insert => .insertError
  | update => .updateError
  | delete => .deleteError
  | read => .readError
  | save => .saveError
  | remove => .removeError

end Stage

/-- A failure on the way to the database and back. -/
inductive DriverError where
  /-- The server reported an error. -/
  | server (code message : String) (constraint : Option String)
  | parameter (index : Nat)
  | parameterCount (given expected : Nat)
  | column (index : Nat)
  | noColumn (name : String)
  | unexpectedMessage
  | closed
  /-- Any other failure, such as one of the network, by its text. -/
  | other (message : String)
deriving DecidableEq

namespace DriverError

def message : DriverError → String
  | server .. => "db error"
  | parameter n => "error serializing parameter " ++ toString n
  | parameterCount given expected =>
    "expected " ++ toString expected ++ " parameters but got " ++ toString given
  | column n => "error deserializing column " ++ toString n
  | noColumn name => "invalid column \x60" ++ name ++ "\x60"
  | unexpectedMessage => "unexpected message from server"
  | closed => "connection closed"
  | other message => message

end DriverError

inductive Error where
  /-- Malformed or incomplete input. -/
  | params (message : String)
  | unauthenticated (message : String)
  | unauthorized (message : String)
  | tokenExpired (message : String)
  | unknownTask (text : String)
  /-- No condition was given. -/
  | emptyCondition
  /-- Every item of the condition was skipped. -/
  | noValidCondition
  | invalidItem (message : String)
  | unknownOperator (name : String)
  | unsupportedValue (field operator kind : String)
  | invalidIdentifier (message : String)
  /-- Records to create and records to update in one request. -/
  | saveConflict
  | execution (stage : Stage) (message : String)
  | query (e : DriverError)
  | decode (column message : String)
  | validation (problems : List Problem)
  | timeout (limit : Span)
  | pool (message : String)
  | connection (message : String)
  | config (message : String)
  | serialization (message : String)
deriving DecidableEq

namespace Error

/-- The name of the cause. -/
def kind : Error → String
  | params _ => "Params"
  | unauthenticated _ => "Unauthenticated"
  | unauthorized _ => "Unauthorized"
  | tokenExpired _ => "TokenExpired"
  | unknownTask _ => "UnknownTaskType"
  | emptyCondition => "EmptyCondition"
  | noValidCondition => "NoValidCondition"
  | invalidItem _ => "InvalidGroupItem"
  | unknownOperator _ => "UnknownOperator"
  | unsupportedValue .. => "UnsupportedValue"
  | invalidIdentifier _ => "InvalidIdentifier"
  | saveConflict => "SaveConflict"
  | execution .. => "Execution"
  | query _ => "Query"
  | decode .. => "Decode"
  | validation _ => "Validation"
  | timeout _ => "Timeout"
  | pool _ => "Pool"
  | connection _ => "Connection"
  | config _ => "Config"
  | serialization _ => "Serialization"

def message : Error → String
  | params m => "Params error: " ++ m
  | unauthenticated m => "Unauthenticated: " ++ m
  | unauthorized m => "Unauthorized: " ++ m
  | tokenExpired m => "Token expired: " ++ m
  | unknownTask s => "Unknown task type: " ++ s
  | emptyCondition => "where condition is required"
  | noValidCondition => "no valid where condition specified"
  | invalidItem m => "Invalid group item: " ++ m
  | unknownOperator s => "Unknown or unsupported operator: " ++ s
  | unsupportedValue field operator kind =>
    "Unsupported value type " ++ kind ++ " for field '" ++ field ++ "' with operator '" ++
      operator ++ "'"
  | invalidIdentifier m => "Invalid identifier: " ++ m
  | saveConflict => "You may only create or update record(s), not both at the same time"
  | execution stage m => stage.name ++ " error: " ++ m
  | query e => "Query error: " ++ e.message
  | decode column m => "Decode error on column '" ++ column ++ "': " ++ m
  | validation problems => "Validation error: " ++ Problem.listText problems
  | timeout limit => "Query timeout after " ++ limit.text
  | pool m => "Pool error: " ++ m
  | connection m => "Connection error: " ++ m
  | config m => "Config error: " ++ m
  | serialization m => "Serialization error: " ++ m

/-- Whether the caller is not known or not allowed. -/
def isAuth : Error → Bool
  | unauthenticated _ | unauthorized _ | tokenExpired _ => true
  | _ => false

/-- Whether a condition could not be compiled. -/
def isCompile : Error → Bool
  | emptyCondition | noValidCondition | invalidItem _ | unknownOperator _ | unsupportedValue ..
  | invalidIdentifier _ => true
  | _ => false

def isTimeout : Error → Bool
  | timeout _ => true
  | _ => false

/-- The code that a failure is answered with; `fallback` is that of the entry point. -/
def responseCode (fallback : ResponseCode) : Error → ResponseCode
  | unauthenticated _ | unauthorized _ => .unAuthorized
  | tokenExpired _ => .tokenExpired
  | params _ | unknownTask _ | emptyCondition | noValidCondition | invalidItem _
  | unknownOperator _ | unsupportedValue .. | invalidIdentifier _ | validation _ => .paramsError
  | saveConflict => .saveError
  | execution stage _ => stage.responseCode
  | _ => fallback

/-- A driver failure as one of a stage.  What the server reported comes with its
    code and the constraint, if it named one. -/
def ofDriver (stage : Stage) : DriverError → Error
  | .server code message none => execution stage (message ++ " (" ++ code ++ ")")
  | .server code message (some constraint) =>
    execution stage (message ++ " (" ++ code ++ ": " ++ constraint ++ ")")
  | e => execution stage e.message

/-- A failed statement as a failure of its stage.  Timeouts, failures that name a
    stage and failures of decoding stay what they are. -/
def tagged (stage : Stage) : Error → Error
  | query e => ofDriver stage e
  | timeout limit => timeout limit
  | execution s m => execution s m
  | decode column m => decode column m
  | e => execution stage e.message

/-- A failure whose rollback failed too: an execution failure stays one. -/
def withRollback (e rollback : Error) : Error :=
  let suffix := " (rollback failed: " ++ rollback.message ++ ")"
  match e with
  | execution stage m => execution stage (m ++ suffix)
  | e => connection (e.message ++ suffix)

end Error

end Rowgate
