/-
  Answers to requests.
-/
import Rowgate.Error
import Rowgate.Query.Group

namespace Rowgate

/-- What a task did. -/
structure Outcome where
  condition : List QueryGroup
  ids : List String
  count : UInt64
  records : List Record
deriving DecidableEq

structure Response where
  code : ResponseCode
  message : String
  outcome : Outcome
deriving DecidableEq

namespace Outcome

def empty : Outcome := ⟨[], [], 0, []⟩

def toJson (o : Outcome) : Json :=
  .object [("queryParam", QueryGroup.listJson o.condition), ("recordIds", .ofStrings o.ids),
    ("recordCount", .ofNat o.count), ("tableRecords", Record.listJson o.records)]

/-- Reads an outcome; every field must be there. -/
def ofJson? (j : Json) : Option Outcome := do
  match ← j.fields? ["queryParam", "recordIds", "recordCount", "tableRecords"] with
  | [condition, ids, count, records] =>
    return {
      condition := ← Json.required (Json.list? (QueryGroup.ofJson? Value.ofJson?)) condition
      ids := ← Json.required (Json.list? Json.string?) ids
      count := ← Json.required Json.uint64? count
      records := ← Json.required (Json.list? (Json.keyed? Value.ofJson?)) records }
  | _ => none

end Outcome

namespace Response

def success (message : String) (outcome : Outcome) : Response :=
  ⟨.success, message, outcome⟩

/-- A failure, with nothing done. -/
def failure (code : ResponseCode) (message : String) : Response :=
  ⟨code, message, .empty⟩

/-- The answer of an entry point: the message and outcome of a success, or the text
    and code of an error. -/
def ofResult (fallback : ResponseCode) : Except Error (String × Outcome) → Response
  | .ok (message, outcome) => success message outcome
  | .error e => failure (e.responseCode fallback) e.message

/-- The answer again from its code and message; only a success keeps its outcome. -/
def again (r : Response) : Response :=
  if r.code = .success then success r.message r.outcome else failure r.code r.message

def isSuccess (r : Response) : Bool :=
  r.code = .success

def toJson (r : Response) : Json :=
  .object [("code", .string r.code.name), ("message", .string r.message),
    ("value", r.outcome.toJson)]

def ofJson? (j : Json) : Option Response := do
  match ← j.fields? ["code", "message", "value"] with
  | [code, message, outcome] =>
    return {
      code := ← Json.required (Json.word? ResponseCode.byName) code
      message := ← Json.required Json.string? message
      outcome := ← Json.required Outcome.ofJson? outcome }
  | _ => none

end Response

end Rowgate
