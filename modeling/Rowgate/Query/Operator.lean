/-
  The operators of conditions and the links between them.
-/
import Rowgate.Error
import Rowgate.Text.Blank
import Rowgate.Text.Case
import Rowgate.Value

namespace Rowgate

inductive Operator where
  | eq
  | ne
  | lt
  | lte
  | gt
  | gte
  | isIn
  | notIn
  | startsWith
  | endsWith
  | contains
  | notStartsWith
  | notEndsWith
  | notContains
deriving DecidableEq

namespace Operator

def name : Operator → String
  | eq => "eq"
  | ne => "ne"
  | lt => "lt"
  | lte => "lte"
  | gt => "gt"
  | gte => "gte"
  | isIn => "in"
  | notIn => "notIn"
  | startsWith => "startsWith"
  | endsWith => "endsWith"
  | contains => "contains"
  | notStartsWith => "notStartsWith"
  | notEndsWith => "notEndsWith"
  | notContains => "notContains"

/-- The accepted spellings, in lower case. -/
def spellings : List (String × Operator) :=
  [("eq", eq), ("ne", ne), ("neq", ne), ("lt", lt), ("lte", lte), ("gt", gt), ("gte", gte),
    ("in", isIn), ("notin", notIn), ("nin", notIn), ("startswith", startsWith),
    ("endswith", endsWith), ("contains", contains), ("includes", contains),
    ("notstartswith", notStartsWith), ("notendswith", notEndsWith),
    ("notcontains", notContains), ("notincludes", notContains)]

/-- A name without hyphens, underscores and spaces, in lower case.  Folding ASCII
    letters is enough: the only other character with an ASCII letter as its lower
    case is the Kelvin sign, and no spelling has a `k`. -/
def normalized (name : String) : String :=
  String.ofList (Text.lower (name.toList.filter fun c => c ≠ '-' && c ≠ '_' && c ≠ ' '))

def parse (name : String) : Except Error Operator :=
  match spellings.find? (·.1 = normalized name) with
  | some (_, op) => .ok op
  | none => .error (.unknownOperator name)

/-- Whether the operator matches texts against a pattern. -/
def isPattern : Operator → Bool
  | startsWith | endsWith | contains | notStartsWith | notEndsWith | notContains => true
  | _ => false

/-- Whether the operator compares with `v`. -/
def accepts (op : Operator) (v : Value) : Bool :=
  match op with
  | eq | ne =>
    match v with
    | .string _ | .bool _ | .integer _ | .float _ | .timestamp _ => true
    | _ => false
  | lt | lte | gt | gte =>
    match v with
    | .integer _ | .float _ | .timestamp _ => true
    | _ => false
  | isIn | notIn =>
    match v with
    | .stringArray _ | .numericArray _ => true
    | _ => false
  | _ =>
    match v with
    | .string _ => true
    | _ => false

/-- The sign of a comparison. -/
def symbol? : Operator → Option String
  | eq => some "="
  | ne => some "<>"
  | lt => some "<"
  | lte => some "<="
  | gt => some ">"
  | gte => some ">="
  | _ => none

end Operator

/-- How a condition is linked to the next one. -/
inductive Link where
  | and
  | or
deriving DecidableEq

namespace Link

/-- `or` in any case and with space around it; everything else is `and`. -/
def parse (s : String) : Link :=
  if Text.sameWord (Text.trim s.toList) "or".toList then .or else .and

def sql : Link → String
  | and => "AND"
  | or => "OR"

end Link

end Rowgate
