/-
  Models: what the fields of a table's records must be.

  * `Model.applyDefaults` puts the default of every declared field that is
    missing or null;
  * `Model.check` lists the problems of one record, `Model.checkAll` those of a
    batch, each with the number of its record.
-/
import Rowgate.Error
import Rowgate.Model.DataType
import Rowgate.Value

namespace Rowgate

/-- The description of one field. -/
structure FieldRule where
  type : DataType
  required : Bool
  minLength : Option Nat
  maxLength : Option Nat
  minValue : Option Double
  maxValue : Option Double
  default : Option Value
  /-- A further check; its error is the message. -/
  check : Option (Value → Except String Unit)

/-- The fields of one table. -/
structure Model where
  table : String
  fields : Keyed FieldRule

namespace FieldRule

/-- A bound as messages show it. -/
def boundText : Option Nat → String
  | some n => toString n
  | none => "-"

/-- The problem of a text's length, counted in characters. -/
def lengthProblems (rule : FieldRule) (name : String) : Value → List Problem
  | .string s =>
    let n := s.length
    if rule.minLength.any (n < ·) || rule.maxLength.any (· < n) then
      [⟨name, .length, "Length of field " ++ name ++ " must be within [" ++
        boundText rule.minLength ++ ", " ++ boundText rule.maxLength ++ "], got " ++ toString n,
        none⟩]
    else []
  | _ => []

/-- The problem of a number's size. -/
def rangeProblems (rule : FieldRule) (name : String) (v : Value) : List Problem :=
  match v.double? with
  | some x =>
    if rule.minValue.any x.lt || rule.maxValue.any (·.lt x) then
      [⟨name, .range, "Value of field " ++ name ++ " is out of range: " ++ x.text, none⟩]
    else []
  | none => []

/-- The problem that the further check finds. -/
def customProblems (rule : FieldRule) (name : String) (v : Value) : List Problem :=
  match rule.check with
  | none => []
  | some check =>
    match check v with
    | .ok _ => []
    | .error message => [⟨name, .custom "custom", message, none⟩]

/-- The problems of a value; one of the wrong type is not looked at further. -/
def problems (rule : FieldRule) (name : String) (v : Value) : List Problem :=
  let others :=
    rule.lengthProblems name v ++ rule.rangeProblems name v ++ rule.customProblems name v
  match DataType.infer v with
  | some actual =>
    if rule.type.accepts actual v then others
    else
      [⟨name, .type, "Invalid type for field " ++ name ++ ": expected " ++ rule.type.label ++
        ", got " ++ actual.label, none⟩]
  | none => others

/-- The problem of a value that is not there. -/
def missing (rule : FieldRule) (name : String) : List Problem :=
  if rule.required then
    [⟨name, .required, "Value is required for field " ++ name ++ ". Can't be Null", none⟩]
  else []

end FieldRule

namespace Model

/-- The record with one default put in, if its field is missing or null. -/
def applyDefault (record : Record) (name : String) (rule : FieldRule) : Record :=
  match rule.default with
  | some v => if (record.get? name).all Value.isNull then record.insert name v else record
  | none => record

def applyDefaults (m : Model) (record : Record) : Record :=
  m.fields.entries.foldl (fun r e => applyDefault r e.1 e.2) record

/-- The problems of keys that the model does not declare; the id needs none. -/
def unknownKeys (m : Model) (record : Record) : List Problem :=
  (record.keys.filter fun k => k ≠ "id" && !m.fields.contains k).map fun k =>
    ⟨k, .unknownField, "Invalid key: " ++ k ++ " is not defined in the model", none⟩

/-- The problems of one field.  In a partial record an absent field is none. -/
def fieldProblems (isPartial : Bool) (record : Record) (name : String) (rule : FieldRule) :
    List Problem :=
  match record.get? name with
  | none => if isPartial then [] else rule.missing name
  | some .null => rule.missing name
  | some v => rule.problems name v

def check (m : Model) (isPartial : Bool) (record : Record) : List Problem :=
  m.unknownKeys record ++
    m.fields.entries.flatMap fun e => fieldProblems isPartial record e.1 e.2

/-- The problems of a batch, each with the number of its record. -/
def problemsOfAll (m : Model) (isPartial : Bool) (records : List Record) : List Problem :=
  records.zipIdx.flatMap fun (r, i) => (m.check isPartial r).map (·.inRecord (i + 1))

def checkAll (m : Model) (isPartial : Bool) (records : List Record) : Except Error Unit :=
  match m.problemsOfAll isPartial records with
  | [] => .ok ()
  | problems => .error (.validation problems)

end Model

end Rowgate
