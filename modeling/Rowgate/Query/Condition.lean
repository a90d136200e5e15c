/-
  Conditions as SQL predicates.

  Groups are taken in the order of their numbers, and so are the items of each
  group.  An item without a field, an operator or a value is skipped, and so is a
  group with nothing left.  Each text is linked to the next one by its own link.

  * `predicate` is the text of a condition, `whereClause` the same after `WHERE`.
-/
import Rowgate.Ident
import Rowgate.Query.Group
import Rowgate.Query.Operator
import Rowgate.Sql.Literal

namespace Rowgate.Condition

/-- Texts with links between neighbours, each the link of the earlier one. -/
def joinLinked : List (String × Link) → String
  | [] => ""
  | [(text, _)] => text
  | (text, link) :: next :: r => text ++ " " ++ link.sql ++ " " ++ joinLinked (next :: r)

/-- The keyword of a pattern operator, and its pattern around a text. -/
def pattern? (s : String) : Operator → Option (String × String)
  | .startsWith => some ("LIKE", s ++ "%")
  | .endsWith => some ("LIKE", "%" ++ s)
  | .contains => some ("LIKE", "%" ++ s ++ "%")
  | .notStartsWith => some ("NOT LIKE", s ++ "%")
  | .notEndsWith => some ("NOT LIKE", "%" ++ s)
  | .notContains => some ("NOT LIKE", "%" ++ s ++ "%")
  | _ => none

/-- The text that compares a column with a value. -/
def comparison (column field : String) (op : Operator) (v : Value) : Except Error String :=
  if !op.accepts v then .error (.unsupportedValue field op.name v.typeName)
  else
    match op.symbol? with
    | some symbol => (Sql.scalar field op.name v).map fun text => column ++ symbol ++ text
    | none =>
      match v with
      | .string s =>
        match pattern? s op with
        | some (keyword, pattern) => .ok (column ++ " " ++ keyword ++ " " ++ Sql.quote pattern)
        | none => .error (.unsupportedValue field op.name "string")
      | v => do
        match ← Sql.list field op.name v with
        | some list =>
          if list.isEmpty then throw (.invalidItem ("empty value list for field '" ++ field ++ "'"))
          else
            let keyword := if op = .notIn then "NOT IN" else "IN"
            return column ++ " " ++ keyword ++ " (" ++ list ++ ")"
        | none => throw (.unsupportedValue field op.name v.typeName)

/-- The text of an item, or nothing when it is skipped. -/
def item (i : QueryItem) : Except Error (Option String) :=
  match i.condition.entries with
  | [] => .ok none
  | [(field, operators)] =>
    match operators.entries with
    | [] => .ok none
    | [(name, v)] =>
      if Text.allBlank field || Text.allBlank name || v.isNull then .ok none
      else do
        let op ← Operator.parse name
        let column ← sqlIdent field
        return some (← comparison column field op v)
    | entries =>
      .error (.invalidItem ("expected exactly one operator for field '" ++ field ++ "', found " ++
        toString entries.length))
  | entries =>
    .error (.invalidItem ("expected exactly one field per group item, found " ++
      toString entries.length))

/-- The items of a group in ascending order, equal numbers as given. -/
def orderedItems (g : QueryGroup) : List QueryItem :=
  g.items.mergeSort fun a b => a.order ≤ b.order

/-- The groups in ascending order, equal numbers as given. -/
def orderedGroups (groups : List QueryGroup) : List QueryGroup :=
  groups.mergeSort fun a b => a.order ≤ b.order

/-- The texts that are not skipped, with their links. -/
def survivors {α : Type} (text : α → Except Error (Option String)) (link : α → String) :
    List α → Except Error (List (String × Link))
  | [] => .ok []
  | x :: r => do
    match ← text x with
    | some s => return (s, Link.parse (link x)) :: (← survivors text link r)
    | none => survivors text link r

/-- The text of a group in parentheses, or nothing when all its items are skipped. -/
def group (g : QueryGroup) : Except Error (Option String) := do
  match ← survivors item QueryItem.link (orderedItems g) with
  | [] => return none
  | parts => return some ("(" ++ joinLinked parts ++ ")")

def predicate (groups : List QueryGroup) : Except Error String :=
  if groups.isEmpty then .error .emptyCondition
  else do
    match ← survivors group QueryGroup.link (orderedGroups groups) with
    | [] => throw .noValidCondition
    | parts => return joinLinked parts

def whereClause (groups : List QueryGroup) : Except Error String :=
  (predicate groups).map ("WHERE " ++ ·)

end Rowgate.Condition
