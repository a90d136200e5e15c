/-
  Conditions as callers give them: groups of items, and the orders and
  projections that go with them.
-/
import Rowgate.Json.Decode
import Rowgate.Value.Json

namespace Rowgate

/-- One condition, `field → operator → value`, with its place in the group and the
    link to the next item. -/
structure QueryItem where
  condition : Keyed (Keyed Value)
  order : Int
  link : String
deriving DecidableEq

/-- A group of items, with its place and the link to the next group. -/
structure QueryGroup where
  name : String
  items : List QueryItem
  order : Int
  link : String
deriving DecidableEq

namespace QueryItem

def toJson (i : QueryItem) : Json :=
  .object [("groupItem", Json.ofKeyed (Json.ofKeyed Value.toJson) i.condition),
    ("groupItemOrder", .number (.whole i.order)), ("groupItemOp", .string i.link)]

/-- Reads an item, its values with `value`; what is absent is empty or 0. -/
def ofJson? (value : Json → Option Value) (j : Json) : Option QueryItem := do
  match ← j.fields? ["groupItem", "groupItemOrder", "groupItemOp"] with
  | [condition, order, link] =>
    return {
      condition := ← Json.orElse .empty (Json.keyed? (Json.keyed? value)) condition
      order := ← Json.orElse 0 Json.int32? order
      link := ← Json.orElse "" Json.string? link }
  | _ => none

end QueryItem

namespace QueryGroup

def toJson (g : QueryGroup) : Json :=
  .object [("groupName", .string g.name), ("groupItems", .array (g.items.map QueryItem.toJson)),
    ("groupOrder", .number (.whole g.order)), ("groupLinkOp", .string g.link)]

def ofJson? (value : Json → Option Value) (j : Json) : Option QueryGroup := do
  match ← j.fields? ["groupName", "groupItems", "groupOrder", "groupLinkOp"] with
  | [name, items, order, link] =>
    return {
      name := ← Json.orElse "" Json.string? name
      items := ← Json.orElse [] (Json.list? (QueryItem.ofJson? value)) items
      order := ← Json.orElse 0 Json.int32? order
      link := ← Json.orElse "" Json.string? link }
  | _ => none

def listJson (groups : List QueryGroup) : Json :=
  .array (groups.map toJson)

end QueryGroup

end Rowgate
