/-
  The parameters of one request, and its cache key.
-/
import Rowgate.Query.Group

namespace Rowgate

structure Params where
  table : String
  user : String
  /-- The login token of the user's session. -/
  token : String
  /-- The records to save. -/
  records : List Record
  condition : List QueryGroup
  ids : List String
  /-- Which fields are read; those mapped to `true`. -/
  projection : Keyed Bool
  /-- The direction of each field that rows are ordered by. -/
  order : Keyed String
  /-- The fields to insert or update, if given. -/
  fields : List String
  skip : Int
  limit : Int
deriving DecidableEq

namespace Params

/-- The key of a read in the cache: the table, the JSON texts of condition, order,
    projection and ids, and the page with negative numbers as 0. -/
def hashKey (p : Params) : String :=
  p.table ++ (QueryGroup.listJson p.condition).text ++ (Json.ofKeyed Json.string p.order).text ++
    (Json.ofKeyed Json.bool p.projection).text ++ (Json.ofStrings p.ids).text ++
    "|" ++ toString (max p.skip 0) ++ "|" ++ toString (max p.limit 0)

def toJson (p : Params) : Json :=
  .object [("tableName", .string p.table), ("userId", .string p.user),
    ("token", .string p.token), ("actionParams", Record.listJson p.records),
    ("queryParams", QueryGroup.listJson p.condition), ("recordIds", .ofStrings p.ids),
    ("projectParams", Json.ofKeyed Json.bool p.projection),
    ("sortParams", Json.ofKeyed Json.string p.order), ("tableFields", .ofStrings p.fields),
    ("skip", .number (.whole p.skip)), ("limit", .number (.whole p.limit))]

/-- Reads parameters, their values with `value`; what is absent is empty or 0. -/
def ofJson? (value : Json → Option Value) (j : Json) : Option Params := do
  let int (j : Json) : Option Int := (Json.int64? j).map Int64.toInt
  match ← j.fields? ["tableName", "userId", "token", "actionParams", "queryParams", "recordIds",
      "projectParams", "sortParams", "tableFields", "skip", "limit"] with
  | [table, user, token, records, condition, ids, projection, order, fields, skip, limit] =>
    return {
      table := ← Json.orElse "" Json.string? table
      user := ← Json.orElse "" Json.string? user
      token := ← Json.orElse "" Json.string? token
      records := ← Json.orElse [] (Json.list? (Json.keyed? value)) records
      condition := ← Json.orElse [] (Json.list? (QueryGroup.ofJson? value)) condition
      ids := ← Json.orElse [] (Json.list? Json.string?) ids
      projection := ← Json.orElse .empty (Json.keyed? Json.bool?) projection
      order := ← Json.orElse .empty (Json.keyed? Json.string?) order
      fields := ← Json.orElse [] (Json.list? Json.string?) fields
      skip := ← Json.orElse 0 int skip
      limit := ← Json.orElse 0 int limit }
  | _ => none

end Params

end Rowgate
