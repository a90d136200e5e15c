/-
  What access rests on: sessions, users, services and the grants of roles.
-/
import Rowgate.Access.Task
import Rowgate.Json.Decode

namespace Rowgate

/-- A login session; it expires at a millisecond from 1970. -/
structure Session where
  user : String
  token : String
  loginName : String
  expire : Int
deriving DecidableEq

def Session.isExpiredAt (s : Session) (now : Int) : Bool :=
  s.expire < now

/-- The user that a request is made for. -/
structure Actor where
  user : String
  groups : List String
  isAdmin : Bool
  isActive : Bool
deriving DecidableEq

/-- An entry of the service catalog. -/
structure Service where
  id : String
  name : String
  category : String
deriving DecidableEq

/-- Whether the service is a table, so that it is checked as a whole. -/
def Service.isTable (s : Service) : Bool :=
  Text.sameWord s.category.toList "table".toList ||
    Text.sameWord s.category.toList "collection".toList

/-- What a group may do on a service: on a table, or on one record. -/
structure Grant where
  service : String
  group : String
  isActive : Bool
  canRead : Bool
  canCreate : Bool
  canUpdate : Bool
  canDelete : Bool
deriving DecidableEq

/-- Whether the grant allows the task. -/
def Grant.permits (g : Grant) : Task → Bool
  | .create => g.canCreate
  | .read => g.canRead
  | .update => g.canUpdate
  | .delete => g.canDelete

def Session.ofJson? (j : Json) : Option Session := do
  match ← j.fields? ["user_id", "token", "login_name", "expire"] with
  | [user, token, loginName, expire] =>
    return {
      user := ← Json.required Json.string? user
      token := ← Json.required Json.string? token
      loginName := ← Json.required Json.string? loginName
      expire := (← Json.required Json.int64? expire).toInt }
  | _ => none

def Session.toJson (s : Session) : Json :=
  .object [("user_id", .string s.user), ("token", .string s.token),
    ("login_name", .string s.loginName), ("expire", .number (.whole s.expire))]

def Actor.ofJson? (j : Json) : Option Actor := do
  match ← j.fields? ["user_id", "groups", "is_admin", "is_active"] with
  | [user, groups, isAdmin, isActive] =>
    return {
      user := ← Json.required Json.string? user
      groups := ← Json.required (Json.list? Json.string?) groups
      isAdmin := ← Json.required Json.bool? isAdmin
      isActive := ← Json.required Json.bool? isActive }
  | _ => none

def Actor.toJson (a : Actor) : Json :=
  .object [("user_id", .string a.user), ("groups", .ofStrings a.groups),
    ("is_admin", .bool a.isAdmin), ("is_active", .bool a.isActive)]

def Service.ofJson? (j : Json) : Option Service := do
  match ← j.fields? ["id", "name", "category"] with
  | [id, name, category] =>
    return {
      id := ← Json.required Json.string? id
      name := ← Json.required Json.string? name
      category := ← Json.required Json.string? category }
  | _ => none

def Service.toJson (s : Service) : Json :=
  .object [("id", .string s.id), ("name", .string s.name), ("category", .string s.category)]

def Grant.ofJson? (j : Json) : Option Grant := do
  match ← j.fields? ["service_id", "group_id", "is_active", "can_read", "can_create",
      "can_update", "can_delete"] with
  | [service, group, isActive, canRead, canCreate, canUpdate, canDelete] =>
    return {
      service := ← Json.required Json.string? service
      group := ← Json.required Json.string? group
      isActive := ← Json.required Json.bool? isActive
      canRead := ← Json.required Json.bool? canRead
      canCreate := ← Json.required Json.bool? canCreate
      canUpdate := ← Json.required Json.bool? canUpdate
      canDelete := ← Json.required Json.bool? canDelete }
  | _ => none

def Grant.toJson (g : Grant) : Json :=
  .object [("service_id", .string g.service), ("group_id", .string g.group),
    ("is_active", .bool g.isActive), ("can_read", .bool g.canRead),
    ("can_create", .bool g.canCreate), ("can_update", .bool g.canUpdate),
    ("can_delete", .bool g.canDelete)]

end Rowgate
