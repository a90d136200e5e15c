/-
  The access check: the session behind a request, then the chain of strategies.

  A problem with the session is an error; a valid session leads to a decision.
  Grants and ownership are looked up only when a strategy needs them.
-/
import Rowgate.Access.Strategy
import Rowgate.Program

namespace Rowgate

/-- The lookups of the access check; `deleteSession` is the only write. -/
inductive AccessCall where
  | findSession (user token : String)
  | deleteSession (user token : String)
  | findActor (user : String)
  | findService (name : String)
  | roleGrants (services groups : List String)
  /-- How many of the records of a table were created by the user. -/
  | countOwned (table : String) (ids : List String) (user : String)

def AccessCall.Answer : AccessCall → Type
  | findSession .. => Except Error (Option Session)
  | deleteSession .. => Except Error Nat
  | findActor .. => Except Error (Option Actor)
  | findService .. => Except Error (Option Service)
  | roleGrants .. => Except Error (List Grant)
  | countOwned .. => Except Error Nat

def accessStore : Interface := ⟨AccessCall, AccessCall.Answer⟩

structure AccessRequest where
  user : String
  token : String
  task : Task
  table : String
  ids : List String
deriving DecidableEq

def AccessRequest.ofJson? (j : Json) : Option AccessRequest := do
  match ← j.fields? ["user_id", "token", "task", "table_name", "record_ids"] with
  | [user, token, task, table, ids] =>
    return {
      user := ← Json.required Json.string? user
      token := ← Json.required Json.string? token
      task := ← Json.required (Json.word? Task.byName) task
      table := ← Json.required Json.string? table
      ids := ← Json.orElse [] (Json.list? Json.string?) ids }
  | _ => none

/-- The decision on a request. -/
structure AccessDecision where
  permitted : Bool
  reason : String
deriving DecidableEq

def AccessDecision.toJson (d : AccessDecision) : Json :=
  .object [("permitted", .bool d.permitted), ("reason", .string d.reason)]

namespace Access

/-- A program on the access store that may fail. -/
abbrev Action (α : Type) := ExceptT Error (Program accessStore) α

def findSession (user token : String) : Action (Option Session) :=
  Program.call (I := accessStore) (.findSession user token)

def findActor (user : String) : Action (Option Actor) :=
  Program.call (I := accessStore) (.findActor user)

def findService (name : String) : Action (Option Service) :=
  Program.call (I := accessStore) (.findService name)

def roleGrants (services groups : List String) : Action (List Grant) :=
  Program.call (I := accessStore) (.roleGrants services groups)

def countOwned (table : String) (ids : List String) (user : String) : Action Nat :=
  Program.call (I := accessStore) (.countOwned table ids user)

/-- Removes a session; whether that worked does not matter. -/
def discardSession (s : Session) : Action Unit :=
  ExceptT.mk do
    let _ ← Program.call (I := accessStore) (.deleteSession s.user s.token)
    return .ok ()

/-- Whether the user created every record; there must be a user and a record. -/
def ownsAll (table : String) (ids : List String) (user : String) : Action Bool := do
  let distinct := Keyed.nameSet ids
  if distinct.isEmpty || user.isEmpty then return false
  else return (← countOwned table distinct user) = distinct.length

/-- What a strategy needs to have loaded. -/
def load (request : AccessRequest) (c : AccessContext) : Strategy → Action AccessContext
  | .rolePresence =>
    if c.grants.isNone then do
      return { c with grants := some (← roleGrants c.serviceIds c.actor.groups) }
    else return c
  | .ownership =>
    if c.owner.isNone then do
      return { c with owner := some (← ownsAll request.table request.ids c.actor.user) }
    else return c
  | _ => return c

/-- The decision of the first strategy that permits or denies. -/
def decide (request : AccessRequest) (c : AccessContext) : List Strategy → Action AccessDecision
  | [] => return ⟨false, "no role grants the requested task"⟩
  | s :: r => do
    let c ← load request c s
    match s.evaluate c with
    | .permit reason => return ⟨true, reason⟩
    | .deny reason => return ⟨false, reason⟩
    | .pass => decide request c r

/-- Checks a request at a time in milliseconds from 1970. -/
def check (now : Int) (request : AccessRequest) : Action AccessDecision := do
  if request.ids.any String.isEmpty then throw (.params "record ids must be non-empty")
  match ← findSession request.user request.token with
  | none => throw (.unauthenticated "no login session found, please login")
  | some session =>
    if session.isExpiredAt now then
      discardSession session
      throw (.tokenExpired "login session has expired, please login again")
    match ← findActor request.user with
    | none => throw (.unauthorized "user account not found")
    | some actor =>
      let service ← findService request.table
      let tableId := (service.filter Service.isTable).map Service.id
      decide request ⟨actor, request.task, tableId, request.ids, none, none⟩ Strategy.chain

end Access

end Rowgate
