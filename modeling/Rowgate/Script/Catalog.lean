/-
  An access store in memory, with calls that are made to fail.
-/
import Rowgate.Access.Check

namespace Rowgate

/-- The name of a call. -/
def AccessCall.name : AccessCall → String
  | findSession .. => "find_session"
  | deleteSession .. => "delete_session"
  | findActor _ => "find_actor"
  | findService _ => "find_service"
  | roleGrants .. => "role_grants"
  | countOwned .. => "count_owned"

namespace Script

/-- That a record of a table was created by a user. -/
structure Ownership where
  table : String
  id : String
  owner : String

structure Catalog where
  sessions : List Session
  actors : List Actor
  services : List Service
  grants : List Grant
  owners : List Ownership
  /-- The names of the calls that fail. -/
  failing : List String
  log : List AccessCall

namespace Catalog

/-- What a call answers with `a`, if it does not fail. -/
def unlessFailing {α : Type} (k : Catalog) (c : AccessCall) (a : α) : Except Error α :=
  if k.failing.contains c.name then .error (.connection (c.name ++ " failed")) else .ok a

def isSessionOf (user token : String) (s : Session) : Bool :=
  s.user = user && s.token = token

/-- The catalog after a call: a session is deleted, if that does not fail. -/
def after (k : Catalog) (c : AccessCall) : Catalog :=
  let k := { k with log := k.log ++ [c] }
  match c with
  | .deleteSession user token =>
    if k.failing.contains c.name then k
    else { k with sessions := k.sessions.filter fun s => !isSessionOf user token s }
  | _ => k

def answer : (c : accessStore.Call) → Catalog → accessStore.Answer c × Catalog
  | c@(.findSession user token), k =>
    (k.unlessFailing c (k.sessions.find? (isSessionOf user token)), k.after c)
  | c@(.deleteSession user token), k =>
    (k.unlessFailing c (k.sessions.countP (isSessionOf user token)), k.after c)
  | c@(.findActor user), k => (k.unlessFailing c (k.actors.find? (·.user = user)), k.after c)
  | c@(.findService name), k => (k.unlessFailing c (k.services.find? (·.name = name)), k.after c)
  | c@(.roleGrants services groups), k =>
    (k.unlessFailing c (k.grants.filter fun g =>
      g.isActive && services.contains g.service && groups.contains g.group), k.after c)
  | c@(.countOwned table ids user), k =>
    (k.unlessFailing c (k.owners.countP fun o =>
      o.table = table && o.owner = user && ids.contains o.id), k.after c)

end Catalog

end Script

end Rowgate
