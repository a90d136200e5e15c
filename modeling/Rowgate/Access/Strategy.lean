/-
  The strategies of the access decision.  Each permits, denies, or leaves the
  decision to the next one of the chain.
-/
import Rowgate.Access.Grant

namespace Rowgate

/-- What one strategy says. -/
inductive Verdict where
  | permit (reason : String)
  | deny (reason : String)
  | pass
deriving DecidableEq

/-- What the strategies look at.  Grants and ownership are there once loaded. -/
structure AccessContext where
  actor : Actor
  task : Task
  /-- The service id of the table, if it is in the catalog. -/
  tableId : Option String
  ids : List String
  grants : Option (List Grant)
  owner : Option Bool

namespace AccessContext

def loadedGrants (c : AccessContext) : List Grant :=
  c.grants.getD []

/-- The services whose grants matter: every record, then the table. -/
def serviceIds (c : AccessContext) : List String :=
  c.ids ++ c.tableId.toList

end AccessContext

/-- Whether there is a grant on the table and all of them allow the task. -/
def tablePermitted (task : Task) (tableId : Option String) (grants : List Grant) : Bool :=
  match tableId with
  | none => false
  | some id =>
    let own := grants.filter (·.service = id)
    !own.isEmpty && own.all (·.permits task)

/-- Whether every record has a grant that allows the task; for tasks that go record by
    record, and at least one record. -/
def recordPermitted (task : Task) (ids : List String) (grants : List Grant) : Bool :=
  task.isRecordScoped && !ids.isEmpty &&
    ids.all fun id => grants.any fun g => g.service = id && g.permits task

inductive Strategy where
  | activeAccount
  | adminOverride
  | rolePresence
  | ownership
  | tableRole
  | recordRole
deriving DecidableEq

namespace Strategy

/-- The strategies in the order they are asked. -/
def chain : List Strategy :=
  [activeAccount, adminOverride, rolePresence, ownership, tableRole, recordRole]

def evaluate (c : AccessContext) : Strategy → Verdict
  | activeAccount => if c.actor.isActive then .pass else .deny "user account is not active"
  | adminOverride => if c.actor.isAdmin then .permit "admin" else .pass
  | rolePresence =>
    if c.loadedGrants.isEmpty then .deny "no role assignment found for the user's groups" else .pass
  | ownership => if c.owner = some true then .permit "owner" else .pass
  | tableRole =>
    if tablePermitted c.task c.tableId c.loadedGrants then .permit "table role" else .pass
  | recordRole =>
    if recordPermitted c.task c.ids c.loadedGrants then .permit "record role" else .pass

end Strategy

end Rowgate
