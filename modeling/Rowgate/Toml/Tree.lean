/-
  TOML tables while they are being read.

  A table comes about by its own header, by a header of one of its parts, by a dotted
  key, or in braces.  Which of these it was decides what may be added later:

  * a table has one header at most, and none if dotted keys have made it;
  * dotted keys add to tables that dotted keys have made;
  * nothing is added to a table in braces or to an array of values.
-/
import Rowgate.Toml.Basic

namespace Rowgate.Toml

/-- How a table has come about. -/
inductive Origin where
  | header
  /-- A header names a part of the table. -/
  | passing
  | dotted
deriving DecidableEq

/-- What a name stands for while a document is read. -/
inductive Node where
  | value (v : Toml)
  | table (origin : Origin) (members : List (String × Node))
  /-- An array of tables; the last one is open. -/
  | tables (closed : List (List (String × Node))) (last : List (String × Node))

abbrev Members := List (String × Node)

namespace Members

def find (m : Members) (name : String) : Option Node :=
  (List.find? (·.1 = name) m).map (·.2)

/-- Puts a member in place of one of its name, or at the end. -/
def put : Members → String → Node → Members
  | [], name, n => [(name, n)]
  | (k, x) :: r, name, n => if k = name then (k, n) :: r else (k, x) :: put r name n

/-- Changes the table at a path, `origin` being that of the table to start from.
    Tables that are not there come about; `isKey` tells a dotted key from a header. -/
def change (isKey : Bool) (f : Origin → Members → Option Members) :
    List String → Origin → Members → Option Members
  | [], origin, m => f origin m
  | name :: path, _, m =>
    match m.find name with
    | none =>
      let origin : Origin := if isKey then .dotted else .passing
      (change isKey f path origin []).map fun n => m.put name (.table origin n)
    | some (.table origin n) =>
      if isKey && origin = .header then none
      else (change isKey f path origin n).map fun n => m.put name (.table origin n)
    | some (.tables closed last) =>
      (change isKey f path .header last).map fun last => m.put name (.tables closed last)
    | some (.value _) => none

/-- Adds a value under a dotted key. -/
def define (m : Members) (path : List String) (name : String) (v : Toml) : Option Members :=
  change true (fun origin n =>
    if decide (origin = .dotted) = path.isEmpty || (n.find name).isSome then none
    else some (n.put name (.value v))) path .header m

/-- Opens the table of a header. -/
def openTable (m : Members) (path : List String) (name : String) : Option Members :=
  change false (fun _ n =>
    match n.find name with
    | none => some (n.put name (.table .header []))
    | some (.table .passing parts) => some (n.put name (.table .header parts))
    | _ => none) path .header m

/-- Opens the next table of an array. -/
def openNext (m : Members) (path : List String) (name : String) : Option Members :=
  change false (fun _ n =>
    match n.find name with
    | none => some (n.put name (.tables [] []))
    | some (.tables closed last) => some (n.put name (.tables (closed ++ [last]) []))
    | _ => none) path .header m

end Members

mutual

/-- The finished value of a node. -/
def Node.toToml : Node → Toml
  | .value v => v
  | .table _ m => .table (membersToToml m)
  | .tables closed last => .array (tablesToToml closed ++ [.table (membersToToml last)])

def tablesToToml : List (List (String × Node)) → List Toml
  | [] => []
  | m :: r => .table (membersToToml m) :: tablesToToml r

def membersToToml : List (String × Node) → List (String × Toml)
  | [] => []
  | (k, n) :: r => (k, n.toToml) :: membersToToml r

end

end Rowgate.Toml
