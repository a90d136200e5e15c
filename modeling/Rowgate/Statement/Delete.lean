/-
  DELETE statements.
-/
import Rowgate.Statement.Select

namespace Rowgate.Statement

def deleteByIds (table : String) (ids : List String) : Except Error String := do
  let table ← sqlIdent table
  requireIds ids
  return "DELETE FROM " ++ table ++ " WHERE " ++ idField ++ " IN (" ++ Sql.idList ids ++ ")"

def deleteByCondition (table : String) (groups : List QueryGroup) : Except Error String := do
  let table ← sqlIdent table
  return "DELETE FROM " ++ table ++ " " ++ (← Condition.whereClause groups)

/-- Deletes every row. -/
def deleteAll (table : String) : Except Error String := do
  return "DELETE FROM " ++ (← sqlIdent table)

end Rowgate.Statement
