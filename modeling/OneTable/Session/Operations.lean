import OneTable.RowIndex
import OneTable.Session.Basic

/-!
# Operations of a session

Reading, counting and changing rows of the table, switching table and database, and statements as
they are given. Operations on one row add `LIMIT 1` unless the options set a limit.
-/

namespace OneTable.Session

variable {σ : Type}

/-! ### Table and database -/

/-- Makes a table the active one; the known columns go only when it was another. -/
def selectTable (table : String) : Action σ Unit := do
  match Ident.fault? table with
  | some f => throw f.toError
  | none =>
    if (← current).table ≠ some table then
      emit [.tableSelected table]
      amend fun s => { s with table := some table }
      dropCache

/-- Switches to a database, and says whether it was another. -/
def selectDatabase (client : Client σ) (database : String) : Action σ Bool := do
  match Ident.fault? database with
  | some f => throw f.toError
  | none =>
    if (← current).database = some database then return false
    else
      let _ ← send client ("USE " ++ Ident.quoted database ++ ";")
      amend fun s => { s with database := some database }
      dropCache
      return true

/-- Forgets the columns of the table and asks for them again. -/
def refreshColumns (client : Client σ) : Action σ Columns := do
  dropCache
  columns client

def columnType (client : Client σ) (column : String) : Action σ (Option ColumnType) := do
  return (← columns client).typeOf? column

/-! ### Reading rows -/

def findAll (client : Client σ) (c : Condition) (o : Options) : Action σ (List Row) := do
  return (← run client fun t => .ok (t.find c o)).toRows

/-- The first row that satisfies the condition. -/
def find (client : Client σ) (c : Condition) (o : Options) : Action σ (Option Row) := do
  return (← findAll client c (o.setDefault "limit" "1")).head?

/-- The first row that satisfies the condition, which there has to be. -/
def findOne (client : Client σ) (c : Condition) (o : Options) : Action σ Row := do
  match ← find client c o with
  | some row => return row
  | none => throw (.notFound "no row matches the condition")

/-- The rows under the texts of the column `index`. -/
def findAllIndexed (client : Client σ) (c : Condition) (o : Options) (index : String) :
    Action σ (Fields Row) := do
  return RowIndex.ofRows (← findAll client c o) index

/-- Rows in random order, at most `limit` of them if there is a limit. -/
def random (client : Client σ) (limit : Option UInt64) (c : Condition) : Action σ (List Row) :=
  let o := match limit with
    | some n => Options.empty.set "limit" (toString n.toNat)
    | none => Options.empty
  findAll client c (o.set "order_by" "RAND()")

/-! ### Counting rows -/

/-- The column under which a count is reported. -/
def countColumn : String := "COUNT(*)"

/-- A count is the first value of a row; a row without values counts nothing. -/
def countOf (v : Option Value) : Except Error UInt64 :=
  match v with
  | some v => v.asUInt64.mapError (Row.failed countColumn)
  | none => .ok 0

def count (client : Client σ) (c : Condition) (o : Options) : Action σ UInt64 := do
  let answer ← run client fun t => .ok (t.count c o)
  match countOf (answer.toRows.head?.bind Row.first?) with
  | .ok n => return n
  | .error e => throw e

/-- The count of a group, and the value it is for. -/
def groupOf (row : Row) : Except Error (Value × UInt64) :=
  (countOf row.first?).map fun n => ((row.values.drop 1).head?.getD .null, n)

/-- Counts per value of the option `group`, which is selected unless something else is. -/
def countGrouped (client : Client σ) (c : Condition) (o : Options) :
    Action σ (List (Value × UInt64)) := do
  match (o.get? "group").or (o.get? "group_by") with
  | none => throw (.inputRejected "count_grouped needs a \x60group\x60 option")
  | some group =>
    let answer ← run client fun t => .ok (t.count c (o.setDefault "select" group))
    match answer.toRows.mapM groupOf with
    | .ok counts => return counts
    | .error e => throw e

/-! ### Changing rows -/

def insert (client : Client σ) (rs : List Record) : Action σ Affected := do
  return (← run client fun t => t.insert rs).effect

def updateAll (client : Client σ) (c : Condition) (r : Record) (o : Options) :
    Action σ Affected := do
  return (← run client fun t => t.update c r o).effect

def updateFirst (client : Client σ) (c : Condition) (r : Record) (o : Options) :
    Action σ Affected :=
  updateAll client c r (o.setDefault "limit" "1")

def increment (client : Client σ) (c : Condition) (column : String) (step : Value) (o : Options) :
    Action σ Affected := do
  return (← run client fun t => t.increment c column step o).effect

def deleteAll (client : Client σ) (c : Condition) (o : Options) : Action σ Affected := do
  return (← run client fun t => .ok (t.delete c o)).effect

def deleteFirst (client : Client σ) (c : Condition) (o : Options) : Action σ Affected :=
  deleteAll client c (o.setDefault "limit" "1")

/-! ### Statements about the whole table -/

/-- Runs a statement as it is given. -/
def query (client : Client σ) (sql : String) : Action σ Answer :=
  if (Text.trim sql.toList).isEmpty then throw (.inputRejected "empty SQL statement")
  else send client sql

def optimize (client : Client σ) (unlogged : Bool) : Action σ Answer := do
  let table ← requireTable
  send client ("OPTIMIZE " ++ (if unlogged then "NO_WRITE_TO_BINLOG " else "") ++ "TABLE " ++
    Ident.quoted table ++ ";")

/-- Removes every row, if the caller means it. -/
def truncate (client : Client σ) (sure : Bool) : Action σ (Option Affected) := do
  if sure then
    let table ← requireTable
    return some (← send client ("TRUNCATE TABLE " ++ Ident.quoted table ++ ";")).effect
  else return none

/-- Empties the log and hands out its statements. -/
def takeLog : Action σ (List String) := do
  let s ← current
  amend fun s => { s with log := s.log.clear }
  return s.log.statements

end OneTable.Session
