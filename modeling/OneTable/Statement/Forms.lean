import OneTable.Literal
import OneTable.Options.Basic
import OneTable.Record
import OneTable.Statement.Basic

/-!
# The statements about a table

SELECT, INSERT, UPDATE and DELETE, each written as a whole. Those that read rows and DELETE are never
refused. INSERT is refused when no record holds anything or nothing is known of the columns. UPDATE
needs a condition and at least one column to assign, and an increment a column of an integer type.
-/

namespace OneTable.Table

/-! ### Reading rows

Both statements have the same tail: joins, the condition, the clauses of the options and the final
`;`. -/

/-- What follows the table in a statement that reads rows. -/
def readTail (t : Table) (c : Condition) (o : Options) : String :=
  Statement.spaced (o.joins?.getD "") ++ Statement.spaced (c.compile o.operator t) ++ o.compile ++
    ";"

def findSql (t : Table) (c : Condition) (o : Options) : String :=
  "SELECT " ++ o.projection ++ " FROM " ++ t.quotedName ++ t.readTail c o

/-- The rows that satisfy the condition. -/
def find (t : Table) (c : Condition) (o : Options) : Statement := .ofSql (t.findSql c o)

def countSql (t : Table) (c : Condition) (o : Options) : String :=
  "SELECT COUNT(*)" ++ (match o.selected? with | some s => ", " ++ s | none => "") ++
    " FROM " ++ t.quotedName ++ t.readTail c o

/-- The number of such rows, with a selected expression beside it. -/
def count (t : Table) (c : Condition) (o : Options) : Statement := .ofSql (t.countSql c o)

/-! ### New rows

One tuple per record and one literal per column, in the order of the columns. A column that a record
does not supply gets `NULL` where the server fills it in or allows it, and an empty text elsewhere. -/

def defaultLiteral (c : Column) : String := if c.autoIncrement || c.nullable then "NULL" else "''"

/-- The literal of one column in the tuple of a record. -/
def insertLiteral (t : Table) (r : Record) (c : Column) : String :=
  match r.supplied? c.name with
  | some v => (t.columns.quote v c.name).text
  | none => defaultLiteral c

def tuple (t : Table) (r : Record) : String :=
  "(" ++ ",".intercalate (t.columns.toList.map (t.insertLiteral r)) ++ ")"

def insertSql (t : Table) (rs : List Record) : String :=
  "INSERT INTO " ++ t.quotedName ++ " (" ++
    ",".intercalate (t.columns.names.map Ident.quoted) ++ ") VALUES " ++
    ",".intercalate (rs.map t.tuple) ++ ";"

def insert (t : Table) (rs : List Record) : Except Rejection Statement :=
  if Record.allEmpty rs then .error ⟨t.name, .noRows⟩
  else if t.columns.isEmpty then .error ⟨t.name, .noColumns⟩
  else .ok (.ofSql (t.insertSql rs))

/-! ### Changed rows

Of a record only the columns of the table other than the primary key count. -/

/-- The assignment of one column, if the record has a value for it. -/
def assignment? (t : Table) (r : Record) (c : Column) : Option String :=
  if c.name = t.primaryKey then none
  else
    (r.get? c.name).map fun v =>
      let literal := match v with
        | .null => if c.nullable then "NULL" else "''"
        | v => (t.columns.quote v c.name).text
      Ident.quoted c.name ++ " = " ++ literal

def assignments (t : Table) (r : Record) : List String :=
  t.columns.toList.filterMap (t.assignment? r)

/-- An UPDATE with the given SET list and condition. -/
def updateSql (t : Table) (set clause : String) (o : Options) : String :=
  "UPDATE " ++ t.quotedName ++ " SET " ++ set ++ Statement.spaced clause ++ o.updateTail ++ ";"

def update (t : Table) (c : Condition) (r : Record) (o : Options) : Except Rejection Statement :=
  let clause := c.compile o.operator t
  if clause.toList.isEmpty then .error ⟨t.name, .noCondition⟩
  else match t.assignments r with
    | [] => .error ⟨t.name, .noAssignment⟩
    | as => .ok (.ofSql (t.updateSql (", ".intercalate as) clause o))

/-- What an increment adds: an integer of 64 bits as it is, and one in place of anything else. -/
def amount : Value → Int64
  | .int n => n
  | .uint n => (Number.int64Of? n.toNat).getD 1
  | .text s => (Number.int64Of (Text.trim s.toList)).toOption.getD 1
  | _ => 1

def incrementSql (t : Table) (c : Condition) (column : String) (step : Value) (o : Options) :
    String :=
  let column := Ident.quoted column
  t.updateSql (column ++ " = " ++ column ++ " + " ++ toString (amount step).toInt)
    (c.compile o.operator t) o

def increment (t : Table) (c : Condition) (column : String) (step : Value) (o : Options) :
    Except Rejection Statement :=
  match t.columns.typeOf? column with
  | some .integer => .ok (.ofSql (t.incrementSql c column step o))
  | some _ => .error ⟨t.name, .notInteger⟩
  | none => .error ⟨t.name, .unknownColumn⟩

def deleteSql (t : Table) (c : Condition) (o : Options) : String :=
  "DELETE FROM " ++ t.quotedName ++ Statement.spaced (c.compile o.operator t) ++ o.compile ++ ";"

def delete (t : Table) (c : Condition) (o : Options) : Statement := .ofSql (t.deleteSql c o)

end OneTable.Table
