import OneTable.Column
import OneTable.Ident
import OneTable.Row
import OneTable.Text.Split

/-!
# Clients and their answers

A statement either returns rows or changes some. A result set that is asked for its effect counts
its rows, and an effect that is asked for its rows has none.

A client runs statements on a server whose state is `σ`. It can also describe the columns of a
table; unless it has a way of its own, it asks with SHOW COLUMNS and reads the rows that come back.
-/

namespace OneTable

/-- What a statement without a result set did. -/
structure Affected where
  rows : UInt64 := 0
  /-- The identity that an INSERT made, when the server reports one. -/
  lastInsertId : Option UInt64 := none
deriving DecidableEq, Repr

inductive Answer
  | rows (rs : List Row)
  | affected (a : Affected)

namespace Answer

instance : Inhabited Answer := ⟨.affected {}⟩

def toRows : Answer → List Row
  | .rows rs => rs
  | .affected _ => []

def effect : Answer → Affected
  | .rows rs => { rows := UInt64.ofNat rs.length }
  | .affected a => a

end Answer

/-- The column that a row of SHOW COLUMNS describes. -/
def Column.ofRow (r : Row) : Except Error Column :=
  match r.text? "Field" with
  | none => .error (.decode "Field" "missing column name in SHOW COLUMNS row")
  | some name =>
    .ok {
      name
      declared := (r.text? "Type").getD ""
      nullable := (r.text? "Null").any (Text.sameIgnoringCase · "YES")
      autoIncrement :=
        (r.text? "Extra").any fun e => Text.occurs "auto_increment".toList (Text.lower e).toList }

structure Client (σ : Type) where
  execute : String → σ → Except Error Answer × σ
  describe : String → σ → Except Error (List Column) × σ

namespace Client

variable {σ : Type}

def describeSql (table : String) : String := "SHOW COLUMNS FROM " ++ Ident.quoted table ++ ";"

/-- Describes a table by running SHOW COLUMNS. -/
def describeBy (execute : String → σ → Except Error Answer × σ) (table : String) (server : σ) :
    Except Error (List Column) × σ :=
  let (answer, server) := execute (describeSql table) server
  (answer.bind fun a => a.toRows.mapM Column.ofRow, server)

def ofExecute (execute : String → σ → Except Error Answer × σ) : Client σ :=
  ⟨execute, describeBy execute⟩

end Client

end OneTable
