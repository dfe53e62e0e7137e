import OneTable.Fields
import OneTable.Ident
import OneTable.Json.Basic
import OneTable.Text.Ascii
import OneTable.Text.Blank

/-!
# A table and its columns

The columns of a table have distinct names and keep the order in which the server reports them. How
a value is quoted depends on the kind of a column only, which is read off the first word of its
declared type. Statements are about a table: its name, the column that identifies a row, and what is
known of its columns.
-/

namespace OneTable

inductive ColumnType
  | integer
  | decimal
  | string
deriving DecidableEq, Repr

namespace ColumnType

def name : ColumnType → String
  | .integer => "integer"
  | .decimal => "decimal"
  | .string => "string"

/-- The first word of a declared type, in lower case and without length and attributes. -/
def baseName (declared : String) : String :=
  let cs := (Text.trim declared.toList).map Char.toLower
  let base := cs.takeWhile (· ≠ '(')
  String.ofList ((Text.trimStart base).takeWhile fun c => !Text.isBlank c)

def integerNames : List String :=
  ["tinyint", "smallint", "mediumint", "int", "integer", "bigint"]

def decimalNames : List String := ["float", "double", "decimal"]

def ofDeclared (declared : String) : ColumnType :=
  let base := baseName declared
  if integerNames.contains base then .integer
  else if decimalNames.contains base then .decimal
  else .string

end ColumnType

structure Column where
  name : String
  declared : String
  nullable : Bool := false
  autoIncrement : Bool := false
deriving DecidableEq, Repr

def Column.type (c : Column) : ColumnType := .ofDeclared c.declared

/-- What is known of the column as an object. -/
def Column.toJson (c : Column) : Json :=
  .object [("name", .string c.name), ("declared_type", .string c.declared),
    ("nullable", .bool c.nullable), ("auto_increment", .bool c.autoIncrement)]

/-- The columns of one table. -/
structure Columns where
  toList : List Column
  distinct : (toList.map Column.name).Nodup

namespace Columns

@[ext] theorem ext {c d : Columns} (h : c.toList = d.toList) : c = d := by
  cases c; cases d; cases h; rfl

def empty : Columns := ⟨[], List.nodup_nil⟩

instance : Inhabited Columns := ⟨empty⟩

instance : EmptyCollection Columns := ⟨empty⟩

def insert (cs : Columns) (c : Column) : Columns :=
  ⟨upsert Column.name c cs.toList, nodup_upsert _ cs.distinct⟩

/-- A column that is reported twice counts as reported last, in its first place. -/
def ofList (l : List Column) : Columns := l.foldl insert empty

def names (cs : Columns) : List String := cs.toList.map Column.name

def get? (cs : Columns) (name : String) : Option Column := cs.toList.find? fun c => c.name == name

theorem get?_eq_some_iff {cs : Columns} {name : String} {c : Column} :
    cs.get? name = some c ↔ c ∈ cs.toList ∧ c.name = name := by
  constructor
  · intro h
    have hname := List.find?_some h
    exact ⟨List.mem_of_find?_eq_some h, beq_iff_eq.1 hname⟩
  · rintro ⟨hmem, rfl⟩
    exact find?_of_mem cs.distinct hmem

def contains (cs : Columns) (name : String) : Bool := cs.toList.any fun c => c.name == name

def size (cs : Columns) : Nat := cs.toList.length

def isEmpty (cs : Columns) : Bool := cs.toList.isEmpty

def typeOf? (cs : Columns) (name : String) : Option ColumnType := (cs.get? name).map Column.type

end Columns

structure Table where
  name : String
  primaryKey : String := "id"
  columns : Columns := {}

def Table.quotedName (t : Table) : String := Ident.quoted t.name

end OneTable
