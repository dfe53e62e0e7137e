import OneTable.Column
import OneTable.Literal

/-!
# Conditions

Which rows a statement is about: all of them, the row with an id, the rows whose columns equal
given values, or what a fragment of SQL says. `Condition.compile` turns a condition into a WHERE
clause, or into no text at all where it says nothing.

An entry of an equality map is one test. A key of digits is a position, not a column: such an entry
tests the primary key, and is dropped when its value is no number of digits. A list of values is an
IN list; an empty one matches nothing.
-/

namespace OneTable

inductive Condition
  | all
  | byId (id : UInt64)
  | equals (entries : Fields Value)
  | raw (fragment : String)

namespace Condition

instance : Inhabited Condition := ⟨.all⟩

/-- The word between two tests when none is given. -/
def defaultOperator : String := "AND"

def isEmpty : Condition → Bool
  | .all => true
  | .byId _ => false
  | .equals entries => entries.isEmpty
  | .raw fragment => (Text.trim fragment.toList).isEmpty

/-- The test of the primary key against an id. -/
def idTest (t : Table) (id : String) : String := Ident.quoted t.primaryKey ++ " = " ++ id

/-- The test of one entry, if it makes one. -/
def test? (t : Table) (key : String) (value : Value) : Option String :=
  let numeric := Text.isDigits key
  let column := if numeric then t.primaryKey else key
  match value with
  | .list [] => some "1=0"
  | .list items =>
    let literals := (t.columns.quote (.list items) column).toList
    some (Ident.quoted column ++ " IN (" ++ ",".intercalate literals ++ ")")
  | value =>
    if numeric then
      (value.text?.filter Text.isDigits).map (idTest t)
    else
      some (Ident.quoted key ++ " = " ++ (t.columns.quote value key).text)

/-- The tests of the entries that make one, in order. -/
def tests (t : Table) (entries : Fields Value) : List String :=
  entries.toList.filterMap fun e => test? t e.1 e.2

/-- The operator between blanks; a blank one stands for the default. -/
def joiner (operator : String) : String :=
  let op := Text.trimmed operator
  " " ++ (if op.toList.isEmpty then defaultOperator else op) ++ " "

/-- The WHERE clause, or nothing. -/
def compile (c : Condition) (operator : String) (t : Table) : String :=
  match c with
  | .all => ""
  | .byId id => "WHERE " ++ idTest t (toString id.toNat)
  | .raw fragment =>
    let inner := Text.trimmed fragment
    if inner.toList.isEmpty then ""
    else if Text.isDigits inner then "WHERE " ++ idTest t inner
    else "WHERE " ++ fragment
  | .equals entries =>
    match tests t entries with
    | [] => ""
    | ts => "WHERE " ++ (joiner operator).intercalate ts

theorem compile_equals {entries : Fields Value} {operator : String} {t : Table}
    (h : tests t entries ≠ []) :
    (equals entries).compile operator t =
      "WHERE " ++ (joiner operator).intercalate (tests t entries) := by
  rw [compile]
  split
  · rename_i hnone
    exact absurd hnone h
  · rfl

theorem compile_equals_eq_empty_iff {entries : Fields Value} {operator : String} {t : Table} :
    (equals entries).compile operator t = "" ↔ tests t entries = [] := by
  by_cases h : tests t entries = []
  · exact iff_of_true (by rw [compile, h]) h
  · exact iff_of_false (by simp [compile_equals h]) h

/-- What is no empty text begins with its word. -/
theorem compile_eq_where {c : Condition} {operator : String} {t : Table}
    (h : c.compile operator t ≠ "") : ∃ tests, c.compile operator t = "WHERE " ++ tests := by
  cases c with
  | all => exact absurd rfl h
  | byId id => exact ⟨_, rfl⟩
  | raw fragment =>
    rw [compile] at h ⊢
    split
    · rename_i hblank
      rw [if_pos hblank] at h
      exact absurd rfl h
    · split
      · exact ⟨_, rfl⟩
      · exact ⟨_, rfl⟩
  | equals entries => exact ⟨_, compile_equals (mt compile_equals_eq_empty_iff.2 h)⟩

/-- An integer that is no id is taken as a fragment. -/
def ofInt (n : Int) : Condition :=
  match Number.uint64Of? n with
  | some id => .byId id
  | none => .raw (toString n)

def ofFloat (x : Float) : Condition := .raw (Value.float x).display

def ofOption : Option Condition → Condition
  | some c => c
  | none => .all

/-- A number or a text follows the rules for such a scalar, the items of an array are tests of the
primary key, and the members of an object are tests of columns. -/
def ofJson : Json → Condition
  | .null | .bool false => .all
  | .bool true => .byId 1
  | .integer n _ => ofInt n
  | .float x => .raw (Json.float x).text
  | .string s => .raw s
  | .array items =>
    .equals (.ofList ((Value.ofJsons items).zipIdx.map fun (v, i) => (toString i, v)))
  | .object members => .equals (.ofList (members.map fun (name, j) => (name, Value.ofJson j)))

end Condition

end OneTable
