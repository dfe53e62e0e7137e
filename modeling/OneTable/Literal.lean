import OneTable.Column
import OneTable.Value

/-!
# Literals

How values are written into a statement. A text made of digits, points and hyphens alone stands
bare; any other text stands between single quotes, with a backslash before quotes and backslashes
and `\0` for NUL. Truth values are digits, quoted where the column holds strings.
-/

namespace OneTable

namespace Literal

/-- The character that stands around a text. -/
abbrev quote : Char := '\x27'

def isBareChar (c : Char) : Bool := c.isDigit || c == '-' || c == '.'

/-- A text that stands bare in a statement, whatever the type of its column. -/
def isBare (s : String) : Bool := !s.toList.isEmpty && s.toList.all isBareChar

def escapeChar (c : Char) : List Char :=
  match c with
  | '\\' => ['\\', '\\']
  | '\x27' => ['\\', '\x27']
  | '\x22' => ['\\', '\x22']
  | '\x00' => ['\\', '0']
  | c => [c]

/-- The inside of a quoted text. -/
def escape (cs : List Char) : List Char := cs.flatMap escapeChar

def escaped (s : String) : String := String.ofList (escape s.toList)

def ofText (s : String) : String :=
  if isBare s then s else String.ofList (quote :: escape s.toList ++ [quote])

end Literal

namespace Value

mutual

/-- The literal of a value in a column of type `t`. The items of a list inside a list stand side by
side with commas between them. -/
def literal (t : Option ColumnType) : Value → String
  | .null => "NULL"
  | .bool b =>
    let digit := if b then "1" else "0"
    if t = some .string then "'" ++ digit ++ "'" else digit
  | .list items => ",".intercalate (literals t items)
  | v => Literal.ofText (v.text?.getD "")

def literals (t : Option ColumnType) : List Value → List String
  | [] => []
  | v :: vs => v.literal t :: literals t vs

end

theorem literals_eq_map (t : Option ColumnType) (items : List Value) :
    literals t items = items.map (literal t) := by
  induction items with
  | nil => rfl
  | cons v items ih => rw [literals, ih, List.map_cons]

end Value

/-- What a value becomes in a statement: one literal, or one per item of a list. -/
inductive Quoted
  | scalar (literal : String)
  | list (literals : List String)
deriving DecidableEq, Repr

namespace Quoted

def ofValue (t : Option ColumnType) : Value → Quoted
  | .list items => .list (Value.literals t items)
  | v => .scalar (v.literal t)

def toList : Quoted → List String
  | .scalar l => [l]
  | .list ls => ls

def text : Quoted → String
  | .scalar l => l
  | .list ls => ",".intercalate ls

end Quoted

/-- Quotes a value for the column of that name, if there is such a column. -/
def Columns.quote (cs : Columns) (v : Value) (column : Option String) : Quoted :=
  Quoted.ofValue (column.bind cs.typeOf?) v

theorem Columns.text_quote (cs : Columns) (v : Value) (column : Option String) :
    (cs.quote v column).text = v.literal (column.bind cs.typeOf?) := by
  cases v <;> rfl

end OneTable
