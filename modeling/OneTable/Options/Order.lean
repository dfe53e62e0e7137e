import OneTable.Text.Ascii
import OneTable.Text.Blank
import OneTable.Text.Split

/-!
# Order lists

A list of columns to sort by, between commas, each with `ASC` or `DESC` behind it in any case or
with neither. Columns are put between back-quotes, except `RAND()` and those that hold a back-quote
already.
-/

namespace OneTable.Order

/-- The characters between commas, without blanks around them and without the empty ones. -/
def items (cs : List Char) : List (List Char) :=
  ((Text.pieces (· == ',') cs).map Text.trim).filter fun item => !item.isEmpty

def isDirection (word : List Char) : Bool :=
  let word := word.map Char.toUpper
  word == ['A', 'S', 'C'] || word == ['D', 'E', 'S', 'C']

/-- The column of an item, and the direction in upper case if it names one. -/
def column (item : List Char) : List Char × Option (List Char) :=
  match Text.splitLast? Text.isBlank item with
  | some (before, word) =>
    if isDirection word then (Text.trim before, some (word.map Char.toUpper)) else (item, none)
  | none => (item, none)

/-- The column is written as it stands. -/
def standsBare (column : List Char) : Bool :=
  column.map Char.toUpper == ['R', 'A', 'N', 'D', '(', ')'] || column.contains '\x60'

def compileItem (item : List Char) : List Char :=
  let (name, direction) := column item
  let name := if standsBare name then name else '\x60' :: name ++ ['\x60']
  match direction with
  | some word => name ++ ' ' :: word
  | none => name

def compileChars (cs : List Char) : List Char :=
  [',', ' '].intercalate ((items cs).map compileItem)

/-- The list as it stands behind ORDER BY. -/
def compile (order : String) : String := String.ofList (compileChars order.toList)

end OneTable.Order
