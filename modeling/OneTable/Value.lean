import OneTable.Json.Basic
import OneTable.Number.FloatText
import OneTable.Text.Ascii

/-!
# Loosely typed values

A `Value` is what a caller hands in for a column or a condition and what a row holds. Every scalar
but `null` has one text form, `text?`; lists have none of their own.

`ofJson` keeps the shape of a JSON document down to its objects: an object has no meaning as a
column value and is kept as its compact text.
-/

namespace OneTable

inductive Value
  | null
  | bool (b : Bool)
  | int (n : Int64)
  | uint (n : UInt64)
  | float (x : Float)
  | text (s : String)
  | list (items : List Value)

namespace Value

instance : Inhabited Value := ⟨.null⟩

def isNull : Value → Bool
  | .null => true
  | _ => false

def isList : Value → Bool
  | .list _ => true
  | _ => false

/-- Induction on how deep lists stand in a value. -/
@[elab_as_elim]
theorem listInduction {p : Value → Prop} (scalar : ∀ v, v.isList = false → p v)
    (list : ∀ items, (∀ v ∈ items, p v) → p (.list items)) : ∀ v, p v
  | .null => scalar _ rfl
  | .bool _ => scalar _ rfl
  | .int _ => scalar _ rfl
  | .uint _ => scalar _ rfl
  | .float _ => scalar _ rfl
  | .text _ => scalar _ rfl
  | .list items => list items fun v _ => listInduction scalar list v

/-- The text of a scalar other than `null`. -/
def text? : Value → Option String
  | .null => none
  | .bool b => some (if b then "1" else "0")
  | .int n => some (toString n.toInt)
  | .uint n => some (toString n.toNat)
  | .float x => some (Number.plainText x)
  | .text s => some s
  | .list _ => none

/-- The text form is a run of digits. -/
def isDigits (v : Value) : Bool := v.text?.any Text.isDigits

mutual

/-- The text form, with `NULL` for `null` and commas between the items of a list. -/
def display : Value → String
  | .null => "NULL"
  | .list items => ",".intercalate (displays items)
  | v => v.text?.getD ""

def displays : List Value → List String
  | [] => []
  | v :: vs => v.display :: displays vs

end

mutual

/-- The value with its kind, as it appears in messages. -/
def shown : Value → String
  | .null => "Null"
  | .bool b => "Bool(" ++ (if b then "true" else "false") ++ ")"
  | .int n => "Int(" ++ toString n.toInt ++ ")"
  | .uint n => "UInt(" ++ toString n.toNat ++ ")"
  | .float x => "Float(" ++ Number.exactText x ++ ")"
  | .text s => "Text(" ++ Text.quoted s ++ ")"
  | .list items => "List([" ++ ", ".intercalate (showns items) ++ "])"

def showns : List Value → List String
  | [] => []
  | v :: vs => v.shown :: showns vs

end

theorem int64_fits (n : Int64) : -0x8000000000000000 ≤ n.toInt ∧ n.toInt < 0x10000000000000000 := by
  have := n.le_toInt
  have := n.toInt_lt
  omega

mutual

def toJson : Value → Json
  | .null => .null
  | .bool b => .bool b
  | .int n => .integer n.toInt (int64_fits n)
  | .uint n => .integer n.toNat ⟨by omega, by have := n.toNat_lt; omega⟩
  | .float x => Json.ofFloat x
  | .text s => .string s
  | .list items => .array (toJsons items)

def toJsons : List Value → List Json
  | [] => []
  | v :: vs => v.toJson :: toJsons vs

end

/-- An integer of 64 bits, with a sign if it fits that way. -/
def ofInteger (n : Int) (fits : -0x8000000000000000 ≤ n ∧ n < 0x10000000000000000) : Value :=
  if h : n < 0x8000000000000000 then
    .int (Int64.ofIntLE n (by simpa using fits.1)
      (by have : Int64.maxValue.toInt = 0x7fffffffffffffff := by decide
          omega))
  else .uint (UInt64.ofNatLT n.toNat (by have : UInt64.size = 0x10000000000000000 := rfl; omega))

mutual

def ofJson : Json → Value
  | .null => .null
  | .bool b => .bool b
  | .integer n fits => ofInteger n fits
  | .float x => .float x
  | .string s => .text s
  | .array items => .list (ofJsons items)
  | .object members => .text (Json.object members).text

def ofJsons : List Json → List Value
  | [] => []
  | j :: js => ofJson j :: ofJsons js

end

end Value

end OneTable
