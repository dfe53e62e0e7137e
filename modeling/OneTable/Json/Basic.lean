import OneTable.Number.Shortest
import OneTable.Text.Classes

/-!
# JSON values and their compact text

Integers that fit 64 bits, with or without a sign, are kept as integers; every other number is a
floating-point number and shows it by a point or an exponent. Members of an object are written in
the order in which they are held.
-/

namespace OneTable

inductive Json
  | null
  | bool (b : Bool)
  | integer (n : Int) (fits : -0x8000000000000000 ≤ n ∧ n < 0x10000000000000000)
  | float (x : Float)
  | string (s : String)
  | array (items : List Json)
  | object (members : List (String × Json))

namespace Json

instance : Inhabited Json := ⟨.null⟩

/-- Without an exponent from `10 ^ -5` on and below `10 ^ 16`. -/
def numberStyle : Number.Style := ⟨fun e => -5 ≤ e && e < 16, true, true, .even⟩

/-- A number, or `null` for what is none or is infinite. -/
def ofFloat (x : Float) : Json := if x.isFinite then .float x else .null

def ofNat (n : Nat) : Json :=
  if h : n < 0x10000000000000000 then .integer n ⟨by omega, by omega⟩ else ofFloat n.toFloat

def escapedChar (c : Char) : List Char :=
  match c with
  | '\x22' => ['\\', '\x22']
  | '\\' => ['\\', '\\']
  | '\x08' => ['\\', 'b']
  | '\x0c' => ['\\', 'f']
  | '\n' => ['\\', 'n']
  | '\r' => ['\\', 'r']
  | '\t' => ['\\', 't']
  | c =>
    if c.toNat < 0x20 then
      let ds := Text.hexDigits c.toNat
      ['\\', 'u'] ++ List.replicate (4 - ds.length) '0' ++ ds
    else [c]

def stringText (s : String) : String :=
  String.ofList ('\x22' :: s.toList.flatMap escapedChar ++ ['\x22'])

mutual

/-- The text of a value without any blanks. -/
def text : Json → String
  | .null => "null"
  | .bool true => "true"
  | .bool false => "false"
  | .integer n _ => toString n
  | .float x => numberStyle.render x
  | .string s => stringText s
  | .array items => "[" ++ ",".intercalate (texts items) ++ "]"
  | .object members => "\x7b" ++ ",".intercalate (memberTexts members) ++ "\x7d"

def texts : List Json → List String
  | [] => []
  | j :: js => j.text :: texts js

def memberTexts : List (String × Json) → List String
  | [] => []
  | (name, j) :: rest => (stringText name ++ ":" ++ j.text) :: memberTexts rest

end

/-- Puts a member before the first of a later name, in the place of one of the same name. -/
def putSorted (name : String) (j : Json) : List (String × Json) → List (String × Json)
  | [] => [(name, j)]
  | e :: es =>
    if name == e.1 then (name, j) :: es
    else if name < e.1 then (name, j) :: e :: es
    else e :: putSorted name j es

/-- An object with its members in ascending order of names; the last of one name counts. -/
def ofMembers (members : List (String × Json)) : Json :=
  .object (members.foldl (fun sorted e => putSorted e.1 e.2 sorted) [])

def member? : Json → String → Option Json
  | .object members, name => (members.find? fun e => e.1 == name).map Prod.snd
  | _, _ => none

end Json

end OneTable
