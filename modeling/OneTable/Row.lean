import OneTable.Error
import OneTable.Fields
import OneTable.Value
import OneTable.Text.Blank

/-!
# Rows and typed access to their columns

A row holds the values of a result under the names of its columns, in the order of the result.
Servers report a number as a number or as its text; reading a column as a number takes both, with
blanks around the text. Reading an optional column takes `null` and a missing column for nothing.
-/

namespace OneTable

/-- Why a value cannot be read as wanted. -/
inductive DecodeFault
  | wrongKind (v : Value) (wanted : String)
  | outOfRange (fault : Number.IntegerFault)
  | notInteger (fault : Number.IntegerFault) (s : String)
  | notFloat (fault : Number.FloatFault) (s : String)
  /-- A text that names no truth value, trimmed and in lower case. -/
  | notBool (s : String)
  | missing

def DecodeFault.text : DecodeFault → String
  | .wrongKind v wanted => "cannot read " ++ v.shown ++ " as " ++ wanted
  | .outOfRange fault => fault.message
  | .notInteger fault s => fault.message ++ ": " ++ Text.quoted s
  | .notFloat fault s => fault.message ++ ": " ++ Text.quoted s
  | .notBool s => "cannot read " ++ Text.quoted s ++ " as bool"
  | .missing => "column not present in row"

namespace Value

def asText (v : Value) : Except DecodeFault String :=
  match v.text? with
  | some s => .ok s
  | none => .error (.wrongKind v "text")

def asInt64 : Value → Except DecodeFault Int64
  | .int n => .ok n
  | .uint n =>
    match Number.int64Of? n.toNat with
    | some i => .ok i
    | none => .error (.outOfRange .tooLarge)
  | .bool b => .ok (if b then 1 else 0)
  | .text s => (Number.int64Of (Text.trim s.toList)).mapError (.notInteger · s)
  | v => .error (.wrongKind v "i64")

def asUInt64 : Value → Except DecodeFault UInt64
  | .uint n => .ok n
  | .int n =>
    match Number.uint64Of? n.toInt with
    | some u => .ok u
    | none => .error (.outOfRange .tooSmall)
  | .bool b => .ok (if b then 1 else 0)
  | .text s => (Number.uint64Of (Text.trim s.toList)).mapError (.notInteger · s)
  | v => .error (.wrongKind v "u64")

def asFloat : Value → Except DecodeFault Float
  | .float x => .ok x
  | .int n => .ok n.toFloat
  | .uint n => .ok n.toFloat
  | .text s => (Number.floatOf (Text.trim s.toList)).mapError (.notFloat · s)
  | v => .error (.wrongKind v "f64")

def asBool : Value → Except DecodeFault Bool
  | .bool b => .ok b
  | .int n => .ok (n != 0)
  | .uint n => .ok (n != 0)
  | .text s =>
    match Text.lower (Text.trimmed s) with
    | "1" | "true" => .ok true
    | "0" | "false" | "" => .ok false
    | word => .error (.notBool word)
  | v => .error (.wrongKind v "bool")

/-- Reads `null` as nothing and any other value by `decode`. -/
def asOption {α : Type} (decode : Value → Except DecodeFault α) :
    Value → Except DecodeFault (Option α)
  | .null => .ok none
  | v => (decode v).map some

end Value

abbrev Row := Fields Value

namespace Row

/-- The text of a column, if it is there and has one. -/
def text? (r : Row) (column : String) : Option String := (r.get? column).bind Value.text?

def first? (r : Row) : Option Value := r.values.head?

def failed (column : String) (f : DecodeFault) : Error := .decode column f.text

/-- Reads a column that has to be there. -/
def read {α : Type} (r : Row) (decode : Value → Except DecodeFault α) (column : String) :
    Except Error α :=
  match r.get? column with
  | some v => (decode v).mapError (failed column)
  | none => .error (failed column .missing)

/-- Reads a column that may be missing or `null`. -/
def readOption {α : Type} (r : Row) (decode : Value → Except DecodeFault α) (column : String) :
    Except Error (Option α) :=
  match r.get? column with
  | some v => (v.asOption decode).mapError (failed column)
  | none => .ok none

/-- The row as an object, members in the order of the columns. -/
def toJson (r : Row) : Json := .object (r.toList.map fun (name, v) => (name, v.toJson))

/-- The row as an object, members in ascending order of names. -/
def toSortedJson (r : Row) : Json := .ofMembers (r.toList.map fun (name, v) => (name, v.toJson))

end Row

end OneTable
