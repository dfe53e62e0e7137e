import OneTable.Text.Classes

/-!
# Errors

Every operation that can fail fails with an `Error`: its kind says who refused, its text why. The
message puts the kind in front of the text.
-/

namespace OneTable

inductive Error
  /-- The input was refused before any statement was made. -/
  | inputRejected (text : String)
  | connection (text : String)
  /-- The server refused a statement. -/
  | query (text : String)
  | notFound (text : String)
  | uniqueViolation (text : String)
  | foreignKeyViolation (text : String)
  | checkViolation (text : String)
  /-- A column does not hold a value of the wanted kind. -/
  | decode (column text : String)
  | config (text : String)
  | other (text : String)
deriving DecidableEq, Repr

namespace Error

def message : Error → String
  | .inputRejected t => "Input rejected: " ++ t
  | .connection t => "Connection error: " ++ t
  | .query t => "Query error: " ++ t
  | .notFound t => "Not found: " ++ t
  | .uniqueViolation t => "Unique constraint violation: " ++ t
  | .foreignKeyViolation t => "Foreign key violation: " ++ t
  | .checkViolation t => "Check constraint violation: " ++ t
  | .decode c t => "Decode error on column '" ++ c ++ "': " ++ t
  | .config t => "Configuration error: " ++ t
  | .other t => t

def kind : Error → String
  | .inputRejected _ => "InputRejected"
  | .connection _ => "Connection"
  | .query _ => "Query"
  | .notFound _ => "NotFound"
  | .uniqueViolation _ => "UniqueViolation"
  | .foreignKeyViolation _ => "ForeignKeyViolation"
  | .checkViolation _ => "CheckViolation"
  | .decode .. => "Decode"
  | .config _ => "Config"
  | .other _ => "Other"

/-- The text without the kind. -/
def text : Error → String
  | .inputRejected t | .connection t | .query t | .notFound t | .uniqueViolation t
  | .foreignKeyViolation t | .checkViolation t | .decode _ t | .config t | .other t => t

/-- The error with its kind and its parts. -/
def shown : Error → String
  | .decode c t =>
    "Decode \x7b column: " ++ Text.quoted c ++ ", message: " ++ Text.quoted t ++ " \x7d"
  | e => e.kind ++ "(" ++ Text.quoted e.text ++ ")"

def isRejected : Error → Bool
  | .inputRejected _ => true
  | _ => false

def isUniqueViolation : Error → Bool
  | .uniqueViolation _ => true
  | _ => false

def isNotFound : Error → Bool
  | .notFound _ => true
  | _ => false

end Error

/-- Naming the cause of a failure makes no result of it. -/
theorem mapError_eq_ok_iff {ε ε' α : Type} {x : Except ε α} {f : ε → ε'} {a : α} :
    x.mapError f = .ok a ↔ x = .ok a := by
  constructor
  · intro h
    cases x with
    | error e => cases h
    | ok b => cases h; rfl
  · rintro rfl
    rfl

end OneTable
