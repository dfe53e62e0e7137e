import OneTable.EnvFile
import OneTable.Settings.Address
import OneTable.Text.Ascii

/-!
# Settings from variables

A URL comes first, from a variable of this library or from `DATABASE_URL`; a variable for a single
setting goes before what the URL says. An empty variable of this library counts as unset. Numbers
and flags are read in the order of the fields, and the first that is malformed is the fault.
-/

namespace OneTable.Settings

/-- The value of a variable of this library, unless it is empty. -/
def given? (lookup : String → Option String) (name : String) : Option String :=
  (lookup (variableStart ++ name)).filter fun s => !s.toList.isEmpty

def portFrom (text : String) : Except Fault UInt16 :=
  match Number.readUnsigned (UInt16.size - 1) text.toList with
  | .ok n => .ok (UInt16.ofNat n)
  | .error _ => .error (.badPort text)

/-- A flag is read without regard to case and to the blanks around it. -/
def flagFrom (name text : String) : Except Fault Bool :=
  match Text.lower (Text.trimmed text) with
  | "1" | "true" | "yes" | "on" => .ok true
  | "0" | "false" | "no" | "off" => .ok false
  | word => .error (.badFlag name word)

/-- The settings of the URL, if one is set. -/
def baseFrom (lookup : String → Option String) : Except Fault Settings :=
  match (given? lookup "URL").or (lookup "DATABASE_URL") with
  | some url => ofUrl url
  | none => .ok {}

def fromLookup (lookup : String → Option String) : Except Fault Settings := do
  let base ← baseFrom lookup
  let text (name : String) (field : Option String) : Option String :=
    (given? lookup name).or field
  let port ← match given? lookup "PORT" with
    | some value => (portFrom value).map some
    | none => .ok base.port
  let flag (name : String) (field : Bool) : Except Fault Bool :=
    match given? lookup name with
    | some value => flagFrom name value
    | none => .ok field
  let persistent ← flag "PERSISTENT" base.persistent
  let logging ← flag "LOGGING" base.logging
  let s : Settings := {
    host := text "HOST" base.host
    port
    username := text "USERNAME" base.username
    password := text "PASSWORD" base.password
    database := text "DATABASE" base.database
    table := text "TABLE" base.table
    primaryKey := text "PRIMARY_KEY" base.primaryKey
    persistent
    logging }
  s.check

/-- Settings from an environment, after the file of variables, if there is one, was read. -/
def fromEnvironment (env : Environment) (file : Option String) : Except Fault Settings :=
  let env := match file with
    | some file => EnvFile.load env file
    | none => env
  fromLookup env.lookup?

end OneTable.Settings
