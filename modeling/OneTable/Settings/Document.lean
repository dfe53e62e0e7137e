import OneTable.Settings.Expansion
import OneTable.Text.Bytes
import OneTable.Toml.Reader

/-!
# Settings from a document

A TOML document holds settings at its top level or in the table `database`. When there is such a
table, only what is in it counts; elsewhere `database` names the database. A key that is no setting
and a value of another kind than its setting are faults.
-/

namespace OneTable.Settings

def textOf : Toml → Except Fault String
  | .string s => .ok s
  | .moment m => .ok m.text
  | _ => .error .document

def portOf : Toml → Except Fault UInt16
  | .integer n =>
    if 0 ≤ n.toInt ∧ n.toInt < UInt16.size then .ok (UInt16.ofNat n.toInt.toNat) else .error .document
  | _ => .error .document

def flagOf : Toml → Except Fault Bool
  | .boolean b => .ok b
  | _ => .error .document

/-- Sets the field that a key names. -/
def assign (s : Settings) (key : String) (v : Toml) : Except Fault Settings :=
  match key with
  | "host" => (textOf v).map fun t => { s with host := some t }
  | "port" => (portOf v).map fun p => { s with port := some p }
  | "username" => (textOf v).map fun t => { s with username := some t }
  | "password" => (textOf v).map fun t => { s with password := some t }
  | "database" => (textOf v).map fun t => { s with database := some t }
  | "table" => (textOf v).map fun t => { s with table := some t }
  | "primary_key" => (textOf v).map fun t => { s with primaryKey := some t }
  | "persistent" => (flagOf v).map fun b => { s with persistent := b }
  | "logging" => (flagOf v).map fun b => { s with logging := b }
  | _ => .error .document

/-- The entries that hold the settings of a document. -/
def settingsSection (entries : List (String × Toml)) : List (String × Toml) :=
  match entries.find? fun e => e.1 == "database" with
  | some (_, .table inner) => inner
  | _ => entries

def ofEntries (entries : List (String × Toml)) : Except Fault Settings :=
  (settingsSection entries).foldlM (fun s e => s.assign e.1 e.2) {}

/-- The settings in the text of a document. -/
def ofDocument (lookup : String → Option String) (text : String) : Except Fault Settings :=
  match Toml.parse? text with
  | none => .error .document
  | some entries => do
    let s ← ofEntries entries
    let s ← s.expand lookup
    s.check

/-- The settings in the file at a path, given its bytes if there is such a file. -/
def ofFile (lookup : String → Option String) (path : String) (content : Option (List UInt8)) :
    Except Fault Settings :=
  match content with
  | none => .error (.unreadable path .missing)
  | some bytes =>
    match Text.ofBytes? bytes with
    | none => .error (.unreadable path .notText)
    | some text => (ofDocument lookup text).mapError (.inFile path)

end OneTable.Settings
