import OneTable.Settings.Basic

/-!
# References to variables in settings

In a text, `$` with a name in braces stands for the value of a variable. A text is gone through once
from left to right, and values are not gone through again. The first reference that cannot be
replaced is the fault.
-/

namespace OneTable.Settings

/-- The value of the variable that a reference names. -/
def resolve (lookup : String → Option String) (key : String) : Except Fault String :=
  if key.toList.isEmpty then .error .emptyReference
  else match lookup key with
    | some value => .ok value
    | none => .error (.unset key)

/-- A text with its references replaced; `key` holds the characters of the name that is being read,
the last first, and is `none` outside of references. -/
def expandFrom (lookup : String → Option String) :
    (key : Option (List Char)) → List Char → Except Fault (List Char)
  | none, [] => .ok []
  | none, '$' :: '\x7b' :: cs => expandFrom lookup (some []) cs
  | none, c :: cs => (expandFrom lookup none cs).map (c :: ·)
  | some key, [] => .error (.unterminated (String.ofList key.reverse))
  | some key, c :: cs =>
    if c = '\x7d' then do
      let value ← resolve lookup (String.ofList key.reverse)
      (expandFrom lookup none cs).map (value.toList ++ ·)
    else expandFrom lookup (some (c :: key)) cs

def expandText (lookup : String → Option String) (s : String) : Except Fault String :=
  (expandFrom lookup none s.toList).map String.ofList

/-- Replaces the references in every text of the settings, in the order of the fields. -/
def expand (lookup : String → Option String) (s : Settings) : Except Fault Settings := do
  let host ← s.host.mapM (expandText lookup)
  let username ← s.username.mapM (expandText lookup)
  let password ← s.password.mapM (expandText lookup)
  let database ← s.database.mapM (expandText lookup)
  let table ← s.table.mapM (expandText lookup)
  let primaryKey ← s.primaryKey.mapM (expandText lookup)
  return { s with host, username, password, database, table, primaryKey }

end OneTable.Settings
