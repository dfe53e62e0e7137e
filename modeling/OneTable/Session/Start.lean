import OneTable.Monitor.Event
import OneTable.SchemaCache
import OneTable.Settings.Basic

/-!
# Sessions at rest

A session works on one table of one database. It remembers the columns of the table and has a log
and a hook for the statements it runs. One that is made from settings starts with the database, the
table and the primary key of the settings and logs if they say so; the connection is taken to be to
that database already.
-/

namespace OneTable

structure Session where
  database : Option String := none
  table : Option String := none
  primaryKey : String := "id"
  cache : SchemaCache := {}
  log : Log := {}
  hook : Hook := {}

namespace Session

def ofSettings (s : Settings) : Session := {
  database := s.database
  table := s.table
  primaryKey := s.primaryKey.getD "id"
  log := Log.enable {} s.logging }

/-- Takes a table without looking at its name. -/
def withTable (s : Session) (table : String) : Session :=
  { s with table := some table, cache := {} }

def withPrimaryKey (s : Session) (key : String) : Session := { s with primaryKey := key }

def withLog (s : Session) (on : Bool) : Session := { s with log := s.log.enable on }

def withHook (s : Session) (hook : Hook) : Session := { s with hook }

end Session

end OneTable
