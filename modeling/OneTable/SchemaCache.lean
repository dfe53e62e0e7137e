import OneTable.Client
import OneTable.Monitor.Event

/-!
# Known columns of one table

The cache holds the columns of at most one table. Loading a table that it does not hold drops what
it holds and asks the client; an answer without columns is handed on but not kept, and after an
error nothing is kept.
-/

namespace OneTable

structure SchemaCache where
  entry : Option (String × Columns) := none

namespace SchemaCache

variable {σ : Type}

instance : Inhabited SchemaCache := ⟨{}⟩

def isLoadedFor (c : SchemaCache) (table : String) : Bool := c.entry.any fun e => e.1 == table

def columns? (c : SchemaCache) : Option Columns := c.entry.map Prod.snd

/-- The events of dropping what the cache holds. -/
def dropEvents (c : SchemaCache) : List Event := c.entry.toList.map fun e => .cacheDropped e.1

/-- What loading leads to. -/
structure Loaded (σ : Type) where
  result : Except Error Columns
  cache : SchemaCache
  server : σ
  events : List Event

/-- Asks the client for the columns of a table and keeps them, if there are any. -/
def introspect (client : Client σ) (table : String) (server : σ) : Loaded σ :=
  match client.describe table server with
  | (.error e, server) => ⟨.error e, {}, server, []⟩
  | (.ok list, server) =>
    let columns := Columns.ofList list
    ⟨.ok columns, ⟨if columns.isEmpty then none else some (table, columns)⟩, server,
      [.columnsLoaded table columns.size]⟩

/-- The columns of a table, from the cache or else from the client. Without a table there are none,
and none are kept. -/
def load (c : SchemaCache) (client : Client σ) (table : Option String) (server : σ) : Loaded σ :=
  match table with
  | none => ⟨.ok {}, {}, server, c.dropEvents⟩
  | some name =>
    match c.entry with
    | some (loaded, columns) =>
      if loaded = name then ⟨.ok columns, c, server, []⟩
      else
        let l := introspect client name server
        { l with events := c.dropEvents ++ l.events }
    | none => introspect client name server

end SchemaCache

end OneTable
