import OneTable.Json.Basic
import OneTable.Monitor.Log
import OneTable.Statement.Basic

/-!
# Events

What the library announces while it works. Each event has a level, a target, a message and fields of
its own. After every statement the hook makes one event of it: at its own level when the statement
went through, as a warning when it failed. A long statement is cut to a number of bytes.
-/

namespace OneTable

inductive Level
  | trace
  | debug
  | info
  | warn
  | error
deriving DecidableEq, Repr

def Level.name : Level → String
  | .trace => "TRACE"
  | .debug => "DEBUG"
  | .info => "INFO"
  | .warn => "WARN"
  | .error => "ERROR"

inductive Event
  | statementRejected (r : Rejection)
  | statementExecuted (level : Level) (kind : StatementKind) (sql result : String)
  | statementFailed (kind : StatementKind) (sql error : String)
  | tableSelected (table : String)
  | cacheDropped (table : String)
  | columnsLoaded (table : String) (count : Nat)
  | poolCreated (host : String) (persistent : Bool)
deriving DecidableEq, Repr

namespace Event

def level : Event → Level
  | .statementRejected _ => .debug
  | .statementExecuted level .. => level
  | .statementFailed .. => .warn
  | .tableSelected _ => .debug
  | .cacheDropped _ => .trace
  | .columnsLoaded .. => .debug
  | .poolCreated .. => .debug

def target : Event → String
  | .tableSelected _ | .cacheDropped _ | .columnsLoaded .. => "liteorm.schema"
  | _ => "liteorm.sql"

def message : Event → String
  | .statementRejected _ => "statement rejected"
  | .statementExecuted .. => "statement executed"
  | .statementFailed .. => "statement failed"
  | .tableSelected _ => "table selected"
  | .cacheDropped _ => "column cache invalidated"
  | .columnsLoaded .. => "loaded column metadata"
  | .poolCreated .. => "created connection pool"

def fields : Event → List (String × Json)
  | .statementRejected r =>
    [("table", .string r.table), ("statement", .string r.reason.statement),
      ("reason", .string r.reason.text)]
  | .statementExecuted _ kind sql result =>
    [("query_type", .string kind.name), ("sql", .string sql), ("result", .string result)]
  | .statementFailed kind sql error =>
    [("query_type", .string kind.name), ("sql", .string sql), ("error", .string error)]
  | .tableSelected table | .cacheDropped table => [("table", .string table)]
  | .columnsLoaded table count => [("table", .string table), ("columns", .ofNat count)]
  | .poolCreated host persistent => [("host", .string host), ("persistent", .bool persistent)]

end Event

structure Hook where
  level : Level := .debug
  /-- The longest statement that is announced whole, in bytes; none for no limit. -/
  budget : Option Nat := some 200
deriving DecidableEq, Repr

namespace Hook

def announced (h : Hook) (sql : String) : String :=
  match h.budget with
  | some budget => Text.abbreviated budget sql
  | none => sql

def event (h : Hook) (sql : String) (outcome : Outcome) : Event :=
  let kind := StatementKind.ofSql sql
  match outcome with
  | .error text => .statementFailed kind (h.announced sql) text
  | outcome => .statementExecuted h.level kind (h.announced sql) outcome.display

end Hook

end OneTable
