import OneTable.Client
import OneTable.Statement.Kind
import OneTable.Text.Bytes

/-!
# The log of statements

While it is enabled, the log keeps every statement in the order in which they ran, with its outcome:
how many rows came back, how many were changed, or the message of the error, cut to 512 bytes.
Enabling and disabling it leaves the entries alone.
-/

namespace OneTable

inductive Outcome
  | rows (n : Nat)
  | affected (n : UInt64)
  | error (text : String)
deriving DecidableEq, Repr

namespace Outcome

/-- The longest message of an error that is kept whole, in bytes. -/
def errorBudget : Nat := 512

def failed (text : String) : Outcome := .error (Text.abbreviated errorBudget text)

def ofAnswer : Except Error Answer → Outcome
  | .ok (.rows rs) => .rows rs.length
  | .ok (.affected a) => .affected a.rows
  | .error e => failed e.message

def isError : Outcome → Bool
  | .error _ => true
  | _ => false

def display : Outcome → String
  | .rows n => toString n ++ " rows"
  | .affected n => toString n.toNat ++ " affected"
  | .error text => "error: " ++ text

end Outcome

structure LogEntry where
  sql : String
  kind : StatementKind
  /-- How long the statement took, in milliseconds, where that was measured. -/
  elapsed : Option Nat
  outcome : Outcome
deriving DecidableEq, Repr

structure Log where
  enabled : Bool := false
  entries : List LogEntry := []
deriving DecidableEq, Repr

namespace Log

def enable (l : Log) (on : Bool) : Log := { l with enabled := on }

def record (l : Log) (sql : String) (elapsed : Option Nat) (outcome : Outcome) : Log :=
  if l.enabled then { l with entries := l.entries ++ [⟨sql, .ofSql sql, elapsed, outcome⟩] } else l

def clear (l : Log) : Log := { l with entries := [] }

def statements (l : Log) : List String := l.entries.map LogEntry.sql

end Log

end OneTable
