import OneTable.Error
import OneTable.Statement.Kind

/-!
# Statements and refusals

A statement is built as a whole or not at all. A refusal names the table and the reason; the reason
tells which statement it is about.
-/

namespace OneTable

structure Statement where
  sql : String
  kind : StatementKind
deriving DecidableEq, Repr

def Statement.ofSql (sql : String) : Statement := ⟨sql, .ofSql sql⟩

namespace Statement

/-- A clause with one space before it, or nothing for no clause. -/
def spaced (clause : String) : String :=
  if clause.toList.isEmpty then ""
  else if clause.toList.head? == some ' ' then clause
  else " " ++ clause

theorem mem_spaced_iff {c : Char} (hc : c ≠ ' ') (clause : String) :
    c ∈ (spaced clause).toList ↔ c ∈ clause.toList := by
  rw [spaced]
  split
  · rename_i h
    rw [List.isEmpty_iff.1 h]
    exact Iff.rfl
  · split
    · exact Iff.rfl
    · simp [hc]

end Statement

namespace Rejection

inductive Reason
  | noRows
  | noColumns
  | noCondition
  | noAssignment
  | unknownColumn
  | notInteger
deriving DecidableEq, Repr

def Reason.text : Reason → String
  | .noRows => "no input rows"
  | .noColumns => "no column metadata"
  | .noCondition => "refusing to update without a condition"
  | .noAssignment => "no assignable columns in input"
  | .unknownColumn => "unknown column"
  | .notInteger => "column is not integer-typed"

/-- The statement that would have been made. -/
def Reason.statement : Reason → String
  | .noRows | .noColumns => "INSERT"
  | .noCondition | .noAssignment => "UPDATE"
  | .unknownColumn | .notInteger => "INCREMENT"

end Rejection

structure Rejection where
  table : String
  reason : Rejection.Reason
deriving DecidableEq, Repr

def Rejection.toError (r : Rejection) : Error :=
  .inputRejected (r.reason.statement ++ " on \x60" ++ r.table ++ "\x60: " ++ r.reason.text)

end OneTable
