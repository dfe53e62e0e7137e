import OneTable.Text.Ascii
import OneTable.Text.Blank

/-!
# Kinds of statements

A statement is classified by its first word. Blanks, opening parentheses and comments before that
word do not count; a comment that does not end swallows the rest.
-/

namespace OneTable

inductive StatementKind
  | select
  | insert
  | update
  | delete
  | show
  | other
deriving DecidableEq, Repr

namespace StatementKind

def name : StatementKind → String
  | .select => "select"
  | .insert => "insert"
  | .update => "update"
  | .delete => "delete"
  | .show => "show"
  | .other => "other"

/-- What follows the first line end. -/
def afterLine (cs : List Char) : List Char := (cs.dropWhile (· ≠ '\n')).drop 1

/-- What follows the first `*/`. -/
def afterBlock : List Char → List Char
  | [] => []
  | '*' :: '/' :: rest => rest
  | _ :: rest => afterBlock rest

theorem length_afterLine_le (cs : List Char) : (afterLine cs).length ≤ cs.length := by
  rw [afterLine, List.length_drop]
  exact Nat.le_trans (Nat.sub_le ..) (List.dropWhile_suffix _).length_le

theorem length_afterBlock_le (cs : List Char) : (afterBlock cs).length ≤ cs.length := by
  fun_induction afterBlock cs with
  | case1 => simp
  | case2 rest => simp only [List.length_cons]; omega
  | case3 c rest _ ih => simp only [List.length_cons]; omega

/-- A statement from its first word on. The end of a block comment is looked for from its star on,
so `/*/` is a whole one. -/
def body : List Char → List Char
  | [] => []
  | c :: cs =>
    if Text.isBlank c || c == '(' then body cs
    else if c == '#' || (c == '-' && cs.head? == some '-') then body (afterLine cs)
    else if c == '/' && cs.head? == some '*' then body (afterBlock cs)
    else c :: cs
  termination_by cs => cs.length
  decreasing_by
    all_goals simp only [List.length_cons]
    · omega
    · exact Nat.lt_succ_of_le (length_afterLine_le cs)
    · exact Nat.lt_succ_of_le (length_afterBlock_le cs)

def ofWord (word : String) : StatementKind :=
  match Text.upper word with
  | "SELECT" => .select
  | "INSERT" | "REPLACE" => .insert
  | "UPDATE" => .update
  | "DELETE" => .delete
  | "SHOW" | "DESCRIBE" | "DESC" => .show
  | _ => .other

def ofSql (sql : String) : StatementKind :=
  ofWord (String.ofList ((body sql.toList).takeWhile Text.isWordChar))

end StatementKind

end OneTable
