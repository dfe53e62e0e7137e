import OneTable.Proofs.Options.Limit
import OneTable.Proofs.Session.Contacts
import OneTable.Proofs.Sql.Guards

/-!
# Operations on one row

Finding, changing and deleting one row take a limit of one as a default. With options in a map their
statement has a LIMIT clause, that of the limit given or `LIMIT 1` without one, unless the limit
given is blank: its entry keeps the default away, and there is no clause for a blank text
(`Session.one_row_limit_iff`).
-/

namespace OneTable

variable {σ : Type}

/-- An operation on one row but for its options. -/
inductive OneRow
  | find (c : Condition)
  | findOne (c : Condition)
  | update (c : Condition) (r : Record)
  | delete (c : Condition)

namespace OneRow

open Options Statement

def request (o : Options) : OneRow → Request
  | .find c => .find c o
  | .findOne c => .findOne c o
  | .update c r => .updateFirst c r o
  | .delete c => .deleteFirst c o

def make (o : Options) (t : Table) : OneRow → Except Rejection Statement
  | .find c | .findOne c => .ok (t.find c o)
  | .update c r => t.update c r o
  | .delete c => .ok (t.delete c o)

/-- The statement up to its LIMIT clause. -/
def head (t : Table) (e : Fields String) : OneRow → String
  | .find c | .findOne c =>
    "SELECT " ++ (entries e).projection ++ " FROM " ++ t.quotedName ++
      spaced ((entries e).joins?.getD "") ++ spaced (c.compile (entries e).operator t) ++
      beforeLimit e
  | .update c r =>
    "UPDATE " ++ t.quotedName ++ " SET " ++ ", ".intercalate (t.assignments r) ++
      spaced (c.compile (entries e).operator t)
  | .delete c =>
    "DELETE FROM " ++ t.quotedName ++ spaced (c.compile (entries e).operator t) ++ beforeLimit e

/-- What follows the LIMIT clause. -/
def tail (e : Fields String) : OneRow → String
  | .find _ | .findOne _ | .delete _ => afterLimit e ++ ";"
  | .update .. => ";"

theorem plan_request (op : OneRow) (o : Options) (s : Session) :
    ∃ read, s.plan (op.request o) =
      .build (fun t => op.make (o.setDefault "limit" "1") t) read := by
  cases op <;> exact ⟨_, rfl⟩

/-- A default limit changes the LIMIT clause of the statement alone. -/
theorem sql_of_make {op : OneRow} {t : Table} {e : Fields String} {value : String} {s : Statement}
    (h : op.make (.entries (withDefault e "limit" value)) t = .ok s) :
    s.sql = op.head t e ++ limitClause (.entries (withDefault e "limit" value)) ++ op.tail e := by
  have hfind : ∀ c, t.findSql c (.entries (withDefault e "limit" value)) =
      "SELECT " ++ (entries e).projection ++ " FROM " ++ t.quotedName ++
        spaced ((entries e).joins?.getD "") ++ spaced (c.compile (entries e).operator t) ++
        beforeLimit e ++ limitClause (.entries (withDefault e "limit" value)) ++
        (afterLimit e ++ ";") := fun c => by
    delta Table.findSql Table.readTail
    simp only [projection_withLimit, joins?_withLimit, operator_withLimit, compile_withLimit,
      String.append_assoc]
  cases op with
  | find c =>
    cases h
    exact hfind c
  | findOne c =>
    cases h
    exact hfind c
  | update c r =>
    obtain ⟨-, -, hsql⟩ := Table.update_eq_ok h
    have htail : updateTail (.entries (withDefault e "limit" value)) =
        limitClause (.entries (withDefault e "limit" value)) := rfl
    rw [hsql]
    delta Table.updateSql
    rw [operator_withLimit, htail]
    rfl
  | delete c =>
    cases h
    show t.deleteSql c (.entries (withDefault e "limit" value)) =
      "DELETE FROM " ++ t.quotedName ++ spaced (c.compile (entries e).operator t) ++
        beforeLimit e ++ limitClause (.entries (withDefault e "limit" value)) ++
        (afterLimit e ++ ";")
    delta Table.deleteSql
    simp only [operator_withLimit, compile_withLimit, String.append_assoc]

end OneRow

namespace Session

open Options

theorem sql_of_one_row {client : Client σ} {w : Work σ} {op : OneRow} {e : Fields String}
    {x : String × Except Error Answer}
    (hx : x ∈ executions (contacts client (op.request (.entries e)) w)) :
    ∃ t, w.Active client t ∧ x.1 =
      op.head t e ++ limitClause (.entries (withDefault e "limit" "1")) ++ op.tail e := by
  obtain ⟨read, hplan⟩ := op.plan_request (.entries e) w.session
  obtain ⟨t, s, hactive, hs, hx⟩ := mem_executions_of_build hplan hx
  rw [setDefault_entries, lower_limit] at hs
  exact ⟨t, hactive, hx.trans (OneRow.sql_of_make hs)⟩

/-- A statement for one row has a LIMIT clause exactly if the limit given is not blank: `LIMIT 1`
without one, and otherwise that of the text given. With a blank limit it has none. -/
theorem one_row_limit_iff (client : Client σ) (w : Work σ) (op : OneRow) (e : Fields String)
    (x : String × Except Error Answer)
    (hx : x ∈ executions (contacts client (op.request (.entries e)) w)) :
    ∃ t, w.Active client t ∧
      ((∃ n, x.1 = op.head t e ++ " LIMIT " ++ n ++ op.tail e) ↔ ¬ BlankLimit e) ∧
      (e.get? "limit" = none → x.1 = op.head t e ++ " LIMIT " ++ "1" ++ op.tail e) ∧
      (∀ s, e.get? "limit" = some s → Text.trimmed (cut s) ≠ "" →
        x.1 = op.head t e ++ " LIMIT " ++ Text.trimmed (cut s) ++ op.tail e) ∧
      (BlankLimit e → x.1 = op.head t e ++ op.tail e) := by
  obtain ⟨t, hactive, hsql⟩ := sql_of_one_row hx
  rw [limitClause_withLimit] at hsql
  dsimp only at hsql
  have hblank : BlankLimit e → x.1 = op.head t e ++ op.tail e := by
    rintro ⟨s, hs, htext⟩
    rw [hsql, hs, Option.getD_some, if_pos htext, String.append_empty]
  have hdefault : e.get? "limit" = none → x.1 = op.head t e ++ " LIMIT " ++ "1" ++ op.tail e := by
    intro hnone
    have hone : Text.trimmed (cut "1") = "1" := by decide +kernel
    rw [hsql, hnone, Option.getD_none, hone, if_neg (by decide), ← String.append_assoc]
  have hgiven : ∀ s, e.get? "limit" = some s → Text.trimmed (cut s) ≠ "" →
      x.1 = op.head t e ++ " LIMIT " ++ Text.trimmed (cut s) ++ op.tail e := by
    intro s hs htext
    rw [hsql, hs, Option.getD_some, if_neg htext, ← String.append_assoc]
  refine ⟨t, hactive, ⟨?_, fun h => ?_⟩, hdefault, hgiven, hblank⟩
  · -- the statement without a clause is shorter than any with one
    rintro ⟨n, hn⟩ h
    have hlength := congrArg String.length (hn.symm.trans (hblank h))
    have hword : " LIMIT ".length = 7 := rfl
    simp only [String.length_append] at hlength
    omega
  · cases hs : e.get? "limit" with
    | none => exact ⟨"1", hdefault hs⟩
    | some s => exact ⟨_, hgiven s hs fun htext => h ⟨s, hs, htext⟩⟩

/-- A limit of two with a second statement behind it, among options that stand before and after it. -/
theorem one_row_limit_given :
    let client : Client Nat :=
      .ofExecute fun _ n => (.ok (.rows [⟨[("Field", .text "id")], by decide⟩]), n + 1)
    let e : Fields String :=
      ⟨[("limit", " 2 ; DROP"), ("order_by", "a"), ("offset", "3")], by decide⟩
    let xs := executions (contacts client ((OneRow.find (.byId 4)).request (.entries e))
      ⟨{ table := some "posts" }, 0, []⟩)
    xs.length = 1 ∧ ∀ x ∈ xs, ∃ head,
      x.1 = head ++ " LIMIT " ++ "2" ++ " OFFSET 3;" := by
  intro client e xs
  refine ⟨by decide +kernel, fun x hx => ?_⟩
  obtain ⟨t, -, -, -, hgiven, -⟩ := one_row_limit_iff client _ (.find (.byId 4)) e x hx
  have htext : Text.trimmed (cut " 2 ; DROP") = "2" := by decide +kernel
  have htail : (OneRow.find (.byId 4)).tail e = " OFFSET 3;" := by decide +kernel
  refine ⟨(OneRow.find (.byId 4)).head t e, ?_⟩
  rw [← htail, ← htext]
  exact hgiven " 2 ; DROP" rfl (by decide +kernel)

/-- A blank limit keeps the default away: every row that satisfies the condition is changed. -/
theorem one_row_limit_blank :
    let client : Client Nat :=
      .ofExecute fun _ n => (.ok (.rows [⟨[("Field", .text "title")], by decide⟩]), n + 1)
    let r : Record := ⟨[("title", .text "b")], by decide⟩
    let e : Fields String := ⟨[("limit", "")], by decide⟩
    (executions (contacts client ((OneRow.update (.byId 4) r).request (.entries e))
      ⟨{ table := some "posts" }, 0, []⟩)).map Prod.fst =
        ["UPDATE `posts` SET `title` = 'b' WHERE `id` = 4;"] := by
  intro client r e
  decide +kernel

end Session

end OneTable
