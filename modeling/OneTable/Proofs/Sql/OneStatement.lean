import OneTable.Proofs.Options.Cut
import OneTable.Proofs.Sql.Guards

/-!
# One statement at a time

A text that ends in its only `;` is one statement. What is built from a name and a condition without
a `;` is one, whatever the texts of its options hold (`options_add_no_statement`). A statement that
reads or deletes rows passes options on, and needs that no name of theirs holds a `;`. One that
changes rows passes none on; the columns and texts it assigns stand between quotes and may hold one.
-/

namespace OneTable

/-- The text ends in its only `;`. -/
def Sql.EndsOnce (sql : String) : Prop := ∃ body, sql.toList = body ++ [';'] ∧ ';' ∉ body

theorem Sql.endsOnce_append_iff (body : String) :
    EndsOnce (body ++ ";") ↔ ';' ∉ body.toList := by
  have htext : (body ++ ";").toList = body.toList ++ [';'] := String.toList_append
  constructor
  · rintro ⟨body', h, hfree⟩
    rw [htext] at h
    rwa [List.append_cancel_right h]
  · exact fun h => ⟨body.toList, htext, h⟩

theorem Sql.endsOnce_iff {sql : String} :
    EndsOnce sql ↔ sql.toList.getLast? = some ';' ∧ ';' ∉ sql.toList.dropLast := by
  constructor
  · rintro ⟨body, h, hfree⟩
    rw [h, List.getLast?_concat, List.dropLast_concat]
    exact ⟨rfl, hfree⟩
  · rintro ⟨hlast, hfree⟩
    obtain ⟨body, h⟩ := List.getLast?_eq_some_iff.1 hlast
    rw [h, List.dropLast_concat] at hfree
    exact ⟨body, h, hfree⟩

instance (sql : String) : Decidable (Sql.EndsOnce sql) := decidable_of_iff' _ Sql.endsOnce_iff

namespace Condition

theorem semicolon_notMem_joiner {operator : String} (h : ';' ∉ operator.toList) :
    ';' ∉ (joiner operator).toList := by
  have hop : ';' ∉ (Text.trimmed operator).toList := by
    rw [Text.toList_trimmed]
    exact fun hc => h (Text.mem_of_mem_trim hc)
  rw [joiner]
  split
  · decide
  · simp [hop]

/-- An operator without a `;` leaves it to the condition whether the clause holds one. -/
theorem semicolon_mem_compile_iff {operator : String} (h : ';' ∉ operator.toList) (c : Condition)
    (t : Table) :
    ';' ∈ (c.compile operator t).toList ↔ ';' ∈ (c.compile defaultOperator t).toList := by
  cases c with
  | all => exact Iff.rfl
  | byId id => exact Iff.rfl
  | raw fragment => exact Iff.rfl
  | equals entries =>
    have hdefault : ';' ∉ defaultOperator.toList := by decide
    rw [compile, compile]
    cases tests t entries with
    | nil => exact Iff.rfl
    | cons test tests =>
      simp only [String.toList_append, List.mem_append, String.toList_intercalate,
        Text.mem_intercalate_iff (semicolon_notMem_joiner h),
        Text.mem_intercalate_iff (semicolon_notMem_joiner hdefault)]

end Condition

namespace Table

open Sql

variable {t : Table} {c : Condition} {r : Record} {o : Options} {s : Statement}

theorem semicolon_notMem_toString (n : Int) : ';' ∉ (toString n).toList := by
  have hnat (m : Nat) : ';' ∉ (toString m).toList := fun h =>
    (isPlain_of_isDigits (isDigits_toString m) _ h).1 rfl
  cases n with
  | ofNat m => exact hnat m
  | negSucc m =>
    have htext : toString (Int.negSucc m) = "-" ++ toString (m + 1) := rfl
    rw [htext, String.toList_append, List.mem_append, not_or]
    exact ⟨by decide, hnat (m + 1)⟩

/-- The name of the table and the condition hold no `;`. -/
structure Plain (t : Table) (c : Condition) : Prop where
  name : ';' ∉ t.name.toList
  condition : ';' ∉ (c.compile Condition.defaultOperator t).toList

namespace Plain

theorem quotedName (h : t.Plain c) : ';' ∉ t.quotedName.toList := by
  rw [Table.quotedName, Ident.mem_quoted_iff (by decide)]
  exact h.name

theorem spaced_condition (h : t.Plain c) (o : Options) :
    ';' ∉ (Statement.spaced (c.compile o.operator t)).toList := by
  rw [Statement.mem_spaced_iff (by decide),
    Condition.semicolon_mem_compile_iff o.semicolon_notMem_operator]
  exact h.condition

/-- A statement that reads rows ends in its only `;` if nothing before the table holds one. -/
theorem endsOnce_read (h : t.Plain c) (ho : o.PlainlyNamed) {head : String}
    (hhead : ';' ∉ head.toList) :
    EndsOnce (head ++ " FROM " ++ t.quotedName ++ t.readTail c o) := by
  have hjoins : ';' ∉ (Statement.spaced (o.joins?.getD "")).toList := by
    rw [Statement.mem_spaced_iff (by decide)]
    cases hj : o.joins? with
    | none => decide
    | some s => exact Options.semicolon_notMem_of_first? hj
  have hbody : head ++ " FROM " ++ t.quotedName ++ t.readTail c o =
      head ++ " FROM " ++ t.quotedName ++ (Statement.spaced (o.joins?.getD "") ++
        Statement.spaced (c.compile o.operator t) ++ o.compile) ++ ";" := by
    simp only [readTail, String.append_assoc]
  rw [hbody, endsOnce_append_iff]
  simp [hhead, hjoins, h.quotedName, h.spaced_condition, ho.semicolon_notMem_compile]

theorem endsOnce_find (h : t.Plain c) (ho : o.PlainlyNamed) : EndsOnce (t.findSql c o) := by
  have hhead : ';' ∉ ("SELECT " ++ o.projection).toList := by
    simp [o.semicolon_notMem_projection]
  exact h.endsOnce_read ho hhead

theorem endsOnce_count (h : t.Plain c) (ho : o.PlainlyNamed) : EndsOnce (t.countSql c o) := by
  refine h.endsOnce_read ho ?_
  cases hs : o.selected? with
  | none => decide
  | some s => simp [Options.semicolon_notMem_of_first? hs]

theorem endsOnce_delete (h : t.Plain c) (ho : o.PlainlyNamed) : EndsOnce (t.deleteSql c o) := by
  delta deleteSql
  rw [endsOnce_append_iff]
  simp [h.quotedName, h.spaced_condition, ho.semicolon_notMem_compile]

/-- What an UPDATE assigns is all that may bring a further `;` into it. -/
theorem endsOnce_updateSql_iff (h : t.Plain c) (o : Options) (set : String) :
    EndsOnce (t.updateSql set (c.compile o.operator t) o) ↔ ';' ∉ set.toList := by
  delta updateSql
  rw [endsOnce_append_iff]
  simp [h.quotedName, h.spaced_condition, o.semicolon_notMem_updateTail]

theorem endsOnce_update_iff (h : t.Plain c) (hs : t.update c r o = .ok s) :
    EndsOnce s.sql ↔ ∀ a ∈ t.assignments r, ';' ∉ a.toList := by
  obtain ⟨-, -, hsql⟩ := update_eq_ok hs
  rw [hsql, h.endsOnce_updateSql_iff, String.toList_intercalate,
    Text.mem_intercalate_iff (by decide)]
  simp

theorem endsOnce_increment_iff (h : t.Plain c) {column : String} {step : Value}
    (hs : t.increment c column step o = .ok s) : EndsOnce s.sql ↔ ';' ∉ column.toList := by
  unfold increment at hs
  split at hs
  · cases hs
    have hquoted : ';' ∈ (Ident.quoted column).toList ↔ ';' ∈ column.toList :=
      Ident.mem_quoted_iff (by decide) column
    have hstep := semicolon_notMem_toString (amount step).toInt
    rw [Statement.ofSql, incrementSql, h.endsOnce_updateSql_iff]
    simp only [String.toList_append, List.mem_append, hquoted, hstep]
    simp
  · cases hs
  · cases hs

end Plain

/-- No text among options brings a `;` into a statement: what reads or deletes rows ends in its only
`;` unless an option is passed on under a name with a `;`, what changes rows does whenever nothing
that it assigns holds one. -/
theorem options_add_no_statement (o : Options) :
    (';' ∉ o.projection.toList ∧ (∀ s ∈ o.selected?, ';' ∉ s.toList) ∧
      (∀ s ∈ o.joins?, ';' ∉ s.toList) ∧ ';' ∉ o.operator.toList ∧ ';' ∉ o.limitClause.toList ∧
      ';' ∉ o.updateTail.toList ∧ (o.PlainlyNamed → ';' ∉ o.compile.toList)) ∧
    ∀ (t : Table) (c : Condition), ';' ∉ t.name.toList →
      ';' ∉ (c.compile Condition.defaultOperator t).toList →
      (o.PlainlyNamed → EndsOnce (t.find c o).sql ∧ EndsOnce (t.count c o).sql ∧
        EndsOnce (t.delete c o).sql) ∧
      (∀ r s, t.update c r o = .ok s →
        (EndsOnce s.sql ↔ ∀ a ∈ t.assignments r, ';' ∉ a.toList)) ∧
      ∀ column step s, t.increment c column step o = .ok s →
        (EndsOnce s.sql ↔ ';' ∉ column.toList) := by
  constructor
  · exact ⟨o.semicolon_notMem_projection, fun _ => Options.semicolon_notMem_of_first?,
      fun _ => Options.semicolon_notMem_of_first?, o.semicolon_notMem_operator,
      o.semicolon_notMem_limitClause, o.semicolon_notMem_updateTail,
      fun ho => ho.semicolon_notMem_compile⟩
  · intro t c hname hcondition
    have h : t.Plain c := ⟨hname, hcondition⟩
    exact ⟨fun ho => ⟨h.endsOnce_find ho, h.endsOnce_count ho, h.endsOnce_delete ho⟩,
      fun _ _ => h.endsOnce_update_iff,
      fun _ _ _ => h.endsOnce_increment_iff⟩

/-- Options with a second statement behind the `;` of each text. -/
theorem options_add_no_statement_cut :
    let t : Table := ⟨"posts", "id", ⟨[⟨"views", "int(11)", false, false⟩], by decide⟩⟩
    let c : Condition := .equals ⟨[("a", .text "b"), ("c", .uint 4)], by decide⟩
    let o : Options := .entries ⟨[("select", "views; drop"), ("joins", "join x; drop"),
      ("operator", "or; drop"), ("order", "views desc; drop"), ("having", "views; drop"),
      ("limit", "3; drop")], by decide⟩
    EndsOnce (t.find c o).sql ∧ EndsOnce (t.count c o).sql ∧ EndsOnce (t.delete c o).sql ∧
      (∃ s, t.update c ⟨[("views", .uint 7)], by decide⟩ o = .ok s ∧ EndsOnce s.sql) ∧
      ∃ s, t.increment c "views" (.int (-1)) o = .ok s ∧ EndsOnce s.sql := by
  intro t c o
  obtain ⟨hread, hupdate, hincrement⟩ :=
    (options_add_no_statement o).2 t c (by decide +kernel) (by decide +kernel)
  obtain ⟨hfind, hcount, hdelete⟩ := hread (by decide +kernel)
  have hcolumn : t.columns.typeOf? "views" = some .integer := by decide +kernel
  have hset := update_eq (t := t) (c := c) (r := ⟨[("views", .uint 7)], by decide⟩) (o := o)
    (by decide +kernel) (by decide +kernel)
  have hadd : t.increment c "views" (.int (-1)) o =
      .ok (.ofSql (t.incrementSql c "views" (.int (-1)) o)) := by
    rw [increment, hcolumn]
  exact ⟨hfind, hcount, hdelete, ⟨_, hset, (hupdate _ _ hset).2 (by decide +kernel)⟩,
    _, hadd, (hincrement _ _ _ hadd).2 (by decide +kernel)⟩

/-- The name of an option brings two further statements in, and a text that is assigned keeps its
`;` between quotes. -/
theorem semicolon_in_name_or_assignment :
    (∃ s, find ⟨"posts", "id", {}⟩ .all
          (.entries ⟨[("x; drop table posts; --", "1")], by decide⟩) = s ∧
        s.sql = "SELECT * FROM \x60posts\x60 X; DROP TABLE POSTS; -- 1;" ∧ ¬ EndsOnce s.sql) ∧
      ∃ s, update ⟨"posts", "id", ⟨[⟨"title", "text", false, false⟩], by decide⟩⟩ (.byId 4)
          ⟨[("title", .text "a;b")], by decide⟩ Options.empty = .ok s ∧
        s.sql = "UPDATE \x60posts\x60 SET \x60title\x60 = 'a;b' WHERE \x60id\x60 = 4;" ∧
        ¬ EndsOnce s.sql := by
  refine ⟨⟨_, rfl, ?_, ?_⟩, _, rfl, ?_, ?_⟩
  · decide +kernel
  · decide +kernel
  · decide +kernel
  · decide +kernel

end Table

end OneTable
