import OneTable.Proofs.Options.Grouping
import OneTable.Proofs.Session.Contacts

/-!
# Counts per group

A grouped count selects the expression that it groups by next to the count, unless the options
select something else. With options in a map and no selection among them it does so exactly if the
text it reads off, that of `group` or else that of `group_by`, is not blank; if it is blank, nothing
is selected, and a text of `group_by` behind it still makes groups (`Session.group_selected_iff`).
-/

namespace OneTable

namespace Table

open Options Statement

variable {t : Table} {c : Condition} {e : Fields String} {s : String}

/-- What stands between the selection of a count and its GROUP BY clause. -/
def countFrom (t : Table) (c : Condition) (e : Fields String) : String :=
  " FROM " ++ t.quotedName ++ spaced ((entries e).joins?.getD "") ++
    spaced (c.compile (entries e).operator t)

/-- A count that selects what it groups by. -/
def groupedSql (t : Table) (c : Condition) (e : Fields String) (expression : String) : String :=
  "SELECT COUNT(*), " ++ expression ++ t.countFrom c e ++ " GROUP BY " ++ expression ++
    afterGroup e ++ ";"

/-- A count that selects nothing beside the number of rows. -/
def bareCountSql (t : Table) (c : Condition) (e : Fields String) : String :=
  "SELECT COUNT(*)" ++ t.countFrom c e ++
    clause "GROUP BY" ((entries e).first? ["group", "group_by"]) ++ afterGroup e ++ ";"

theorem countSql_withSelect (h : e.get? "select" = none) (value : String) :
    t.countSql c (.entries (withDefault e "select" value)) =
      let s := Text.trimmed (cut value)
      "SELECT COUNT(*)" ++ (if s = "" then "" else ", " ++ s) ++ t.countFrom c e ++
        clause "GROUP BY" ((entries e).first? ["group", "group_by"]) ++ afterGroup e ++ ";" := by
  delta countSql readTail countFrom
  rw [selected?_withSelect h, joins?_withSelect, operator_withSelect, compile_withSelect]
  dsimp only
  by_cases hblank : Text.trimmed (cut value) = ""
  · rw [if_pos hblank, if_pos hblank]
    simp only [String.append_assoc]
  · rw [if_neg hblank, if_neg hblank]
    simp only [String.append_assoc]

theorem countSql_of_grouping (h : e.get? "select" = none)
    (hs : (entries e).grouping? = some s) (htext : Text.trimmed s ≠ "") :
    t.countSql c (.entries (withDefault e "select" s)) = t.groupedSql c e (Text.trimmed s) := by
  have hclause : clause "GROUP BY" (some (Text.trimmed s)) = " GROUP BY " ++ Text.trimmed s :=
    String.toList_injective (by simp [clause])
  rw [countSql_withSelect h, cut_of_grouping? hs, first?_grouping hs htext, hclause]
  dsimp only
  rw [if_neg htext]
  have hcount : "SELECT COUNT(*), " = "SELECT COUNT(*)" ++ ", " := rfl
  delta groupedSql
  rw [hcount]
  simp only [String.append_assoc]

theorem countSql_of_blank (h : e.get? "select" = none) (hs : (entries e).grouping? = some s)
    (htext : Text.trimmed s = "") :
    t.countSql c (.entries (withDefault e "select" s)) = t.bareCountSql c e := by
  rw [countSql_withSelect h, cut_of_grouping? hs]
  dsimp only
  rw [if_pos htext, String.append_empty]
  rfl

/-- The character behind the count tells whether anything is selected. -/
theorem groupedSql_ne_bareCountSql (t : Table) (c : Condition) (e : Fields String)
    (expression : String) : t.groupedSql c e expression ≠ t.bareCountSql c e := by
  delta groupedSql bareCountSql countFrom
  intro h
  have hchars := congrArg String.toList h
  simp at hchars

end Table

namespace Session

open Options

variable {σ : Type}

theorem plan_countGrouped (session : Session) (c : Condition) {o : Options} {s : String}
    (hs : o.grouping? = some s) :
    ∃ read, session.plan (.countGrouped c o) =
      .build (fun t => .ok (t.count c (o.setDefault "select" s))) read := by
  rw [grouping?] at hs
  rw [plan, hs]
  exact ⟨_, rfl⟩

/-- A grouped count needs a text to group by and a table whose columns are known. -/
theorem refusal?_countGrouped (client : Client σ) (w : Work σ) (c : Condition) {o : Options}
    (h : o.grouping? = none ∨ ∀ t, ¬ w.Active client t) :
    ∃ err, refusal? client w (w.session.plan (.countGrouped c o)) = some err := by
  cases hs : o.grouping? with
  | none =>
    rw [grouping?] at hs
    rw [plan, hs]
    exact ⟨_, rfl⟩
  | some s =>
    have hactive : ∀ t, ¬ w.Active client t :=
      h.resolve_left (by rw [hs]; exact Option.some_ne_none s)
    obtain ⟨read, hp⟩ := plan_countGrouped w.session c hs
    obtain ⟨err, herr⟩ := Work.prepared_of_not_active hactive
      fun t => .ok (t.count c (o.setDefault "select" s))
    refine ⟨err, ?_⟩
    rw [hp, refusal?, error?_eq_some_iff, prepare_run, herr]

/-- A grouped count without a selection of its own is refused without a text to group by and
without a table whose columns are known. Otherwise it runs one statement, and this selects the
expression that it groups by exactly if the text read off is not blank. If it is blank, the
statement selects nothing beside the count. -/
theorem group_selected_iff (client : Client σ) (w : Work σ) (c : Condition) {e : Fields String}
    (hselect : e.get? "select" = none) :
    let o : Options := .entries e
    let sent := executions (contacts client (.countGrouped c o) w)
    (o.grouping? = none ∨ (∀ t, ¬ w.Active client t) →
      sent = [] ∧ ∃ err, ((perform client (.countGrouped c o)).run w).1 = .error err) ∧
    ∀ s t, o.grouping? = some s → w.Active client t →
      ∃ sql answer, sent = [(sql, answer)] ∧
        ((∃ g, sql = t.groupedSql c e g) ↔ Text.trimmed s ≠ "") ∧
        (Text.trimmed s ≠ "" → sql = t.groupedSql c e (Text.trimmed s)) ∧
        (Text.trimmed s = "" → sql = t.bareCountSql c e) := by
  intro o sent
  refine ⟨fun h => ?_, fun s t hs ht => ?_⟩
  · obtain ⟨err, herr⟩ := refusal?_countGrouped client w c h
    obtain ⟨hreply, hnone⟩ := executions_of_refusal herr
    exact ⟨hnone, err, hreply⟩
  · obtain ⟨read, hp⟩ := plan_countGrouped w.session c hs
    obtain ⟨answer, hsent⟩ := executions_of_build hp ht rfl
    have hgrouped : Text.trimmed s ≠ "" →
        t.countSql c (o.setDefault "select" s) = t.groupedSql c e (Text.trimmed s) := fun htext => by
      rw [setDefault_entries, lower_select]
      exact Table.countSql_of_grouping hselect hs htext
    have hbare : Text.trimmed s = "" →
        t.countSql c (o.setDefault "select" s) = t.bareCountSql c e := fun htext => by
      rw [setDefault_entries, lower_select]
      exact Table.countSql_of_blank hselect hs htext
    refine ⟨_, answer, hsent, ⟨?_, fun htext => ⟨_, hgrouped htext⟩⟩, hgrouped, hbare⟩
    rintro ⟨g, hg⟩ htext
    exact t.groupedSql_ne_bareCountSql c e g (hg.symm.trans (hbare htext))

/-- A padded text with a second statement behind it, under the other of the two names. -/
theorem group_selected_padded :
    let client : Client Nat :=
      .ofExecute fun _ n => (.ok (.rows [⟨[("Field", .text "id")], by decide⟩]), n + 1)
    let e : Fields String := ⟨[("limit", "3"), ("group_by", " a, b ; DROP")], by decide⟩
    ∃ answer, executions (contacts client (.countGrouped (.byId 4) (.entries e))
        ⟨{ table := some "posts" }, 0, []⟩) =
      [("SELECT COUNT(*), a, b FROM `posts` WHERE `id` = 4 GROUP BY a, b LIMIT 3;", answer)] := by
  intro client e
  have hactive : (⟨{ table := some "posts" }, 0, []⟩ : Work Nat).Active client
      ⟨"posts", "id", ⟨[⟨"id", "", false, false⟩], by decide⟩⟩ := ⟨rfl, rfl, by rfl⟩
  have hs : (entries e).grouping? = some " a, b " := by decide +kernel
  obtain ⟨sql, answer, hsent, -, hgrouped, -⟩ :=
    (group_selected_iff client _ (.byId 4) (e := e) rfl).2 _ _ hs hactive
  have hsql := hgrouped (by decide +kernel)
  refine ⟨answer, ?_⟩
  rw [hsent, hsql]
  have htext : Table.groupedSql ⟨"posts", "id", ⟨[⟨"id", "", false, false⟩], by decide⟩⟩ (.byId 4) e
      (Text.trimmed " a, b ") =
        "SELECT COUNT(*), a, b FROM `posts` WHERE `id` = 4 GROUP BY a, b LIMIT 3;" := by
    decide +kernel
  rw [htext]

/-- A blank text of `group` before one of `group_by`: there are groups, and nothing tells which. -/
theorem group_lost_behind_blank :
    let client : Client Nat :=
      .ofExecute fun _ n => (.ok (.rows [⟨[("Field", .text "author")], by decide⟩]), n + 1)
    let e : Fields String := ⟨[("group", ""), ("group_by", "author")], by decide⟩
    let sent := executions (contacts client (.countGrouped .all (.entries e))
      ⟨{ table := some "posts" }, 0, []⟩)
    e.get? "select" = none ∧
      sent.map Prod.fst = ["SELECT COUNT(*) FROM `posts` GROUP BY author;"] := by
  intro client e sent
  exact ⟨rfl, by decide +kernel⟩

end Session

end OneTable
