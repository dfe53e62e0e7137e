import OneTable.Proofs.Sql.WriteShape

/-!
# Reading UPDATE back

`Sql.readAssignments` reads `UPDATE name SET name = constant, name = constant ...` off the front of
a text. From records of scalars an UPDATE is built exactly if it has a condition and a column to
assign, and what it assigns reads back: the columns of the table other than the primary key that
the record has a value for, in the order of the table and each once, with the text of that value
(`Table.update_assigns`). So of a record only these columns count.
-/

namespace OneTable

namespace Sql

def readAssignment : Reader Equation := fun cs => do
  let (column, cs) ← readName cs
  let cs ← skip " = ".toList cs
  let (k, cs) ← readConstant cs
  return ((column, k), cs)

/-- An UPDATE up to its condition: the table and what is assigned. -/
def readAssignments : Reader (String × List Equation) := fun cs => do
  let cs ← skip "UPDATE ".toList cs
  let (table, cs) ← readName cs
  let cs ← skip " SET ".toList cs
  let (es, cs) ← readSeparated ", ".toList readAssignment cs
  let cs ← skip [' '] cs
  return ((table, es), cs)

/-- An assignment reads back before whatever delimits its constant. -/
theorem readAssignment_written (e : Equation) {rest : List Char} (h : Delimits rest) :
    readAssignment (written (equation e) ++ rest) = some (e, rest) := by
  have hwritten : written (equation e) ++ rest =
      Ident.encode e.1.toList ++ (" = ".toList ++ (e.2.chars ++ rest)) := by
    simp [equation, Piece.chars]
  have hname := readName_encode e.1 (" = ".toList ++ (e.2.chars ++ rest))
    (endsName_cons (c := ' ') (by decide) _)
  rw [hwritten, readAssignment]
  simp only [hname, Option.bind_eq_bind, Option.bind_some, skip_append, readConstant_chars e.2 h]
  rfl

end Sql

namespace Table

open Sql

variable {t : Table} {c : Condition} {r r' : Record} {o : Options}

/-! ### When there is something to assign -/

theorem assignment?_eq_none_iff {col : Column} :
    t.assignment? r col = none ↔ col.name = t.primaryKey ∨ col.name ∉ r.names := by
  unfold assignment?
  split
  · rename_i h
    exact iff_of_true rfl (.inl h)
  · rename_i h
    rw [Option.map_eq_none_iff, Fields.get?_eq_none_iff, or_iff_right h]

theorem assignments_ne_nil_iff :
    t.assignments r ≠ [] ↔
      ∃ col ∈ t.columns.toList, col.name ≠ t.primaryKey ∧ col.name ∈ r.names := by
  rw [assignments, ne_eq, List.filterMap_eq_nil_iff]
  simp only [assignment?_eq_none_iff, not_forall, not_or, not_not, exists_prop]

theorem exists_update_iff :
    (∃ s, t.update c r o = .ok s) ↔ c.compile o.operator t ≠ "" ∧ t.assignments r ≠ [] := by
  constructor
  · rintro ⟨s, hs⟩
    obtain ⟨hclause, has, -⟩ := update_eq_ok hs
    exact ⟨hclause, has⟩
  · rintro ⟨hclause, has⟩
    exact ⟨_, update_eq hclause has⟩

/-! ### What is assigned -/

/-- The text that an UPDATE gives a column; none for `NULL`. -/
def assignedText? (r : Record) (col : Column) : Option String :=
  (r.get? col.name).bind fun v => if v.isNull && !col.nullable then some "" else v.text?

/-- What is assigned is assigned to the columns in order, with the texts of the record. -/
theorem texts_assigned (hr : ∀ e ∈ r.toList, e.2.isList = false) :
    (t.assigned r).map (fun e => (e.1, e.2.text?)) =
      (t.assignedColumns r).map fun col => (col.name, assignedText? r col) := by
  rw [assigned, assignedColumns]
  induction t.columns.toList with
  | nil => rfl
  | cons col cols ih =>
    by_cases hkey : col.name = t.primaryKey
    · simpa [assigned?, hkey] using ih
    · cases hv : r.get? col.name with
      | none => simpa [assigned?, hkey, hv] using ih
      | some v =>
        have hscalar : v.isList = false := by
          obtain ⟨p, hp, rfl⟩ := Option.map_eq_some_iff.1 hv
          exact hr p (List.mem_of_find?_eq_some hp)
        have htext : (if v.isNull && !col.nullable then Constant.text ""
            else .ofValue (t.columns.typeOf? col.name) v).text? = assignedText? r col := by
          rw [assignedText?, hv, Option.bind_some]
          split
          · rfl
          · exact Constant.text?_ofValue _ hscalar
        have hassigned : t.assigned? r col = some (col.name,
            if v.isNull && !col.nullable then .text ""
            else .ofValue (t.columns.typeOf? col.name) v) := by
          rw [assigned?, if_neg hkey, hv, Option.map_some]
        rw [List.filterMap_cons_some hassigned, List.filter_cons_of_pos (by simp [hkey, hv]),
          List.map_cons, List.map_cons, ih, htext]

theorem nodup_assignedColumns (t : Table) (r : Record) :
    ((t.assignedColumns r).map Column.name).Nodup :=
  t.columns.distinct.sublist (List.filter_sublist.map _)

theorem readAssignments_sql (hr : ∀ e ∈ r.toList, e.2.isList = false) {s : Statement}
    (h : t.update c r o = .ok s) :
    readAssignments s.sql.toList =
      some ((t.name, t.assigned r), (c.compile o.operator t ++ o.updateTail ++ ";").toList) := by
  obtain ⟨hclause, has, hsql⟩ := update_eq_ok h
  obtain ⟨tests, htests⟩ := Condition.compile_eq_where hclause
  have hne : t.assigned r ≠ [] := by
    intro hnil
    have hmap := toList_assignments (t := t) hr
    rw [hnil, List.map_nil, List.map_eq_nil_iff] at hmap
    exact has hmap
  set rest := "WHERE ".toList ++ (tests ++ o.updateTail ++ ";").toList with hrest
  have e : s.sql.toList = "UPDATE ".toList ++ (Ident.encode t.name.toList ++ (" SET ".toList ++
      (", ".toList.intercalate ((t.assigned r).map fun e => written (equation e)) ++
        ' ' :: rest))) := by
    rw [hsql, htests, ← toList_assignments hr, hrest]
    delta updateSql
    simp [quotedName, Ident.toList_quoted, toList_spaced_where, String.toList_intercalate]
  have hlist := readSeparated_intercalate ", ".toList Delimits (by decide)
    (fun cs => delimits_cons (c := ',') (by decide) (by decide) (' ' :: cs)) hne
    (fun e _ _ hdelimits => readAssignment_written e hdelimits)
    (delimits_cons (c := ' ') (by decide) (by decide) rest) rfl
  rw [List.map_id'] at hlist
  have hname := readName_encode t.name (" SET ".toList ++
    (", ".toList.intercalate ((t.assigned r).map fun e => written (equation e)) ++ ' ' :: rest))
    (endsName_cons (c := ' ') (by decide) _)
  have htail : rest = (c.compile o.operator t ++ o.updateTail ++ ";").toList := by
    rw [htests, hrest]
    simp
  rw [e, readAssignments]
  simp only [skip_append, Option.bind_eq_bind, Option.bind_some, hname, hlist, skip_cons_self,
    skip_nil, ← htail]
  rfl

/-- Of a record only the columns of the table other than the primary key count. -/
theorem update_congr (h : ∀ col ∈ t.columns.toList, col.name ≠ t.primaryKey →
    r'.get? col.name = r.get? col.name) : t.update c r' o = t.update c r o := by
  have hassignments : t.assignments r' = t.assignments r := by
    refine List.filterMap_congr fun col hcol => ?_
    unfold assignment?
    split
    · rfl
    · rename_i hkey
      rw [h col hcol hkey]
  rw [update, update, hassignments]

/-- An UPDATE from a record of scalars is built exactly if its condition compiles to a text and the
record has a value for a column other than the primary key. Its SET list reads back, and what
follows is the condition: one assignment per such column, in the order of the table, with the text
of the value. Whatever else a record holds changes nothing. -/
theorem update_assigns (t : Table) (c : Condition) (o : Options) {r : Record}
    (hr : ∀ e ∈ r.toList, e.2.isList = false) :
    ((∃ s, t.update c r o = .ok s) ↔ c.compile o.operator t ≠ "" ∧
      ∃ col ∈ t.columns.toList, col.name ≠ t.primaryKey ∧ col.name ∈ r.names) ∧
    (∀ s, t.update c r o = .ok s →
      ∃ es, readAssignments s.sql.toList =
          some ((t.name, es), (c.compile o.operator t ++ o.updateTail ++ ";").toList) ∧
        es.map (fun e => (e.1, e.2.text?)) =
          (t.assignedColumns r).map fun col => (col.name, assignedText? r col)) ∧
    ((t.assignedColumns r).map Column.name).Nodup ∧
    ∀ r' : Record, (∀ col ∈ t.columns.toList, col.name ≠ t.primaryKey →
      r'.get? col.name = r.get? col.name) → t.update c r' o = t.update c r o := by
  refine ⟨?_, fun s hs => ?_, nodup_assignedColumns t r, fun r' h => update_congr h⟩
  · rw [exists_update_iff, assignments_ne_nil_iff]
  · exact ⟨_, readAssignments_sql hr hs, texts_assigned hr⟩

/-- Names and texts full of what could end an assignment, a `null` of each kind, a value for the
primary key and one for a name that is no column, in another order than that of the table. -/
theorem update_assigns_hostile :
    let t : Table := ⟨"posts", "id",
      ⟨[⟨"id", "int(11)", false, true⟩, ⟨"a\x60 = 1, \x60b", "text", false, false⟩,
        ⟨"note", "text", true, false⟩, ⟨"kind", "text", false, false⟩,
        ⟨"rank", "int", false, false⟩], by decide⟩⟩
    let r : Record := ⟨[("kind", .null), ("none", .text "x"), ("note", .null), ("id", .uint 7),
      ("a\x60 = 1, \x60b", .text "\x27, \x60id\x60 = \\")], by decide⟩
    ∃ s es, t.update (.byId 4) r (.entries {}) = .ok s ∧
      readAssignments s.sql.toList = some (("posts", es), "WHERE `id` = 4;".toList) ∧
      es.map (fun e => (e.1, e.2.text?)) = [("a\x60 = 1, \x60b", some "\x27, \x60id\x60 = \\"),
        ("note", none), ("kind", some "")] := by
  intro t r
  have hr : ∀ e ∈ r.toList, e.2.isList = false := by
    intro e he
    simp only [r, List.mem_cons, List.not_mem_nil, or_false] at he
    rcases he with rfl | rfl | rfl | rfl | rfl <;> rfl
  obtain ⟨hbuilt, hread, -⟩ := update_assigns t (.byId 4) (.entries {}) hr
  obtain ⟨s, hs⟩ := hbuilt.2 ⟨by decide +kernel, by decide⟩
  obtain ⟨es, hes, htexts⟩ := hread s hs
  have htail : (Condition.compile (.byId 4) (Options.operator (.entries {})) t ++
      Options.updateTail (.entries {}) ++ ";").toList = "WHERE `id` = 4;".toList := by
    decide +kernel
  rw [htail] at hes
  exact ⟨s, es, hs, hes, htexts.trans (by decide +kernel)⟩

end Table

end OneTable
