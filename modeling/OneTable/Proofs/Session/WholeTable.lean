import OneTable.Proofs.Session.Contacts
import OneTable.Proofs.Sql.WhereReader

/-!
# Conditions that say nothing

`Condition.isEmpty` looks at the shape of a condition, `Condition.compile` at its entries one by
one. They disagree on the equality maps that have entries and lose every one of them
(`Condition.Dropped`): such a map is not empty and compiles to no text, and a DELETE with it is one
of the whole table (`Session.delete_restricted_iff`).
-/

namespace OneTable

namespace Condition

variable {c : Condition}

/-- An equality map with entries, none of which makes a test. -/
def Dropped : Condition → Prop
  | .equals entries => entries.toList ≠ [] ∧ ∀ e ∈ entries.toList, Table.makesTest e = false
  | _ => False

theorem test?_eq_none_iff (t : Table) (e : String × Value) :
    test? t e.1 e.2 = none ↔ Table.makesTest e = false := by
  obtain ⟨key, v⟩ := e
  by_cases hv : v.isList = false
  · rw [← Option.map_eq_none_iff (f := String.toList), Table.toList_test?_scalar t key hv]
    cases Table.makesTest (key, v) <;> simp
  · have hmakes : Table.makesTest (key, v) = true := by simp [Table.makesTest, hv]
    refine iff_of_false ?_ (by simp [hmakes])
    cases v with
    | list items =>
      by_cases hitems : items = []
      · simp [hitems, test?]
      · simp [Table.test?_list t key hitems]
    | _ => exact absurd rfl hv

theorem tests_eq_nil_iff (t : Table) (entries : Fields Value) :
    tests t entries = [] ↔ ∀ e ∈ entries.toList, Table.makesTest e = false := by
  rw [tests, List.filterMap_eq_nil_iff]
  exact forall₂_congr fun e _ => test?_eq_none_iff t e

/-- A condition compiles to no text if it is empty, and if all its entries are dropped. -/
theorem compile_eq_empty_iff (c : Condition) (op : String) (t : Table) :
    c.compile op t = "" ↔ c.isEmpty = true ∨ c.Dropped := by
  cases c with
  | all => exact iff_of_true rfl (.inl rfl)
  | byId id => exact iff_of_false (by simp [compile]) (by simp [isEmpty, Dropped])
  | raw fragment =>
    have hempty : (Text.trimmed fragment).toList.isEmpty = (raw fragment).isEmpty := by
      rw [Text.toList_trimmed, isEmpty]
    rw [compile, hempty]
    cases (raw fragment).isEmpty with
    | true => exact iff_of_true rfl (.inl rfl)
    | false =>
      refine iff_of_false ?_ (by simp [Dropped])
      rw [if_neg Bool.false_ne_true]
      split <;> simp
  | equals entries =>
    have hempty : (equals entries).isEmpty = true ↔ entries.toList = [] := by
      simp [isEmpty, Fields.isEmpty]
    rw [compile_equals_eq_empty_iff, tests_eq_nil_iff, hempty, Dropped]
    constructor
    · intro h
      exact (em (entries.toList = [])).imp id fun hne => ⟨hne, h⟩
    · rintro (hnil | ⟨-, h⟩)
      · simp [hnil]
      · exact h

theorem Dropped.isEmpty_eq (h : c.Dropped) : c.isEmpty = false := by
  cases c with
  | equals entries => simpa [isEmpty, Fields.isEmpty] using h.1
  | _ => exact h.elim

end Condition

namespace Table

variable {t : Table} {c : Condition} {o : Options}

theorem deleteSql_of_empty (h : c.compile o.operator t = "") :
    t.deleteSql c o = "DELETE FROM " ++ t.quotedName ++ o.compile ++ ";" := by
  have hspaced : Statement.spaced "" = "" := rfl
  delta deleteSql
  rw [h, hspaced, String.append_empty]

theorem deleteSql_of_where {tests : String} (h : c.compile o.operator t = "WHERE " ++ tests) :
    t.deleteSql c o = "DELETE FROM " ++ t.quotedName ++ " WHERE " ++ tests ++ o.compile ++ ";" := by
  have hspaced : Statement.spaced ("WHERE " ++ tests) = " WHERE " ++ tests :=
    String.toList_injective (by rw [toList_spaced_where, String.toList_append])
  delta deleteSql
  rw [h, hspaced, ← String.append_assoc]

/-- A DELETE is restricted by its condition exactly if that compiles to a text. -/
theorem deleteSql_restricted_iff (t : Table) (c : Condition) (o : Options) :
    (∃ tests, t.deleteSql c o =
        "DELETE FROM " ++ t.quotedName ++ " WHERE " ++ tests ++ o.compile ++ ";") ↔
      c.compile o.operator t ≠ "" := by
  by_cases h : c.compile o.operator t = ""
  · refine iff_of_false ?_ (by simp [h])
    rintro ⟨tests, htests⟩
    -- the text without a clause is shorter than any with one
    rw [deleteSql_of_empty h] at htests
    have hlength := congrArg String.length htests
    simp only [String.length_append] at hlength
    have hwhere : " WHERE ".length = 7 := rfl
    omega
  · obtain ⟨tests, htests⟩ := Condition.compile_eq_where h
    exact iff_of_true ⟨tests, deleteSql_of_where htests⟩ h

end Table

namespace Session

variable {σ : Type}

/-- A condition that compiles to no text is empty or has lost all its entries, and never both. With
a condition that is not empty, a DELETE of all rows has a WHERE clause exactly if the condition has
not lost its entries; if it has, the whole table is deleted. -/
theorem delete_restricted_iff (c : Condition) :
    (∀ op t, c.compile op t = "" ↔ c.isEmpty = true ∨ c.Dropped) ∧
    (c.Dropped → c.isEmpty = false) ∧
    (c.isEmpty = false → ∀ (client : Client σ) (w : Work σ) (o : Options),
      ∀ x ∈ executions (contacts client (.deleteAll c o) w), ∃ name, w.session.table = some name ∧
        ((∃ tests, x.1 =
            "DELETE FROM " ++ Ident.quoted name ++ " WHERE " ++ tests ++ o.compile ++ ";") ↔
          ¬ c.Dropped) ∧
        (c.Dropped → x.1 = "DELETE FROM " ++ Ident.quoted name ++ o.compile ++ ";")) := by
  refine ⟨c.compile_eq_empty_iff, Condition.Dropped.isEmpty_eq, fun hempty client w o x hx => ?_⟩
  obtain ⟨t, s, hactive, hs, hx⟩ := mem_executions_of_build rfl hx
  have hsql : x.1 = t.deleteSql c o := by
    rw [hx]
    cases hs
    rfl
  have htext : c.compile o.operator t = "" ↔ c.Dropped := by
    rw [c.compile_eq_empty_iff, hempty, or_iff_right Bool.false_ne_true]
  rw [hsql]
  refine ⟨t.name, hactive.name, ?_, fun h => Table.deleteSql_of_empty (htext.2 h)⟩
  rw [← htext]
  exact Table.deleteSql_restricted_iff t c o

/-- One entry that is dropped beside one that is kept. -/
theorem delete_restricted_one_kept :
    let c : Condition := .equals ⟨[("0", .text "abc"), ("1", .bool true)], by decide⟩
    let client : Client Nat :=
      .ofExecute fun _ n => (.ok (.rows [⟨[("Field", .text "id")], by decide⟩]), n + 1)
    let xs := executions (contacts client (.deleteAll c (.raw "LIMIT 5;"))
      ⟨{ table := some "posts" }, 0, []⟩)
    c.isEmpty = false ∧ xs.length = 1 ∧
      ∀ x ∈ xs, ∃ tests, x.1 = "DELETE FROM `posts` WHERE " ++ tests ++ " LIMIT 5;" := by
  intro c client xs
  have hkept : ¬ c.Dropped := fun h => by
    have hmakes := h.2 ("1", .bool true) (by simp)
    revert hmakes
    decide
  refine ⟨rfl, by decide +kernel, fun x hx => ?_⟩
  obtain ⟨name, hname, hiff, -⟩ := (delete_restricted_iff c).2.2 rfl client _ _ x hx
  cases hname
  obtain ⟨tests, htests⟩ := hiff.2 hkept
  refine ⟨tests, htests.trans (String.toList_injective ?_)⟩
  have hoptions : (Options.raw "LIMIT 5;").compile = " LIMIT 5" := by decide +kernel
  have hname : Ident.quoted "posts" = "`posts`" := by decide +kernel
  simp [hoptions, hname]

/-- A text under a position is dropped, the map is not empty, and the whole table is deleted. -/
theorem dropped_entry_deletes_all :
    let c : Condition := .equals ⟨[("0", .text "abc")], by decide⟩
    let client : Client Nat :=
      .ofExecute fun _ n => (.ok (.rows [⟨[("Field", .text "id")], by decide⟩]), n + 1)
    c.isEmpty = false ∧ c.compile "AND" ⟨"posts", "id", {}⟩ = "" ∧
      (executions (contacts client (.deleteAll c .empty) ⟨{ table := some "posts" }, 0, []⟩)).map
        Prod.fst = ["DELETE FROM `posts`;"] := by
  intro c client
  exact ⟨rfl, by decide +kernel, by decide +kernel⟩

end Session

end OneTable
