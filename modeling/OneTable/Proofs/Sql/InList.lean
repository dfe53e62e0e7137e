import OneTable.Proofs.Sql.Slots
import OneTable.Proofs.Sql.WhereReader

/-!
# Lists in conditions

The test of a list compares a column with the scalars of the list. Only the list itself is looked
at for being empty: a list without items is `1=0`, and any other one an IN list with a slot for
whatever its items put between commas (`Sql.readMembership`). Its slots are the literals of its
scalars exactly if no list inside it is empty either (`Table.in_list_filled_iff`).
-/

namespace OneTable

namespace Sql

/-- A column and the slots of the IN list that it is compared with. -/
def readMembership : Reader (String × List Slot) := fun cs => do
  let (column, cs) ← readName cs
  let cs ← skip " IN ".toList cs
  let (ss, cs) ← readSlots cs
  return ((column, ss), cs)

theorem readMembership_bracketed (column : String) {ss : List Slot} (hss : ss ≠ []) :
    readMembership (Ident.encode column.toList ++ (" IN ".toList ++ bracketed ss)) =
      some ((column, ss), []) := by
  have hname := readName_encode column (" IN ".toList ++ bracketed ss)
    (endsName_cons (c := ' ') (by decide) _)
  have hslots := readSlots_bracketed hss []
  rw [List.append_nil] at hslots
  rw [readMembership, hname]
  simp [hslots]

end Sql

namespace Value

open Sql

variable {t : Option ColumnType} {v : Value}

theorem literal_ne_empty (t : Option ColumnType) (hv : v.isList = false) : v.literal t ≠ "" := by
  intro h
  have hchars := Constant.chars_ofValue t hv
  rw [h] at hchars
  generalize Constant.ofValue t v = k at hchars
  cases k with
  | null => cases hchars
  | text s => cases hchars
  | number run bare => exact (isBare_iff.1 bare).1 hchars

theorem leaves_ne_nil (h : ¬ v.HasEmpty) : v.leaves ≠ [] := by
  intro hnil
  have hslots := slots_eq_leaves none h
  rw [hnil] at hslots
  exact slots_ne_nil none v hslots

theorem toList_intercalate_literals (t : Option ColumnType) {ls : List Value}
    (h : ∀ l ∈ ls, l.isList = false) :
    (",".intercalate (ls.map (literal t))).toList =
      [','].intercalate ((ls.map fun l => Slot.constant (.ofValue t l)).map Slot.chars) := by
  rw [String.toList_intercalate, List.map_map, List.map_map]
  exact congrArg _ (List.map_congr_left fun l hl => (Constant.chars_ofValue t (h l hl)).symm)

end Value

namespace Table

open Sql

variable {t : Table} {key : String} {items : List Value}

def keyType? (t : Table) (key : String) : Option ColumnType := t.columns.typeOf? (t.columnOf key)

/-- A test of the form `column IN (l₁,…,lₙ)`: at least one literal, none of them empty, and these of
the scalars of the value in order. -/
def InLeaves (t : Table) (key : String) (v : Value) (fragment : String) : Prop :=
  ∃ ls, ls ≠ [] ∧ "" ∉ ls ∧ ls = v.leaves.map (Value.literal (t.keyType? key)) ∧
    fragment = Ident.quoted (t.columnOf key) ++ " IN (" ++ ",".intercalate ls ++ ")"

theorem toList_membership {literals : String} {ss : List Slot}
    (h : literals.toList = [','].intercalate (ss.map Slot.chars)) :
    (Ident.quoted (t.columnOf key) ++ " IN (" ++ literals ++ ")").toList =
      Ident.encode (t.columnOf key).toList ++ (" IN ".toList ++ bracketed ss) := by
  simp [bracketed, Ident.toList_quoted, h]

/-- The test of a list that is not empty reads as its slots. -/
theorem readMembership_test (t : Table) (key : String) (hne : items ≠ []) :
    ∃ fragment, Condition.test? t key (.list items) = some fragment ∧
      readMembership fragment.toList =
        some ((t.columnOf key, (Value.list items).slots (t.keyType? key)), []) := by
  refine ⟨_, test?_list t key hne, ?_⟩
  rw [toList_membership (Value.toList_literal _ _)]
  exact readMembership_bracketed _ (Value.slots_ne_nil _ _)

theorem readMembership_inLeaves {v : Value} {fragment : String} (h : t.InLeaves key v fragment) :
    readMembership fragment.toList =
      some ((t.columnOf key, v.leaves.map fun l => .constant (.ofValue (t.keyType? key) l)), []) := by
  obtain ⟨_, hne, -, rfl, rfl⟩ := h
  rw [toList_membership
    (Value.toList_intercalate_literals _ fun l hl => Value.isList_of_mem_leaves hl)]
  exact readMembership_bracketed _ (by simpa using hne)

/-- An equality map with such an entry has its test between those of the other entries. -/
theorem compile_entry {entries : Fields Value} {before after : List (String × Value)}
    {e : String × Value} {fragment : String} (op : String)
    (h : entries.toList = before ++ e :: after)
    (hfragment : Condition.test? t e.1 e.2 = some fragment) :
    (Condition.equals entries).compile op t = "WHERE " ++ (Condition.joiner op).intercalate
      (before.filterMap (fun e => Condition.test? t e.1 e.2) ++ fragment ::
        after.filterMap fun e => Condition.test? t e.1 e.2) := by
  have htests : Condition.tests t entries =
      before.filterMap (fun e => Condition.test? t e.1 e.2) ++ fragment ::
        after.filterMap fun e => Condition.test? t e.1 e.2 := by
    rw [Condition.tests, h, List.filterMap_append]
    exact congrArg _ (List.filterMap_cons_some hfragment)
  rw [Condition.compile_equals (by simp [htests]), htests]

/-- A list under a key always makes a test. It is `1=0` exactly for the empty list; otherwise it
reads as the slots of the list, and it is an IN list of the literals of the scalars in order exactly
if no list anywhere inside is empty. -/
theorem in_list_filled_iff (t : Table) (key : String) (items : List Value) :
    ∃ fragment,
      (∀ op entries before after, entries.toList = before ++ (key, .list items) :: after →
        (Condition.equals entries).compile op t = "WHERE " ++ (Condition.joiner op).intercalate
          (before.filterMap (fun e => Condition.test? t e.1 e.2) ++ fragment ::
            after.filterMap fun e => Condition.test? t e.1 e.2)) ∧
      (fragment = "1=0" ↔ items = []) ∧
      (items ≠ [] → readMembership fragment.toList =
        some ((t.columnOf key, (Value.list items).slots (t.keyType? key)), [])) ∧
      (t.InLeaves key (.list items) fragment ↔ ¬ (Value.list items).HasEmpty) := by
  by_cases hne : items = []
  · subst hne
    refine ⟨"1=0", fun op entries before after h => compile_entry op h rfl, by simp,
      fun h => absurd rfl h, iff_of_false ?_ fun h => h .here⟩
    rintro ⟨_, hls, -, rfl, -⟩
    exact hls rfl
  obtain ⟨fragment, hfragment, hread⟩ := readMembership_test t key hne
  refine ⟨fragment, fun op entries before after h => compile_entry op h hfragment, ?_,
    fun _ => hread, ?_, ?_⟩
  · refine iff_of_false ?_ hne
    rintro rfl
    cases hread
  · -- both readings give the same slots, and those of the scalars have no hole
    intro h
    have hslots := hread.symm.trans (readMembership_inLeaves h)
    simp only [Option.some.injEq, Prod.mk.injEq, true_and, and_true] at hslots
    rw [← Value.hole_mem_slots_iff (t.keyType? key), hslots]
    simp
  · intro h
    have hleaves : (Value.list items).leaves ≠ [] := Value.leaves_ne_nil h
    refine ⟨_, by simpa using hleaves, ?_, rfl, ?_⟩
    · intro hempty
      obtain ⟨l, hl, hliteral⟩ := List.mem_map.1 hempty
      exact Value.literal_ne_empty _ (Value.isList_of_mem_leaves hl) hliteral
    · have hliteral : (Value.list items).literal (t.keyType? key) =
          ",".intercalate ((Value.list items).leaves.map (Value.literal (t.keyType? key))) := by
        apply String.toList_injective
        rw [Value.toList_literal, Value.slots_eq_leaves _ h, Value.toList_intercalate_literals]
        exact fun l hl => Value.isList_of_mem_leaves hl
      rw [test?_list t key hne, Option.some.injEq] at hfragment
      rw [← hfragment, ← hliteral]
      rfl

/-- Lists in lists under a position, which is the primary key, behind another entry: a `null`, a text
with a comma and a bracket, a bare number two lists deep, and a truth value as a string. -/
theorem in_list_filled_nested :
    let t : Table := ⟨"posts", "i\x60d", ⟨[⟨"i\x60d", "varchar(9)", false, false⟩], by decide⟩⟩
    let items : List Value :=
      [.list [.null, .text "a\x60,b)"], .list [.list [.text "7"]], .bool true]
    ∃ fragment,
      (Condition.equals ⟨[("a", .text "x"), ("0", .list items)], by decide⟩).compile "OR" t =
        "WHERE `a` = 'x' OR " ++ fragment ∧
      readMembership fragment.toList = some (("i\x60d", [.constant .null,
        .constant (.text "a\x60,b)"), .constant (.number "7" (by decide)),
        .constant (.text "1")]), []) ∧
      t.InLeaves "0" (.list items) fragment := by
  intro t items
  obtain ⟨fragment, hcompile, -, hread, hleaves⟩ := in_list_filled_iff t "0" items
  refine ⟨fragment, ?_, hread (List.cons_ne_nil _ _), hleaves.2 ?_⟩
  · have hjoiner : Condition.joiner "OR" = " OR " := by decide +kernel
    have hbefore : [("a", Value.text "x")].filterMap (fun e => Condition.test? t e.1 e.2) =
        ["`a` = 'x'"] := by decide +kernel
    rw [hcompile "OR" _ [("a", .text "x")] [] rfl, hjoiner, hbefore]
    apply String.toList_injective
    simp
  · rw [← Value.hole_mem_slots_iff none]
    decide +kernel

/-- An empty list inside a list makes an IN list with nothing in it, or with nothing before a comma.
-/
theorem in_list_left_empty :
    let t : Table := ⟨"posts", "id", ⟨[⟨"id", "int(11)", false, true⟩], by decide⟩⟩
    let alone : Value := .list [.list []]
    let first : Value := .list [.list [], .text "a"]
    (∃ fragment, Condition.test? t "id" alone = some fragment ∧
      fragment = "`id` IN ()" ∧ ¬ t.InLeaves "id" alone fragment) ∧
    ∃ fragment, Condition.test? t "id" first = some fragment ∧
      fragment = "`id` IN (,'a')" ∧ ¬ t.InLeaves "id" first fragment := by
  intro t alone first
  refine ⟨⟨_, rfl, by decide +kernel, ?_⟩, _, rfl, by decide +kernel, ?_⟩
  · rintro ⟨_, hne, -, rfl, -⟩
    exact hne rfl
  · rintro ⟨_, -, -, rfl, htext⟩
    revert htext
    decide +kernel

end Table

end OneTable
