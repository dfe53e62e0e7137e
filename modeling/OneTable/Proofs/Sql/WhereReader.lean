import OneTable.Proofs.Sql.Guards

/-!
# Reading WHERE back

`Sql.readWhere` reads `WHERE test AND test ...` off the front of a text, where a test compares a
column with a constant, with a list of constants, or is the `1=0` that no row passes. What an
equality map compiles to reads back as a whole: one test per entry that makes one, in order, of the
column and the values that the entry is about (`Table.where_reads_back`). Nothing in a name or a
value adds a test, takes one away or moves it to another column.

An entry under a position tests the primary key, and makes no test at all when its value is a scalar
but no number of digits (`Table.makesTest`).
-/

namespace OneTable

universe u v

namespace Sql

/-- One test of a WHERE clause. -/
inductive Test (α : Type u)
  /-- The test that no row passes. -/
  | never
  | equals (column : String) (a : α)
  | among (column : String) (as : List α)
deriving DecidableEq, Repr

def Test.map {α : Type u} {β : Type v} (f : α → β) : Test α → Test β
  | .never => .never
  | .equals column a => .equals column (f a)
  | .among column as => .among column (as.map f)

/-- The word between two tests. -/
inductive Connective
  | and
  | or
deriving DecidableEq, Repr

namespace Connective

def word : Connective → String
  | .and => "AND"
  | .or => "OR"

def between (op : Connective) : List Char := ' ' :: op.word.toList ++ [' ']

theorem toList_joiner (op : Connective) : (Condition.joiner op.word).toList = op.between := by
  cases op <;> decide

end Connective

/-! ### One test -/

/-- What is compared with a column, behind its name. -/
def readComparison (column : String) : Reader (Test Constant) := fun cs =>
  match skip " = ".toList cs with
  | some cs => (readConstant cs).map fun p => (.equals column p.1, p.2)
  | none => do
    let cs ← skip " IN (".toList cs
    let (constants, cs) ← readSeparated [','] readConstant cs
    let cs ← skip [')'] cs
    return (.among column constants, cs)

def readTest : Reader (Test Constant) := fun cs =>
  match skip "1=0".toList cs with
  | some cs => some (.never, cs)
  | none => (readName cs).bind fun p => readComparison p.1 p.2

namespace Test

variable {rest : List Char}

def chars : Test Constant → List Char
  | .never => "1=0".toList
  | .equals column k => Ident.encode column.toList ++ " = ".toList ++ k.chars
  | .among column ks =>
    Ident.encode column.toList ++ " IN (".toList ++ [','].intercalate (ks.map Constant.chars) ++
      [')']

/-- A list of constants has something in it. -/
def Filled {α : Type u} : Test α → Prop
  | .among _ as => as ≠ []
  | _ => True

/-- A test on a column begins with the name of the column, so it is not taken for `1=0`. -/
theorem readTest_name (column : String) {cs : List Char} (h : EndsName cs) :
    readTest (Ident.encode column.toList ++ cs) = readComparison column cs := by
  have hskip : skip "1=0".toList (Ident.encode column.toList ++ cs) = none := rfl
  rw [readTest, hskip, readName_encode column cs h, Option.bind_some]

theorem readComparison_equals (column : String) (k : Constant) (h : Delimits rest) :
    readComparison column (" = ".toList ++ (k.chars ++ rest)) = some (.equals column k, rest) := by
  rw [readComparison, skip_append]
  dsimp only
  rw [readConstant_chars k h, Option.map_some]

theorem readComparison_among (column : String) {ks : List Constant} (hks : ks ≠ []) :
    readComparison column
        (" IN (".toList ++ ([','].intercalate (ks.map Constant.chars) ++ ')' :: rest)) =
      some (.among column ks, rest) := by
  have hskip : ∀ cs, skip " = ".toList (" IN (".toList ++ cs) = none := fun _ => rfl
  have hlist := readSeparated_intercalate [','] Delimits (by simp)
    (delimits_cons (by decide) (by decide)) hks (fun k _ _ hrest => readConstant_chars k hrest)
    (delimits_cons (c := ')') (by decide) (by decide) rest) rfl
  rw [List.map_id'] at hlist
  rw [readComparison, hskip]
  simp only [skip_append, Option.bind_eq_bind, Option.bind_some, hlist, skip_cons_self, skip_nil]
  rfl

/-- A test reads back before whatever delimits it. -/
theorem readTest_chars (t : Test Constant) (ht : t.Filled) (h : Delimits rest) :
    readTest (t.chars ++ rest) = some (t, rest) := by
  cases t with
  | never => rw [chars, readTest, skip_append]
  | equals column k =>
    rw [chars, List.append_assoc, List.append_assoc, readTest_name]
    · exact readComparison_equals column k h
    · exact endsName_cons (c := ' ') (by decide) _
  | among column ks =>
    rw [chars, List.append_assoc, List.append_assoc, List.append_assoc, readTest_name]
    · exact readComparison_among column ht
    · exact endsName_cons (c := ' ') (by decide) _

end Test

/-! ### A clause -/

def readWhere (op : Connective) : Reader (List (Test Constant)) := fun cs =>
  (skip "WHERE ".toList cs).bind (readSeparated op.between readTest)

theorem readWhere_intercalate (op : Connective) {ts : List (Test Constant)} (hne : ts ≠ [])
    (h : ∀ t ∈ ts, t.Filled) :
    readWhere op ("WHERE ".toList ++ op.between.intercalate (ts.map Test.chars)) =
      some (ts, []) := by
  have hsep : ∀ rest, Delimits (op.between ++ rest) := fun rest => by
    exact delimits_cons (c := ' ') (by decide) (by decide) _
  have hnil : Delimits [] := fun c hc => by cases hc
  have hread := readSeparated_intercalate op.between Delimits (by cases op <;> decide)
    hsep hne (fun t ht _ hrest => t.readTest_chars (h t ht) hrest) hnil (by cases op <;> rfl)
  rw [List.map_id', List.append_nil] at hread
  rw [readWhere, skip_append, Option.bind_some, hread]

end Sql

/-! ### Equality maps -/

/-- A scalar or a list of scalars. -/
def Value.Flat : Value → Prop
  | .list items => ∀ v ∈ items, v.isList = false
  | _ => True

namespace Table

open Sql

variable {t : Table} {e : String × Value} {entries : Fields Value}

/-- The entry makes a test: only a scalar under a position may make none. -/
def makesTest (e : String × Value) : Bool := !Text.isDigits e.1 || e.2.isList || e.2.isDigits

/-- The column that an entry under `key` is about; a position stands for the primary key. -/
def columnOf (t : Table) (key : String) : String :=
  if Text.isDigits key then t.primaryKey else key

/-- What an entry asks of a row. -/
def testOf (t : Table) (e : String × Value) : Test Value :=
  match e.2 with
  | .list [] => .never
  | .list items => .among (t.columnOf e.1) items
  | v => .equals (t.columnOf e.1) v

/-- The constant that a value of an entry is written as. A number under a position stands as it is,
whatever the type of the primary key. -/
def constantOf (t : Table) (e : String × Value) (v : Value) : Constant :=
  if Text.isDigits e.1 && !e.2.isList then .ofText (v.text?.getD "")
  else .ofValue (t.columns.typeOf? (t.columnOf e.1)) v

/-- What an entry asks, with the constants that it is written with. -/
def writtenTest (t : Table) (e : String × Value) : Test Constant :=
  (t.testOf e).map (t.constantOf e)

theorem testOf_scalar (t : Table) (key : String) {v : Value} (hv : v.isList = false) :
    t.testOf (key, v) = .equals (t.columnOf key) v := by
  cases v with
  | list items => simp [Value.isList] at hv
  | _ => rfl

theorem testOf_list (t : Table) (key : String) {items : List Value} (hne : items ≠ []) :
    t.testOf (key, .list items) = .among (t.columnOf key) items := by
  cases items with
  | nil => exact absurd rfl hne
  | cons v items => rfl

theorem filled_writtenTest : (t.writtenTest e).Filled := by
  unfold writtenTest
  obtain ⟨key, v⟩ := e
  by_cases hv : v.isList = false
  · rw [testOf_scalar t key hv]
    trivial
  · cases v with
    | list items =>
      cases items with
      | nil => trivial
      | cons v items => exact List.cons_ne_nil _ _
    | _ => exact absurd rfl hv

/-- The constants of a test denote the values that its entry is about. -/
theorem text?_writtenTest (he : e.2.Flat) (hmakes : makesTest e = true) :
    (t.writtenTest e).map Constant.text? = (t.testOf e).map Value.text? := by
  obtain ⟨key, v⟩ := e
  unfold writtenTest
  by_cases hv : v.isList = false
  · rw [testOf_scalar t key hv]
    refine congrArg (Test.equals _) ?_
    unfold constantOf
    split
    · rename_i hkey
      -- a position makes a test of a number only, and a number has a text
      have hkey : Text.isDigits key = true := by simpa [hv] using hkey
      have hdigits : v.isDigits = true := by simpa [makesTest, hv, hkey] using hmakes
      cases hs : v.text? with
      | none => simp [Value.isDigits, hs] at hdigits
      | some s => exact Constant.text?_ofText s
    · exact Constant.text?_ofValue _ hv
  · cases v with
    | list items =>
      cases items with
      | nil => rfl
      | cons v items =>
        refine congrArg (Test.among _) ?_
        rw [List.map_map]
        refine List.map_congr_left fun w hw => ?_
        rw [Function.comp, constantOf, if_neg (by simp [Value.isList])]
        exact Constant.text?_ofValue _ (he w hw)
    | _ => exact absurd rfl hv

theorem chars_equals (q : Equation) : (Test.equals q.1 q.2).chars = written (equation q) := by
  simp [Test.chars, equation, Piece.chars]

theorem toList_test?_scalar (t : Table) (key : String) {v : Value} (hv : v.isList = false) :
    (Condition.test? t key v).map String.toList =
      if makesTest (key, v) then some (t.writtenTest (key, v)).chars else none := by
  rw [toList_test? key hv, equation?, writtenTest, testOf_scalar t key hv]
  by_cases hkey : Text.isDigits key = true
  · have hmakes : makesTest (key, v) = v.isDigits := by simp [makesTest, hkey, hv]
    have hcolumn : t.columnOf key = t.primaryKey := if_pos hkey
    rw [if_pos hkey, hmakes, hcolumn, Value.isDigits]
    cases hs : v.text? with
    | none => rfl
    | some s =>
      by_cases hd : Text.isDigits s = true
      · simp [hd, hs, hv, hkey, constantOf, Test.map, ← chars_equals]
      · simp [hd]
  · have hmakes : makesTest (key, v) = true := by simp [makesTest, hkey]
    have hcolumn : t.columnOf key = key := if_neg hkey
    simp [hkey, hmakes, hcolumn, constantOf, Test.map, ← chars_equals]

theorem test?_list (t : Table) (key : String) {items : List Value} (hne : items ≠ []) :
    Condition.test? t key (.list items) =
      some (Ident.quoted (t.columnOf key) ++ " IN (" ++
        (Value.list items).literal (t.columns.typeOf? (t.columnOf key)) ++ ")") := by
  cases items with
  | nil => exact absurd rfl hne
  | cons v items => rfl

theorem toList_test?_list (t : Table) (key : String) {items : List Value} (hne : items ≠ [])
    (h : ∀ v ∈ items, v.isList = false) :
    (Condition.test? t key (.list items)).map String.toList =
      some (t.writtenTest (key, .list items)).chars := by
  have hchars : items.map (String.toList ∘ Value.literal (t.columns.typeOf? (t.columnOf key))) =
      items.map (Constant.chars ∘ t.constantOf (key, .list items)) := by
    refine List.map_congr_left fun v hv => ?_
    have hconstant : t.constantOf (key, .list items) v =
        .ofValue (t.columns.typeOf? (t.columnOf key)) v := if_neg (by simp [Value.isList])
    rw [Function.comp, Function.comp, hconstant, Constant.chars_ofValue _ (h v hv)]
  rw [test?_list t key hne, Value.literal, Value.literals_eq_map, writtenTest,
    testOf_list t key hne]
  simp [Test.map, Test.chars, Ident.toList_quoted, String.toList_intercalate, hchars]

/-- What an entry is written as, if it makes a test. -/
theorem toList_test?_flat (t : Table) (he : e.2.Flat) :
    (Condition.test? t e.1 e.2).map String.toList =
      if makesTest e then some (t.writtenTest e).chars else none := by
  obtain ⟨key, v⟩ := e
  by_cases hv : v.isList = false
  · exact toList_test?_scalar t key hv
  · cases v with
    | list items =>
      have hmakes : makesTest (key, .list items) = true := by simp [makesTest, Value.isList]
      rw [if_pos hmakes]
      by_cases hne : items = []
      · subst hne
        rfl
      · exact toList_test?_list t key hne he
    | _ => exact absurd rfl hv

/-- The entries that make a test, in order. -/
def tested (entries : Fields Value) : List (String × Value) := entries.toList.filter makesTest

theorem toList_tests_flat (t : Table) (h : ∀ e ∈ entries.toList, e.2.Flat) :
    (Condition.tests t entries).map String.toList =
      (tested entries).map fun e => (t.writtenTest e).chars := by
  rw [Condition.tests, tested, List.map_filterMap, ← List.filterMap_eq_map, List.filterMap_filter]
  exact List.filterMap_congr fun e he => toList_test?_flat t (h e he)

/-- A WHERE clause reads back. An equality map of scalars and lists of scalars compiles to no text
exactly when none of its entries makes a test. Otherwise the text reads back with nothing left over,
as one test per entry that makes one, in order, and these are of the columns and the values that the
entries are about. -/
theorem where_reads_back (t : Table) (op : Connective) {entries : Fields Value}
    (h : ∀ e ∈ entries.toList, e.2.Flat) :
    ((Condition.equals entries).compile op.word t = "" ↔ tested entries = []) ∧
    (tested entries ≠ [] →
      readWhere op ((Condition.equals entries).compile op.word t).toList =
        some ((tested entries).map t.writtenTest, [])) ∧
    ∀ e ∈ tested entries, (t.writtenTest e).map Constant.text? = (t.testOf e).map Value.text? := by
  have htests := toList_tests_flat t h
  have htexts : ∀ e ∈ tested entries,
      (t.writtenTest e).map Constant.text? = (t.testOf e).map Value.text? := by
    intro e he
    obtain ⟨hmem, hmakes⟩ := List.mem_filter.1 he
    exact text?_writtenTest (h e hmem) hmakes
  rw [Condition.compile_equals_eq_empty_iff]
  by_cases hs : Condition.tests t entries = []
  · rw [hs, List.map_nil, eq_comm, List.map_eq_nil_iff] at htests
    exact ⟨iff_of_true hs htests, fun hne => absurd htests hne, htexts⟩
  · have hne : tested entries ≠ [] := by
      intro hnil
      rw [hnil, List.map_nil, List.map_eq_nil_iff] at htests
      exact hs htests
    have hfilled : ∀ x ∈ (tested entries).map t.writtenTest, x.Filled := by
      intro x hx
      obtain ⟨e, -, rfl⟩ := List.mem_map.1 hx
      exact filled_writtenTest
    have hread := readWhere_intercalate op (by simpa using hne) hfilled
    refine ⟨iff_of_false hs hne, fun _ => ?_, htexts⟩
    rw [List.map_map] at hread
    rw [Condition.compile_equals hs, String.toList_append, String.toList_intercalate,
      op.toList_joiner, htests]
    exact hread

/-- Names and texts full of what could end them or join two tests, a dropped entry and a list under
positions, and an empty list. -/
theorem where_reads_back_hostile :
    let t : Table := ⟨"posts", "i\x60d", ⟨[⟨"i\x60d", "int", false, true⟩], by decide⟩⟩
    let entries : Fields Value := ⟨[("a\x60 OR 1=0", .text "\x27 OR \x60b\x60 = \\"),
      ("0", .text "x"), ("1", .list [.text "7", .null, .text ") OR ("]), ("c", .list []),
      ("02", .bool true)], by decide⟩
    readWhere .or ((Condition.equals entries).compile "OR" t).toList =
      some ([.equals "a\x60 OR 1=0" (.text "\x27 OR \x60b\x60 = \\"),
        .among "i\x60d" [.number "7" (by decide), .null, .text ") OR ("], .never,
        .equals "i\x60d" (.number "1" (by decide))], []) := by
  intro t entries
  have hflat : ∀ e ∈ entries.toList, e.2.Flat := by
    intro e he
    simp only [entries, List.mem_cons, List.not_mem_nil, or_false] at he
    rcases he with rfl | rfl | rfl | rfl | rfl
    · trivial
    · trivial
    · simp [Value.Flat, Value.isList]
    · simp [Value.Flat]
    · trivial
  have htested : tested entries ≠ [] :=
    List.ne_nil_of_mem (List.mem_filter.2 ⟨List.mem_cons_self, by decide⟩)
  exact (where_reads_back t .or hflat).2.1 htested

end Table

end OneTable
