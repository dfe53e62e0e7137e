import OneTable.Proofs.Column.DeclaredType
import OneTable.Proofs.Row.Integers
import OneTable.Proofs.Sql.UpdateReader

/-!
# Reading increments back

`Sql.readIncrement` reads `UPDATE name SET name = name + integer` off the front of a text, the two
names behind `SET` being the same. An increment is built exactly for a column of the table whose
declared type is one of integers, and it reads back: its table, its column and what is added. That
is the integer asked for if it has 64 bits with a sign. An integer beyond them is not refused: like
what is no integer at all it adds one (`Table.increment_adds_asked`).
-/

namespace OneTable

namespace Sql

open Number

/-! ### Integers -/

def readInteger : Reader Int
  | '-' :: cs => (readDigits cs).map fun p => (-p.1, p.2)
  | cs => (readDigits cs).map fun p => (p.1, p.2)

theorem Delimits.endsNumber {rest : List Char} (h : Delimits rest) : EndsNumber rest := by
  intro c hc
  have hbare := (h c hc).1
  rw [Literal.isBareChar, Bool.or_eq_false_iff, Bool.or_eq_false_iff] at hbare
  exact hbare.1.1

theorem readDigits_toDigits (n : Nat) {rest : List Char} (h : Delimits rest) :
    readDigits (Nat.toDigits 10 n ++ rest) = some (n, rest) := by
  rw [readDigits_append Nat.toDigits_ne_nil (isDigit_toDigits n) h.endsNumber,
    natOfDigits_toDigits]

/-- An integer reads back before whatever delimits it. -/
theorem readInteger_toString (z : Int) {rest : List Char} (h : Delimits rest) :
    readInteger ((toString z).toList ++ rest) = some (z, rest) := by
  cases z with
  | ofNat n =>
    have hchars : (toString (Int.ofNat n)).toList = Nat.toDigits 10 n := toList_toString_nat n
    rw [hchars, readInteger, readDigits_toDigits n h]
    · rfl
    · -- no digit is a hyphen
      intro cs hcs
      obtain ⟨d, ds, hds⟩ := List.exists_cons_of_ne_nil (Nat.toDigits_ne_nil (b := 10) (n := n))
      rw [hds] at hcs
      have hd := isDigit_toDigits n d (by simp [hds])
      rw [(List.cons.inj hcs).1] at hd
      exact absurd hd (by decide)
  | negSucc n =>
    rw [toList_toString_negSucc, List.cons_append, readInteger, readDigits_toDigits (n + 1) h]
    rfl

/-! ### Increments -/

/-- An increment up to its condition: the table, the column and what is added to it. -/
def readIncrement : Reader (String × String × Int) := fun cs => do
  let cs ← skip "UPDATE ".toList cs
  let (table, cs) ← readName cs
  let cs ← skip " SET ".toList cs
  let (column, cs) ← readName cs
  let cs ← skip " = ".toList cs
  let (old, cs) ← readName cs
  let cs ← skip " + ".toList cs
  let (n, cs) ← readInteger cs
  if old = column then return ((table, column, n), cs) else none

theorem readIncrement_written (table column : String) (n : Int) {rest : List Char}
    (h : Delimits rest) :
    readIncrement ("UPDATE ".toList ++ (Ident.encode table.toList ++ (" SET ".toList ++
      (Ident.encode column.toList ++ (" = ".toList ++ (Ident.encode column.toList ++
        (" + ".toList ++ ((toString n).toList ++ rest)))))))) =
      some ((table, column, n), rest) := by
  have hends : ∀ cs, EndsName (' ' :: cs) := endsName_cons (by decide)
  have htable := fun cs => readName_encode table (" SET ".toList ++ cs) (hends _)
  have hcolumn := fun cs => readName_encode column (" = ".toList ++ cs) (hends _)
  have hold := fun cs => readName_encode column (" + ".toList ++ cs) (hends _)
  simp only [readIncrement, skip_append, htable, hcolumn, hold, readInteger_toString n h,
    Option.bind_eq_bind, Option.bind_some, if_true]
  rfl

end Sql

namespace Table

open Sql Number

variable {t : Table} {c : Condition} {column : String} {step : Value} {o : Options} {z : Int}

/-! ### What is asked for and what is added -/

/-- An amount is a literal of an integer: a number, or a text that denotes one once trimmed. -/
inductive Asks : Value → Int → Prop
  | int (n : Int64) : Asks (.int n) n.toInt
  | uint (n : UInt64) : Asks (.uint n) n.toNat
  | text {s : String} {z : Int} (h : DenotesInt (Text.trim s.toList) z) : Asks (.text s) z

/-- An integer of 64 bits with a sign. -/
def Fits (z : Int) : Prop := Int64.minValue.toInt ≤ z ∧ z ≤ Int64.maxValue.toInt

instance (z : Int) : Decidable (Fits z) := inferInstanceAs (Decidable (_ ∧ _))

theorem fits_toInt (n : Int64) : Fits n.toInt := ⟨n.minValue_le_toInt, n.toInt_le⟩

theorem Fits.exists_toInt (h : Fits z) : ∃ n : Int64, n.toInt = z :=
  ⟨.ofIntLE z h.1 h.2, Int64.toInt_ofIntLE⟩

theorem amount_of_asks (h : Asks step z) :
    (Fits z ∧ (amount step).toInt = z) ∨ (¬ Fits z ∧ amount step = 1) := by
  cases h with
  | int n => exact .inl ⟨fits_toInt n, rfl⟩
  | uint n =>
    rw [amount]
    cases hn : int64Of? n.toNat with
    | some i =>
      have hi := int64Of?_eq_some_iff.1 hn
      exact .inl ⟨hi ▸ fits_toInt i, hi⟩
    | none =>
      refine .inr ⟨fun hfits => ?_, rfl⟩
      obtain ⟨i, hi⟩ := hfits.exists_toInt
      exact absurd (int64Of?_eq_some_iff.2 hi) (by simp [hn])
  | @text s _ hz =>
    rw [amount]
    cases hread : int64Of (Text.trim s.toList) with
    | ok i =>
      have hi := hz.unique (int64Of_eq_ok_iff.1 hread)
      exact .inl ⟨hi ▸ fits_toInt i, hi.symm⟩
    | error f =>
      refine .inr ⟨fun hfits => ?_, rfl⟩
      obtain ⟨i, hi⟩ := hfits.exists_toInt
      exact absurd (int64Of_eq_ok_iff.2 (hi ▸ hz)) (by simp [hread])

/-- One is added for what is no literal of an integer. -/
theorem amount_of_not_asks (h : ∀ z, ¬ Asks step z) : amount step = 1 := by
  cases step with
  | int n => exact absurd (.int n) (h _)
  | uint n => exact absurd (.uint n) (h _)
  | text s =>
    rw [amount]
    cases hread : int64Of (Text.trim s.toList) with
    | ok i => exact absurd (.text (int64Of_eq_ok_iff.1 hread)) (h _)
    | error f => rfl
  | _ => rfl

theorem toInt_amount_eq_iff (h : Asks step z) : (amount step).toInt = z ↔ Fits z := by
  rcases amount_of_asks h with ⟨hfits, hn⟩ | ⟨hfits, hn⟩
  · exact iff_of_true hn hfits
  · refine iff_of_false ?_ hfits
    rintro rfl
    exact hfits (fits_toInt _)

theorem amount_eq_one (h : ∀ z, Asks step z → ¬ Fits z) : amount step = 1 := by
  by_cases hasks : ∃ z, Asks step z
  · obtain ⟨z, hz⟩ := hasks
    rcases amount_of_asks hz with ⟨hfits, -⟩ | ⟨-, hn⟩
    · exact absurd hfits (h z hz)
    · exact hn
  · exact amount_of_not_asks (not_exists.1 hasks)

/-! ### The statement -/

theorem increment_eq_ok_iff {s : Statement} :
    t.increment c column step o = .ok s ↔
      t.columns.typeOf? column = some .integer ∧ s = .ofSql (t.incrementSql c column step o) := by
  rw [increment]
  split
  · rename_i h
    simp [h, eq_comm]
  · rename_i type hne h
    rw [h, Option.some_inj]
    exact iff_of_false nofun fun hs => hne hs.1
  · rename_i h
    simp [h]

/-- What follows the assignment. -/
def incrementRest (t : Table) (c : Condition) (o : Options) : List Char :=
  (Statement.spaced (c.compile o.operator t) ++ o.updateTail ++ ";").toList

theorem where_prefix_incrementRest (h : c.compile o.operator t ≠ "") :
    " WHERE ".toList <+: t.incrementRest c o := by
  obtain ⟨tests, htests⟩ := Condition.compile_eq_where h
  rw [incrementRest, htests, String.toList_append, String.toList_append, toList_spaced_where,
    List.append_assoc, List.append_assoc]
  exact List.prefix_append _ _

/-- The assignment is over: the statement ends there or goes on with its condition or, if there is
none, with its limit or its raw clause. -/
theorem incrementRest_cases (t : Table) (c : Condition) (o : Options) :
    t.incrementRest c o = [';'] ∨ " WHERE ".toList <+: t.incrementRest c o ∨
      " LIMIT ".toList <+: t.incrementRest c o ∨
      ∃ clause, o = .raw clause ∧ c.compile o.operator t = "" ∧
        [' '] <+: t.incrementRest c o := by
  by_cases hclause : c.compile o.operator t = ""
  · have hrest : t.incrementRest c o = o.updateTail.toList ++ [';'] := by
      rw [incrementRest, hclause]
      simp [Statement.spaced]
    rw [hrest]
    cases o with
    | entries e =>
      rw [Options.updateTail, Options.limitClause]
      cases Options.first? (.entries e) ["limit"] with
      | none => exact .inl rfl
      | some s =>
        refine .inr (.inr (.inl ⟨s.toList ++ [';'], ?_⟩))
        simp [Options.clause]
    | raw clause =>
      rw [Options.updateTail, Options.compile]
      split
      · exact .inl rfl
      · refine .inr (.inr (.inr ⟨clause, rfl, hclause, ?_⟩))
        simp
  · exact .inr (.inl (where_prefix_incrementRest hclause))

theorem delimits_incrementRest (t : Table) (c : Condition) (o : Options) :
    Delimits (t.incrementRest c o) := by
  have hblank : ∀ cs, Delimits (' ' :: cs) := delimits_cons (by decide) (by decide)
  rcases incrementRest_cases t c o with h | ⟨cs, h⟩ | ⟨cs, h⟩ | ⟨-, -, -, cs, h⟩
  · rw [h]
    exact delimits_cons (by decide) (by decide) []
  · rw [← h]
    exact hblank _
  · rw [← h]
    exact hblank _
  · rw [← h]
    exact hblank _

theorem readIncrement_sql (t : Table) (c : Condition) (column : String) (step : Value)
    (o : Options) :
    readIncrement (t.incrementSql c column step o).toList =
      some ((t.name, column, (amount step).toInt), t.incrementRest c o) := by
  have hsql : (t.incrementSql c column step o).toList = "UPDATE ".toList ++
      (Ident.encode t.name.toList ++ (" SET ".toList ++ (Ident.encode column.toList ++
        (" = ".toList ++ (Ident.encode column.toList ++ (" + ".toList ++
          ((toString (amount step).toInt).toList ++ t.incrementRest c o))))))) := by
    rw [incrementSql, updateSql, incrementRest]
    simp only [quotedName, String.toList_append, Ident.toList_quoted, List.append_assoc]
  rw [hsql, readIncrement_written _ _ _ (delimits_incrementRest t c o)]

/-- An increment is built exactly for a column of the table whose declared type, trimmed, in lower
case and cut at its first parenthesis or blank, is one of integers. It reads back as that column and
what is added to it, and behind that it ends or goes on with its condition, limit or raw clause.
What is added is the integer asked for exactly if that has 64 bits with a sign; in place of any
other, and where no integer is asked for, it is one. -/
theorem increment_adds_asked (t : Table) (c : Condition) (column : String) (step : Value)
    (o : Options) :
    ((∃ s, t.increment c column step o = .ok s) ↔
      ∃ col ∈ t.columns.toList, col.name = column ∧
        ColumnType.word col.declared ∈ ColumnType.integerNames) ∧
    (t.incrementRest c o = [';'] ∨ " WHERE ".toList <+: t.incrementRest c o ∨
      " LIMIT ".toList <+: t.incrementRest c o ∨
      ∃ clause, o = .raw clause ∧ c.compile o.operator t = "" ∧
        [' '] <+: t.incrementRest c o) ∧
    ∀ s, t.increment c column step o = .ok s → ∃ n,
      readIncrement s.sql.toList = some ((t.name, column, n), t.incrementRest c o) ∧
      (∀ z, Asks step z → (n = z ↔ Fits z)) ∧ ((∀ z, Asks step z → ¬ Fits z) → n = 1) := by
  refine ⟨?_, incrementRest_cases t c o, fun s hs => ?_⟩
  · simp only [increment_eq_ok_iff, exists_and_left, exists_eq, and_true,
      Columns.typeOf?_eq_integer_iff]
  · obtain ⟨-, rfl⟩ := increment_eq_ok_iff.1 hs
    refine ⟨_, readIncrement_sql t c column step o, fun z hz => toInt_amount_eq_iff hz,
      fun h => ?_⟩
    rw [amount_eq_one h]
    rfl

/-- The least integer that fits, as a text with blanks around it and zeros in front, for a column
whose name looks like an assignment and whose type is written in capitals. -/
theorem increment_adds_least :
    let t : Table := ⟨"posts", "id",
      ⟨[⟨"id", "int(11)", false, true⟩,
        ⟨"a\x60 = 1, \x60b", " BigInt(20) unsigned", false, false⟩], by decide⟩⟩
    let step : Value := .text "\t-009223372036854775808 "
    let o := Options.ofList [("limit", "2")]
    ∃ s, t.increment (.byId 4) "a\x60 = 1, \x60b" step o = .ok s ∧
      readIncrement s.sql.toList = some (("posts", "a\x60 = 1, \x60b", -9223372036854775808),
        " WHERE `id` = 4 LIMIT 2;".toList) := by
  intro t step o
  obtain ⟨hbuilt, -, hread⟩ := increment_adds_asked t (.byId 4) "a\x60 = 1, \x60b" step o
  obtain ⟨s, hs⟩ := hbuilt.2 ⟨_, List.mem_cons_of_mem _ List.mem_cons_self, rfl, by decide +kernel⟩
  obtain ⟨n, hn, hasked, -⟩ := hread s hs
  have htrim : Text.trim "\t-009223372036854775808 ".toList = "-009223372036854775808".toList := by
    decide
  have hdenotes : DenotesInt "-009223372036854775808".toList (-9223372036854775808) :=
    denotesInt_minus_iff.2 ⟨by decide, List.all_eq_true.1 (by decide), by decide⟩
  have hrest : t.incrementRest (.byId 4) o = " WHERE `id` = 4 LIMIT 2;".toList := by
    decide +kernel
  rw [(hasked _ (.text (htrim ▸ hdenotes))).2 (by decide), hrest] at hn
  exact ⟨s, hs, hn⟩

/-- An integer beyond 64 bits with a sign is replaced: a counter without a sign is to grow by
2 ^ 63 and grows by one. -/
theorem increment_replaces_large :
    let t : Table := ⟨"posts", "id",
      ⟨[⟨"id", "int(11)", false, true⟩, ⟨"views", "bigint(20) unsigned", false, false⟩],
        by decide⟩⟩
    let step : Value := .uint 9223372036854775808
    Asks step 9223372036854775808 ∧
      ∃ s, t.increment (.byId 4) "views" step .empty = .ok s ∧
        s.sql = "UPDATE `posts` SET `views` = `views` + 1 WHERE `id` = 4;" ∧
        readIncrement s.sql.toList = some (("posts", "views", 1), " WHERE `id` = 4;".toList) := by
  refine ⟨.uint _, _, rfl, ?_, ?_⟩
  · decide +kernel
  · decide +kernel

end Table

end OneTable
