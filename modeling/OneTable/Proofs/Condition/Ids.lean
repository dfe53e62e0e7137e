import OneTable.Proofs.Sql.Guards

/-!
# Spellings of an id

The row with an id is asked for by the id itself, by its digits as a fragment with blanks around
them, by an entry of an equality map under the primary key or under a position, or by a document:
a number, a text or a list of one number. All of them compile to one and the same test of the
primary key (`Condition.compile_of_spellsId`), whatever is known of its column.
-/

namespace OneTable

/-- The values with the digits `d`: the text and the integers. -/
inductive Value.SpellsId (d : String) : Value → Prop
  | text : SpellsId d (.text d)
  | uint (n : UInt64) (h : toString n.toNat = d) : SpellsId d (.uint n)
  | int (n : Int64) (h : toString n.toInt = d) : SpellsId d (.int n)

/-- The conditions on the row whose primary key, of the given name, has the digits `d`. -/
inductive Condition.SpellsId (key d : String) : Condition → Prop
  | fragment {before after : String} (hb : ∀ c ∈ before.toList, Text.isBlank c = true)
    (ha : ∀ c ∈ after.toList, Text.isBlank c = true) : SpellsId key d (.raw (before ++ d ++ after))
  | entry {name : String} {v : Value} {entries : Fields Value}
    (hname : name = key ∨ Text.isDigits name = true) (hv : v.SpellsId d)
    (h : entries.toList = [(name, v)]) : SpellsId key d (.equals entries)
  | id (n : UInt64) (h : toString n.toNat = d) : SpellsId key d (.byId n)
  | integer (n : UInt64) (h : toString n.toNat = d) : SpellsId key d (.ofInt n.toNat)
  | jsonNumber (n : UInt64) (fits) (h : toString n.toNat = d) :
    SpellsId key d (.ofJson (.integer n.toNat fits))
  | jsonText : SpellsId key d (.ofJson (.string d))
  | jsonList (n : UInt64) (fits) (h : toString n.toNat = d) :
    SpellsId key d (.ofJson (.array [.integer n.toNat fits]))

namespace Value

variable {d : String} {v : Value}

theorem SpellsId.text?_eq (h : v.SpellsId d) : v.text? = some d := by
  cases h with
  | text => rfl
  | uint n h => rw [text?, h]
  | int n h => rw [text?, h]

theorem SpellsId.literal_eq (h : v.SpellsId d) (hd : Text.isDigits d = true)
    (t : Option ColumnType) : v.literal t = d := by
  have htext : v.literal t = Literal.ofText (v.text?.getD "") := by
    cases h with
    | text => rfl
    | uint n h => rfl
    | int n h => rfl
  rw [htext, h.text?_eq, Option.getD_some, Literal.ofText, if_pos (Sql.isBare_of_isDigits hd)]

theorem spellsId_ofInteger (n : UInt64) (fits) :
    (ofInteger n.toNat fits).SpellsId (toString n.toNat) := by
  unfold ofInteger
  split
  · refine .int _ ?_
    rw [Int64.toInt_ofIntLE]
    rfl
  · refine .uint _ ?_
    rw [UInt64.toNat_ofNatLT, Int.toNat_natCast]

end Value

namespace Condition

variable {t : Table} {d name : String} {v : Value} {c : Condition}

theorem compile_digits (hd : Text.isDigits d = true) {before after : String}
    (hb : ∀ c ∈ before.toList, Text.isBlank c = true)
    (ha : ∀ c ∈ after.toList, Text.isBlank c = true) (op : String) (t : Table) :
    (raw (before ++ d ++ after)).compile op t = "WHERE " ++ idTest t d := by
  have hne : d.toList ≠ [] := by
    intro h
    simp [Text.isDigits, h] at hd
  have htrim : Text.trimmed (before ++ d ++ after) = d := by
    rw [Text.trimmed, String.toList_append, String.toList_append, Text.trim_padded hb ha hne,
      String.ofList_toList]
    exact fun c hc => (Sql.isPlain_of_isDigits hd c hc).2.1
  rw [compile, htrim, if_neg (by simpa using hne), if_pos hd]

/-- An entry under the primary key or a position is the same test of the primary key. -/
theorem test?_of_spellsId (hd : Text.isDigits d = true)
    (hname : name = t.primaryKey ∨ Text.isDigits name = true) (hv : v.SpellsId d) :
    test? t name v = some (idTest t d) := by
  have hscalar : test? t name v =
      if Text.isDigits name then (v.text?.filter Text.isDigits).map (idTest t)
      else some (Ident.quoted name ++ " = " ++ (t.columns.quote v name).text) := by
    cases hv with
    | text => rfl
    | uint n h => rfl
    | int n h => rfl
  rw [hscalar]
  split
  · rw [hv.text?_eq, Option.filter_some, if_pos hd, Option.map_some]
  · rename_i hnumeric
    rw [hname.resolve_right hnumeric, Columns.text_quote, hv.literal_eq hd, idTest]

theorem compile_entry_of_spellsId (hd : Text.isDigits d = true)
    (hname : name = t.primaryKey ∨ Text.isDigits name = true) (hv : v.SpellsId d)
    {entries : Fields Value} (h : entries.toList = [(name, v)]) (op : String) :
    (equals entries).compile op t = "WHERE " ++ idTest t d := by
  have htests : tests t entries = [idTest t d] := by
    simp [tests, h, test?_of_spellsId hd hname hv]
  rw [compile, htests]
  rfl

theorem ofInt_toNat (n : UInt64) : ofInt n.toNat = byId n := by
  rw [ofInt, Number.uint64Of?_toNat]

/-- However an id is spelled, the condition compiles to the same test of the primary key. -/
theorem compile_of_spellsId (hd : Text.isDigits d = true) (t : Table) (op : String)
    (h : c.SpellsId t.primaryKey d) :
    c.compile op t = "WHERE " ++ Ident.quoted t.primaryKey ++ " = " ++ d := by
  have hgoal : "WHERE " ++ idTest t d = "WHERE " ++ Ident.quoted t.primaryKey ++ " = " ++ d := by
    simp only [idTest, String.append_assoc]
  rw [← hgoal]
  cases h with
  | fragment hb ha => exact compile_digits hd hb ha op t
  | entry hname hv h => exact compile_entry_of_spellsId hd hname hv h op
  | id n h => rw [compile, h]
  | integer n h => rw [ofInt_toNat, compile, h]
  | jsonNumber n fits h => rw [ofJson, ofInt_toNat, compile, h]
  | jsonText =>
    have hempty : ∀ c ∈ "".toList, Text.isBlank c = true := by simp
    have hpadded := compile_digits hd hempty hempty op t
    rwa [String.empty_append, String.append_empty] at hpadded
  | jsonList n fits h =>
    have hentries : ofJson (.array [.integer n.toNat fits]) =
        equals (.ofList [(toString 0, .ofInteger n.toNat fits)]) := by
      simp [ofJson, Value.ofJsons, Value.ofJson]
    have hv := Value.spellsId_ofInteger n fits
    rw [h] at hv
    rw [hentries]
    exact compile_entry_of_spellsId hd (.inr (Table.isDigits_toString 0)) hv
      (Fields.toList_ofList_singleton ..) op

/-- Digits with zeros in front, for a key with a back-quote in its name and a column of texts. -/
theorem compile_of_spellsId_padded :
    let t : Table := ⟨"posts", "7\x60", ⟨[⟨"7\x60", "varchar(9)", true, false⟩], by decide⟩⟩
    ∀ c ∈ [raw ("\t" ++ "007" ++ " \n"), equals ⟨[("12", .text "007")], by decide⟩,
        equals ⟨[("7\x60", .text "007")], by decide⟩, ofJson (.string "007")],
      c.compile "OR" t = "WHERE `7``` = 007" := by
  intro t c hc
  have hspelled : c.SpellsId t.primaryKey "007" := by
    simp only [List.mem_cons, List.not_mem_nil, or_false] at hc
    rcases hc with rfl | rfl | rfl | rfl
    · exact .fragment (List.all_eq_true.1 (by decide)) (List.all_eq_true.1 (by decide))
    · exact .entry (.inr (by decide)) .text rfl
    · exact .entry (.inl rfl) .text rfl
    · exact .jsonText
  have hclause : "WHERE " ++ Ident.quoted t.primaryKey ++ " = " ++ "007" = "WHERE `7``` = 007" := by
    decide +kernel
  rw [← hclause]
  exact compile_of_spellsId (by decide) t "OR" hspelled

end Condition

end OneTable
