import OneTable.Proofs.Condition.Ids
import OneTable.Proofs.Number.Layout

/-!
# Numbers as conditions

An integer is the same condition on its own and in a document: an id if it is one, a fragment
otherwise. A floating-point number is a fragment both ways, but of different texts. On its own a
whole number without a sign is written with digits alone and so tests the primary key; in a
document it keeps `.0` or an exponent, and the fragment is a constant that is true for every row
or for none. Only numbers with places behind the point come to one clause in both forms, and of
these not all (`compile_number`).
-/

namespace OneTable.Condition

open Number

variable {s : String} {x : Float}

/-! ### Fragments that are numbers -/

theorem isBlank_of_isNumeral {c : Char} (h : isNumeral c = true) : Text.isBlank c = false := by
  simp only [isNumeral, Bool.or_eq_true, beq_iff_eq] at h
  rcases h with (((h | rfl) | rfl) | rfl) | rfl
  · exact Sql.isBlank_of_isBareChar (by simp [Literal.isBareChar, h])
  · decide
  · decide
  · decide
  · decide

theorem compile_numeral (hs : ∀ c ∈ s.toList, isNumeral c = true) (hne : s.toList ≠ [])
    (op : String) (t : Table) :
    (raw s).compile op t = "WHERE " ++ if Text.isDigits s then idTest t s else s := by
  have htrim : Text.trimmed s = s := by
    rw [Text.trimmed, Text.trim_eq_self, String.ofList_toList]
    · exact fun c hc => isBlank_of_isNumeral (hs c (List.mem_of_mem_head? hc))
    · exact fun c hc => isBlank_of_isNumeral (hs c (List.mem_of_mem_getLast? hc))
  rw [compile, htrim, if_neg (by simpa using hne)]
  split <;> rfl

/-- A test of the primary key begins with a quoted name, which no number does. -/
theorem idTest_ne_numeral (hs : ∀ c ∈ s.toList, isNumeral c = true) (t : Table) (id : String) :
    s ≠ idTest t id := by
  rintro rfl
  have hquote : Ident.quote ∈ (idTest t id).toList := by
    simp [idTest, Ident.toList_quoted, Ident.encode]
  exact absurd (hs _ hquote) (by decide)

theorem compile_ofFloat (hx : x.isFinite = true) (op : String) (t : Table) :
    (ofFloat x).compile op t = "WHERE " ++
      if Text.isDigits (plainText x) then idTest t (plainText x) else plainText x :=
  compile_numeral (isNumeral_render hx rfl) (toList_render_ne_nil hx rfl) op t

theorem compile_ofJson_float (hx : x.isFinite = true) (op : String) (t : Table) :
    (ofJson (.float x)).compile op t = "WHERE " ++ (Json.float x).text := by
  have hplain : Json.numberStyle.plain 0 = true := by decide
  have hclause : (ofJson (.float x)).compile op t = "WHERE " ++
      if Text.isDigits (Json.float x).text then idTest t (Json.float x).text
      else (Json.float x).text :=
    compile_numeral (isNumeral_render hx hplain) (toList_render_ne_nil hx hplain) op t
  rw [hclause, isDigits_jsonText hx, if_neg Bool.false_ne_true]

/-! ### Clauses -/

/-- On its own a number tests the primary key if it is whole and has no sign. -/
theorem compile_ofFloat_eq_idTest_iff (hx : x.isFinite = true) (op : String) (t : Table) :
    (∃ id, (ofFloat x).compile op t = "WHERE " ++ idTest t id) ↔
      isNegative x = false ∧ IsWhole x := by
  rw [← isDigits_plainText_iff hx]
  constructor
  · rintro ⟨id, h⟩
    by_contra hdigits
    rw [compile_ofFloat hx, if_neg hdigits, String.append_right_inj] at h
    exact idTest_ne_numeral (isNumeral_render hx rfl) t id h
  · intro hdigits
    exact ⟨plainText x, by rw [compile_ofFloat hx, if_pos hdigits]⟩

/-- In a document it never does. -/
theorem compile_ofJson_float_ne_idTest (hx : x.isFinite = true) (op : String) (t : Table)
    (id : String) : (ofJson (.float x)).compile op t ≠ "WHERE " ++ idTest t id := by
  rw [compile_ofJson_float hx, Ne, String.append_right_inj]
  exact idTest_ne_numeral (isNumeral_render hx (by decide)) t id

theorem compile_ofFloat_eq_byId (hx : x.isFinite = true) {n : UInt64} (hn : n.toNat < 2 ^ 53)
    (hsign : isNegative x = false) (h : absValue x = n.toNat) (op : String) (t : Table) :
    (ofFloat x).compile op t = (byId n).compile op t := by
  have hdigits := (isDigits_plainText_iff hx).2 ⟨hsign, n.toNat, h⟩
  rw [compile_ofFloat hx, if_pos hdigits, plainText_of_value_eq hx hn hsign h, compile]

theorem compile_ofJson_float_eq_iff (hx : x.isFinite = true) (op : String) (t : Table) :
    (ofJson (.float x)).compile op t = (ofFloat x).compile op t ↔
      (Json.float x).text = plainText x := by
  rw [compile_ofJson_float hx, compile_ofFloat hx, String.append_right_inj]
  split
  · rename_i hdigits
    refine iff_of_false (idTest_ne_numeral (isNumeral_render hx (by decide)) t _) fun h => ?_
    rw [← h, isDigits_jsonText hx] at hdigits
    cases hdigits
  · rfl

/-- Integers come to one clause on their own and in a document. A floating-point number tests the
primary key on its own if it is whole and has no sign, and then like the integer it is equal to,
as far as all integers are numbers; in a document it never does. The two clauses are the same
exactly for a number that is not whole, is not halfway between two shortest decimals and is
written without an exponent. -/
theorem compile_number (op : String) (t : Table) :
    (∀ (n : UInt64) (fits),
      (ofJson (.integer n.toNat fits)).compile op t = (byId n).compile op t) ∧
    (∀ (n : Int64) (fits),
      (ofJson (.integer n.toInt fits)).compile op t = (ofInt n.toInt).compile op t) ∧
    ∀ x : Float, x.isFinite = true →
      ((∃ id, (ofFloat x).compile op t = "WHERE " ++ idTest t id) ↔
        isNegative x = false ∧ IsWhole x) ∧
      (∀ n : UInt64, n.toNat < 2 ^ 53 → isNegative x = false → absValue x = n.toNat →
        (ofFloat x).compile op t = (byId n).compile op t) ∧
      (∀ id, (ofJson (.float x)).compile op t ≠ "WHERE " ++ idTest t id) ∧
      ((ofJson (.float x)).compile op t = (ofFloat x).compile op t ↔
        ¬ IsWhole x ∧ decimalOf x .away = decimalOf x .even ∧
          10 ^ (-5 : ℤ) ≤ (decimalOf x .even).value) := by
  refine ⟨fun n fits => ?_, fun n fits => rfl, fun x hx => ⟨?_, ?_, ?_, ?_⟩⟩
  · rw [ofJson, ofInt_toNat]
  · exact compile_ofFloat_eq_idTest_iff hx op t
  · exact fun n hn hsign h => compile_ofFloat_eq_byId hx hn hsign h op t
  · exact compile_ofJson_float_ne_idTest hx op t
  · rw [compile_ofJson_float_eq_iff hx, jsonText_eq_plainText_iff hx]

/-- The whole number four is the id 4 on its own, and two and a half is one fragment both ways. -/
theorem compile_number_four :
    let t : Table := ⟨"posts", "id", {}⟩
    (4.0 : Float).isFinite = true ∧ (ofFloat 4.0).compile "AND" t = (byId 4).compile "AND" t ∧
      (2.5 : Float).isFinite = true ∧
      (ofJson (.float 2.5)).compile "AND" t = (ofFloat 2.5).compile "AND" t := by
  intro t
  have hfour : (4.0 : Float).isFinite = true := by decide +kernel
  have hhalf : (2.5 : Float).isFinite = true := by decide +kernel
  have hvalue : absValue 4.0 = (4 : UInt64).toNat := by
    have hbits : Binary.ofBits (magnitude 4.0) = ⟨2 ^ 52, -50, true⟩ := by decide +kernel
    rw [absValue, hbits, Binary.value, show (4 : UInt64).toNat = 4 from rfl]
    norm_num
  have hdecimal : ∀ tie, decimalOf 2.5 tie = ⟨25, -1⟩ := by
    intro tie
    cases tie <;> decide +kernel
  have hwhole : ¬ IsWhole 2.5 := by
    rw [isWhole_iff 2.5 .even, hdecimal]
    decide
  refine ⟨hfour, ?_, hhalf, ?_⟩
  · exact ((compile_number "AND" t).2.2 4.0 hfour).2.1 4 (by decide) (by decide +kernel) hvalue
  · refine ((compile_number "AND" t).2.2 2.5 hhalf).2.2.2.2 ⟨hwhole, ?_, ?_⟩
    · rw [hdecimal, hdecimal]
    · rw [hdecimal, Decimal.value]
      norm_num

/-- A whole number is an id on its own and a constant in a document. -/
theorem compile_whole_number_differs :
    let t : Table := ⟨"posts", "id", {}⟩
    (ofFloat 4.0).compile "AND" t = "WHERE `id` = 4" ∧
      (ofJson (.float 4.0)).compile "AND" t = "WHERE 4.0" ∧
      (ofJson (.float 4.0)).compile "AND" t ≠ (ofFloat 4.0).compile "AND" t := by
  decide +kernel

end OneTable.Condition
