import OneTable.Proofs.Row.Integers
import OneTable.Proofs.Text.Case

/-!
# Truth values as numbers and as texts

A number is read as a truth value by whether it is zero. A text is read by a list of spellings, and
the only integers on it are `0` and `1`. So an integer and a text that shows it are read alike
exactly if the integer is one of these two; any other is true as a number, and its text cannot be
read (`Row.flag_shown_alike_iff`).
-/

namespace OneTable

namespace Number

theorem lower_toString_int (z : Int) : Text.lower (toString z) = toString z := by
  have hcase : ∀ c ∈ (toString z).toList, c.toLower = id c := by
    intro c hc
    rcases (denotesInt_toString z).mem hc with hdigit | rfl | rfl
    · exact Text.toLower_of_isDigit hdigit
    · rfl
    · rfl
  exact Text.lower_eq_self (by rw [List.map_congr_left hcase, List.map_id])

/-- A word with a character that is neither a digit nor a sign is no integer. -/
theorem toString_int_ne {word : String} {c : Char} (hmem : c ∈ word.toList)
    (hc : ¬ (c.isDigit = true ∨ c = '+' ∨ c = '-')) (z : Int) : toString z ≠ word := by
  rintro rfl
  exact hc ((denotesInt_toString z).mem hmem)

end Number

namespace Value

open Number

variable {v v' : Value} {s : String} {z : Int}

theorem asBool_of_integer? (h : v.integer? = some z) : v.asBool = .ok (z != 0) := by
  cases v with
  | int n =>
    cases h
    rw [asBool, Except.ok.injEq, Bool.eq_iff_iff, bne_iff_ne, bne_iff_ne, Ne, ← Int64.toInt_inj]
    rfl
  | uint n =>
    cases h
    rw [asBool, Except.ok.injEq, Bool.eq_iff_iff, bne_iff_ne, bne_iff_ne, Ne, ← UInt64.toNat_inj,
      ← Int.natCast_inj]
    rfl
  | bool b =>
    cases h
    cases b <;> rfl
  | _ => cases h

/-- The text of an integer is a spelling of a truth value only if the integer is `0` or `1`. -/
theorem asBool_text_of_trim (h : Text.trim s.toList = (toString z).toList) :
    (text s).asBool = if z = 0 ∨ z = 1 then .ok (z != 0) else .error (.notBool (toString z)) := by
  have htrimmed : Text.trimmed s = toString z := by rw [Text.trimmed, h, String.ofList_toList]
  rw [asBool, htrimmed, lower_toString_int]
  split
  · rename_i hword
    obtain rfl : z = 1 := toString_int_inj.1 hword
    rfl
  · rename_i hword
    exact absurd hword (toString_int_ne (c := 't') (by decide) (by decide) z)
  · rename_i hword
    obtain rfl : z = 0 := toString_int_inj.1 hword
    rfl
  · rename_i hword
    exact absurd hword (toString_int_ne (c := 'f') (by decide) (by decide) z)
  · rename_i hword
    exact absurd (congrArg String.toList hword) (denotesInt_toString z).ne_nil
  · rename_i hone _ hzero _ _
    have hz : ¬ (z = 0 ∨ z = 1) := by
      rintro (rfl | rfl)
      · exact hzero rfl
      · exact hone rfl
    rw [if_neg hz]

end Value

namespace Row

open Value

theorem read_of_get? {α : Type} {r : Row} {decode : Value → Except DecodeFault α} {column : String}
    {v : Value} (h : r.get? column = some v) :
    r.read decode column = (decode v).mapError (failed column) := by
  rw [read, h]

/-- An integer in a column is read as a truth value by whether it is zero. The text that shows it is
read as the same if it is `0` or `1`, and cannot be read if it is any other. So the column is read
alike from both exactly if it holds one of these two. -/
theorem flag_shown_alike_iff {r r' : Row} {column : String} {v v' : Value}
    (hv : r.get? column = some v) (hv' : r'.get? column = some v') (h : v.ShownBy v') :
    ∃ z, v.integer? = some z ∧ r.read asBool column = .ok (z != 0) ∧
      (r'.read asBool column = if z = 0 ∨ z = 1 then .ok (z != 0)
        else .error (failed column (.notBool (toString z)))) ∧
      ((∀ b, r.read asBool column = .ok b ↔ r'.read asBool column = .ok b) ↔ z = 0 ∨ z = 1) := by
  obtain ⟨z, s, hz, rfl, htrim⟩ := h.exists_integer
  have hnumber : r.read asBool column = .ok (z != 0) := by
    rw [read_of_get? hv, asBool_of_integer? hz]
    rfl
  have htext : r'.read asBool column = if z = 0 ∨ z = 1 then .ok (z != 0)
      else .error (failed column (.notBool (toString z))) := by
    rw [read_of_get? hv', asBool_text_of_trim htrim]
    split <;> rfl
  refine ⟨z, hz, hnumber, htext, ?_⟩
  rw [hnumber, htext]
  split
  · rename_i hspelled
    exact iff_of_true (fun _ => Iff.rfl) hspelled
  · rename_i hother
    exact iff_of_false (fun halike => nomatch (halike (z != 0)).1 rfl) hother

/-- One is read alike as a number and as a text between blanks, and two is not. -/
theorem flag_shown_alike_one :
    let holding (v : Value) : Row := ⟨[("draft", v)], by simp⟩
    (∀ b, (holding (.uint 1)).read asBool "draft" = .ok b ↔
      (holding (.text ("\t" ++ "1" ++ " \n"))).read asBool "draft" = .ok b) ∧
    (holding (.int (-2))).read asBool "draft" = .ok true ∧
    (holding (.text ("" ++ "-2" ++ ""))).read asBool "draft" =
      .error (failed "draft" (.notBool "-2")) := by
  intro holding
  have hone : (Value.uint 1).ShownBy (.text ("\t" ++ "1" ++ " \n")) :=
    .padded rfl (by decide +kernel) (by decide) (by decide)
  have htwo : (Value.int (-2)).ShownBy (.text ("" ++ "-2" ++ "")) :=
    .padded rfl (by decide +kernel) (by decide) (by decide)
  have hheld : ∀ v, (holding v).get? "draft" = some v := fun v => rfl
  obtain ⟨z, hz, -, -, halike⟩ := flag_shown_alike_iff (hheld _) (hheld _) hone
  obtain ⟨z', hz', hnumber, htext, -⟩ := flag_shown_alike_iff (hheld _) (hheld _) htwo
  obtain rfl : 1 = z := Option.some_inj.1 hz
  obtain rfl : -2 = z' := Option.some_inj.1 hz'
  exact ⟨halike.2 (.inr rfl), hnumber, htext⟩

/-- A two is true as a number, and its text is no truth value. -/
theorem flag_lost_as_text :
    let holding (v : Value) : Row := ⟨[("draft", v)], by simp⟩
    (holding (.int 2)).read asBool "draft" = .ok true ∧
    (holding (.text "2")).read asBool "draft" =
      .error (failed "draft" (.notBool "2")) ∧
    ¬ ∀ b, (holding (.int 2)).read asBool "draft" = .ok b ↔
      (holding (.text "2")).read asBool "draft" = .ok b := by
  intro holding
  have hnumber : (holding (.int 2)).read asBool "draft" = .ok true := rfl
  have hword : (Value.text "2").asBool = .error (.notBool "2") :=
    asBool_text_of_trim (z := 2) (by decide)
  have htext : (holding (.text "2")).read asBool "draft" =
      .error (failed "draft" (.notBool "2")) := congrArg (Except.mapError (failed "draft")) hword
  refine ⟨hnumber, htext, fun halike => ?_⟩
  exact nomatch htext.symm.trans ((halike true).1 hnumber)

end Row

end OneTable
