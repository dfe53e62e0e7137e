import OneTable.Text.Ascii
import OneTable.Text.Bytes

/-!
# Texts that differ in case

Two texts differ at most in the case of ASCII letters exactly if they are the same in upper case
(`sameIgnoringCase_iff_upper`). A text that differs so from letters consists of letters, and each of
its characters is one byte.
-/

namespace OneTable.Text

theorem toNat_toUpper (c : Char) :
    c.toUpper.toNat = if 97 ≤ c.toNat ∧ c.toNat ≤ 122 then c.toNat - 32 else c.toNat := by
  unfold Char.toUpper
  split
  · rename_i h
    have hc : 97 ≤ c.toNat ∧ c.toNat ≤ 122 := h
    have hshift : ('A'.val - 'a'.val).toNat = 4294967264 := by decide
    rw [if_pos hc]
    show (c.val + ('A'.val - 'a'.val)).toNat = c.val.toNat - 32
    have hval : 97 ≤ c.val.toNat ∧ c.val.toNat ≤ 122 := h
    rw [UInt32.toNat_add]
    omega
  · rename_i h
    have hc : ¬ (97 ≤ c.toNat ∧ c.toNat ≤ 122) := h
    rw [if_neg hc]

theorem toNat_toLower (c : Char) :
    c.toLower.toNat = if 65 ≤ c.toNat ∧ c.toNat ≤ 90 then c.toNat + 32 else c.toNat := by
  unfold Char.toLower
  split
  · rename_i h
    have hc : 65 ≤ c.toNat ∧ c.toNat ≤ 90 := h
    have hshift : ('a'.val - 'A'.val).toNat = 32 := by decide
    rw [if_pos hc]
    show (c.val + ('a'.val - 'A'.val)).toNat = c.val.toNat + 32
    have hval : 65 ≤ c.val.toNat ∧ c.val.toNat ≤ 90 := h
    rw [UInt32.toNat_add]
    omega
  · rename_i h
    have hc : ¬ (65 ≤ c.toNat ∧ c.toNat ≤ 90) := h
    rw [if_neg hc]

/-- Digits have no case. -/
theorem toLower_of_isDigit {c : Char} (h : c.isDigit = true) : c.toLower = c := by
  simp only [Char.isDigit, Bool.and_eq_true, decide_eq_true_eq] at h
  have hc : c.toNat ≤ 57 := h.2
  rw [← Char.toNat_inj, toNat_toLower, if_neg (by omega)]

theorem isAlpha_iff {c : Char} :
    c.isAlpha = true ↔ (65 ≤ c.toNat ∧ c.toNat ≤ 90) ∨ (97 ≤ c.toNat ∧ c.toNat ≤ 122) := by
  have hletter : c.isAlpha = (decide (65 ≤ c.val ∧ c.val ≤ 90) ||
      decide (97 ≤ c.val) && decide (c.val ≤ 122)) := rfl
  simp [hletter, UInt32.le_iff_toNat_le]

theorem toLower_eq_toLower_iff {c d : Char} : c.toLower = d.toLower ↔ c.toUpper = d.toUpper := by
  rw [← Char.toNat_inj, ← Char.toNat_inj, toNat_toLower, toNat_toLower, toNat_toUpper,
    toNat_toUpper]
  split <;> split <;> split <;> split <;> omega

theorem isAlpha_of_toLower_eq {c d : Char} (h : c.toLower = d.toLower) (hd : d.isAlpha = true) :
    c.isAlpha = true := by
  rw [← Char.toNat_inj, toNat_toLower, toNat_toLower] at h
  rw [isAlpha_iff] at hd ⊢
  split at h <;> split at h <;> omega

theorem utf8Size_of_isAlpha {c : Char} (h : c.isAlpha = true) : c.utf8Size = 1 := by
  rw [Char.utf8Size_eq_one_iff, UInt32.le_iff_toNat_le]
  rw [isAlpha_iff] at h
  show c.toNat ≤ 127
  omega

theorem sameIgnoringCase_iff {s t : String} :
    sameIgnoringCase s t = true ↔ s.toList.map Char.toLower = t.toList.map Char.toLower := by
  rw [sameIgnoringCase, beq_iff_eq, ← String.toList_inj, toList_lower, toList_lower]

theorem map_toLower_eq_iff {cs ds : List Char} :
    cs.map Char.toLower = ds.map Char.toLower ↔ cs.map Char.toUpper = ds.map Char.toUpper := by
  induction cs generalizing ds with
  | nil => cases ds <;> simp
  | cons c cs ih =>
    cases ds with
    | nil => simp
    | cons d ds =>
      simp only [List.map_cons, List.cons.injEq, toLower_eq_toLower_iff, ih]

theorem sameIgnoringCase_iff_upper {s t : String} :
    sameIgnoringCase s t = true ↔ upper s = upper t := by
  rw [sameIgnoringCase_iff, map_toLower_eq_iff, ← String.toList_inj, toList_upper, toList_upper]

theorem isAlpha_of_sameIgnoringCase {s t : String} (h : sameIgnoringCase s t = true)
    (ht : ∀ c ∈ t.toList, c.isAlpha = true) : ∀ c ∈ s.toList, c.isAlpha = true := by
  intro c hc
  have hmem : c.toLower ∈ t.toList.map Char.toLower :=
    sameIgnoringCase_iff.1 h ▸ List.mem_map_of_mem hc
  obtain ⟨d, hd, heq⟩ := List.mem_map.1 hmem
  exact isAlpha_of_toLower_eq heq.symm (ht d hd)

theorem byteSize_of_isAlpha {cs : List Char} (h : ∀ c ∈ cs, c.isAlpha = true) :
    byteSize cs = cs.length := by
  induction cs with
  | nil => rfl
  | cons c cs ih =>
    rw [List.forall_mem_cons] at h
    have htail := ih h.2
    simp only [byteSize, List.foldr_cons, List.length_cons, utf8Size_of_isAlpha h.1] at htail ⊢
    omega

theorem byteSize_eq_of_sameIgnoringCase {s t : String} (h : sameIgnoringCase s t = true)
    (ht : ∀ c ∈ t.toList, c.isAlpha = true) : byteSize s.toList = byteSize t.toList := by
  have hlength := congrArg List.length (sameIgnoringCase_iff.1 h)
  rw [List.length_map, List.length_map] at hlength
  rw [byteSize_of_isAlpha ht, byteSize_of_isAlpha (isAlpha_of_sameIgnoringCase h ht), hlength]

end OneTable.Text
