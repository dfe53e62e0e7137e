/-!
# Case and digits of ASCII text

Keywords, option keys and declared types are compared without regard to the case of ASCII letters;
all other characters stand for themselves.
-/

namespace OneTable.Text

def lower (s : String) : String := s.map Char.toLower

def upper (s : String) : String := s.map Char.toUpper

/-- The two texts differ at most in the case of ASCII letters. -/
def sameIgnoringCase (s t : String) : Bool := lower s == lower t

/-- A non-empty run of the digits `0` to `9`. -/
def isDigits (s : String) : Bool := !s.toList.isEmpty && s.toList.all Char.isDigit

/-- A letter, a digit or `_`, ASCII only: what a keyword may not be followed by. -/
def isWordChar (c : Char) : Bool := c.isAlphanum || c == '_'

theorem toList_lower (s : String) : (lower s).toList = s.toList.map Char.toLower := by
  simp [lower]

theorem toList_upper (s : String) : (upper s).toList = s.toList.map Char.toUpper := by
  simp [upper]

theorem lower_eq_self {s : String} (h : s.toList.map Char.toLower = s.toList) : lower s = s :=
  String.toList_injective (by rw [toList_lower, h])

theorem ne_lower {s t : String} (h : t.toList.map Char.toLower ≠ s.toList) : s ≠ lower t := by
  rintro rfl
  exact h (toList_lower t).symm

/-- Only letters change their case, and into letters. -/
theorem toUpper_eq_iff {c d : Char} (hd : d.isAlpha = false) : c.toUpper = d ↔ c = d := by
  have hd : ¬(65 ≤ d.val.toNat ∧ d.val.toNat ≤ 90) ∧ ¬(97 ≤ d.val.toNat ∧ d.val.toNat ≤ 122) := by
    have hletter : (decide (65 ≤ d.val ∧ d.val ≤ 90) ||
        decide (97 ≤ d.val) && decide (d.val ≤ 122)) = false := hd
    simpa [UInt32.le_iff_toNat_le] using hletter
  unfold Char.toUpper
  split
  · rename_i h
    have hc : 97 ≤ c.val.toNat ∧ c.val.toNat ≤ 122 := h
    have hshift : ('A'.val - 'a'.val).toNat = 4294967264 := by decide
    simp only [Char.ext_iff, ← UInt32.toNat_inj, UInt32.toNat_add]
    omega
  · exact Iff.rfl

theorem mem_upper_iff {c : Char} (hc : c.isAlpha = false) (s : String) :
    c ∈ (upper s).toList ↔ c ∈ s.toList := by
  rw [toList_upper, List.mem_map]
  constructor
  · rintro ⟨d, hd, hup⟩
    exact (toUpper_eq_iff hc).1 hup ▸ hd
  · exact fun h => ⟨c, h, (toUpper_eq_iff hc).2 rfl⟩

end OneTable.Text
