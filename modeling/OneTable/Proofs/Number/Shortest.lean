import OneTable.Number.Shortest
import Mathlib.Algebra.Order.Field.Power
import Mathlib.Algebra.Order.Floor.Semifield
import Mathlib.Algebra.Order.Ring.Rat
import Mathlib.Data.Rat.Floor
import Mathlib.Tactic.FieldSimp
import Mathlib.Tactic.Linarith
import Mathlib.Tactic.Positivity
import Mathlib.Tactic.Ring

/-!
# What the shortest decimal says

The comparisons of `Binary.shortest` are those of the rational numbers that a binary and a decimal
stand for (`compares_compareScaled`). The search down the grids always ends on one of them, since a
number is on the finest grid itself: the decimal found reads back as the number
(`readsBack_shortest`). It has no places behind the point exactly if the number is whole
(`isWhole_iff_shortest`), because a multiple of one that is no further away than half of a smaller
power of two is the number itself.
-/

namespace OneTable.Number

/-- The number itself. -/
def Binary.value (b : Binary) : ℚ := b.mantissa * 2 ^ b.exponent

/-- The number itself. -/
def Decimal.value (d : Decimal) : ℚ := d.digits * 10 ^ d.exponent

/-- The number is an integer. -/
def Binary.IsWhole (b : Binary) : Prop := ∃ n : ℕ, b.value = n

theorem Decimal.value_of_nonneg {d : Decimal} (h : 0 ≤ d.exponent) :
    d.value = (d.digits * 10 ^ d.exponent.toNat : ℕ) := by
  rw [value]
  push_cast
  rw [← zpow_natCast, Int.toNat_of_nonneg h]

theorem zpow_mul_pow_toNat {x : ℚ} (hx : x ≠ 0) (k : ℤ) : x ^ k * x ^ (-k).toNat = x ^ k.toNat := by
  rw [← zpow_natCast x (-k).toNat, ← zpow_natCast x k.toNat, ← zpow_add₀ hx]
  congr 1
  omega

namespace Binary

variable {b : Binary} {d : Decimal} {tie : Tie} {k : ℤ}

/-! ### Comparisons -/

theorem compares_compareScaled (d : ℕ) (k : ℤ) (n : ℕ) (q : ℤ) :
    (compareScaled d k n q).Compares (d * 10 ^ k : ℚ) (n * 2 ^ q : ℚ) := by
  -- both sides become natural numbers by one and the same factor
  have hs : (0 : ℚ) < 10 ^ (-k).toNat * 2 ^ (-q).toNat := by positivity
  have hl : (d * 10 ^ k : ℚ) * (10 ^ (-k).toNat * 2 ^ (-q).toNat) =
      ((d * Nat.pow 10 k.toNat * Nat.pow 2 (-q).toNat : ℕ) : ℚ) := by
    have := zpow_mul_pow_toNat (x := 10) (by norm_num) k
    push_cast [Nat.pow_eq]
    rw [← this]
    ring
  have hr : (n * 2 ^ q : ℚ) * (10 ^ (-k).toNat * 2 ^ (-q).toNat) =
      ((n * Nat.pow 2 q.toNat * Nat.pow 10 (-k).toNat : ℕ) : ℚ) := by
    have := zpow_mul_pow_toNat (x := 2) (by norm_num) q
    push_cast [Nat.pow_eq]
    rw [← this]
    ring
  rw [compareScaled]
  generalize d * Nat.pow 10 k.toNat * Nat.pow 2 (-q).toNat = m at hl
  generalize n * Nat.pow 2 q.toNat * Nat.pow 10 (-k).toNat = m' at hr
  rcases lt_trichotomy m m' with h | rfl | h
  · rw [Nat.compare_eq_lt.2 h]
    rw [← Nat.cast_lt (α := ℚ), ← hl, ← hr] at h
    exact lt_of_mul_lt_mul_right h hs.le
  · rw [Nat.compare_eq_eq.2 rfl]
    exact mul_right_cancel₀ hs.ne' (hl.trans hr.symm)
  · rw [Nat.compare_eq_gt.2 h]
    rw [← Nat.cast_lt (α := ℚ), ← hl, ← hr] at h
    exact lt_of_mul_lt_mul_right h hs.le

theorem compareScaled_eq_gt {d : ℕ} {k : ℤ} {n : ℕ} {q : ℤ} :
    compareScaled d k n q = .gt ↔ (n * 2 ^ q : ℚ) < d * 10 ^ k :=
  (compares_compareScaled d k n q).eq_gt

theorem compareScaled_eq_lt {d : ℕ} {k : ℤ} {n : ℕ} {q : ℤ} :
    compareScaled d k n q = .lt ↔ (d * 10 ^ k : ℚ) < n * 2 ^ q :=
  (compares_compareScaled d k n q).eq_lt

theorem compareScaled_eq_eq {d : ℕ} {k : ℤ} {n : ℕ} {q : ℤ} :
    compareScaled d k n q = .eq ↔ (d * 10 ^ k : ℚ) = n * 2 ^ q :=
  (compares_compareScaled d k n q).eq_eq

theorem zpow_sub_two (e : ℤ) : (2 : ℚ) ^ (e - 2) = 2 ^ e / 4 := by
  rw [zpow_sub₀ (by norm_num)]
  norm_num

/-- What reads back is at most half a unit of the last place away. -/
theorem abs_sub_le_of_readsBack (hm : 0 < b.mantissa) (h : b.readsBack d = true) :
    |d.value - b.value| ≤ 2 ^ b.exponent / 2 := by
  have hp : (0 : ℚ) < 2 ^ b.exponent := by positivity
  simp only [readsBack, Bool.and_eq_true, Bool.or_eq_true, beq_iff_eq] at h
  obtain ⟨hlow, hhigh⟩ := h
  have habove : ((4 * b.mantissa - 2 : ℕ) * 2 ^ (b.exponent - 2) : ℚ) ≤ d.value := by
    have hle : 4 * b.mantissa - 2 ≤ 4 * b.mantissa - (if b.narrowBelow then 1 else 2) := by
      split <;> omega
    refine le_trans ?_ (hlow.elim (fun h => (compareScaled_eq_gt.1 h).le)
      (fun h => (compareScaled_eq_eq.1 h.2).ge))
    gcongr
  have hbelow : d.value ≤ (4 * b.mantissa + 2 : ℕ) * 2 ^ (b.exponent - 2) :=
    hhigh.elim (fun h => (compareScaled_eq_lt.1 h).le) (fun h => (compareScaled_eq_eq.1 h.2).le)
  rw [Nat.cast_sub (by omega), zpow_sub_two] at habove
  rw [zpow_sub_two] at hbelow
  push_cast at habove hbelow
  rw [value, abs_sub_le_iff]
  constructor <;> linarith

theorem digits_pos_of_readsBack (hm : 0 < b.mantissa) (h : b.readsBack d = true) :
    0 < d.digits := by
  by_contra hzero
  have hp : (0 : ℚ) < 2 ^ b.exponent := by positivity
  have hone : (1 : ℚ) ≤ b.mantissa := by exact_mod_cast hm
  have hclose := abs_sub_le_of_readsBack hm h
  rw [Decimal.value, Nat.eq_zero_of_not_pos hzero, Nat.cast_zero, zero_mul, zero_sub, abs_neg, value,
    abs_of_pos (by positivity)] at hclose
  linarith [mul_le_mul_of_nonneg_right hone hp.le]

theorem readsBack_of_value_eq (hm : 0 < b.mantissa) (h : d.value = b.value) :
    b.readsBack d = true := by
  have hp : (0 : ℚ) < 2 ^ b.exponent := by positivity
  have hlow : compareScaled d.digits d.exponent (4 * b.mantissa - (if b.narrowBelow then 1 else 2))
      (b.exponent - 2) = .gt := by
    rw [compareScaled_eq_gt, ← Decimal.value, h, value, zpow_sub_two, Nat.cast_sub (by split <;> omega)]
    split <;> push_cast <;> linarith
  have hhigh : compareScaled d.digits d.exponent (4 * b.mantissa + 2) (b.exponent - 2) = .lt := by
    rw [compareScaled_eq_lt, ← Decimal.value, h, value, zpow_sub_two]
    push_cast
    linarith
  simp [readsBack, hlow, hhigh]

/-! ### Grids -/

theorem floorAt_eq_floor (b : Binary) (k : ℤ) : b.floorAt k = ⌊b.value / 10 ^ k⌋₊ := by
  have hratio : b.value / 10 ^ k =
      ((b.mantissa * Nat.pow 2 b.exponent.toNat * Nat.pow 10 (-k).toNat : ℕ) : ℚ) /
        ((Nat.pow 10 k.toNat * Nat.pow 2 (-b.exponent).toNat : ℕ) : ℚ) := by
    have h2 := zpow_mul_pow_toNat (x := 2) (by norm_num) b.exponent
    have h10 := zpow_mul_pow_toNat (x := 10) (by norm_num) k
    push_cast [Nat.pow_eq]
    rw [← h2, ← h10, value]
    field_simp
  rw [hratio, Nat.floor_div_eq_div, floorAt]

/-- A number on a grid is the multiple below it. -/
theorem readsBack_floorAt (hm : 0 < b.mantissa) {n : ℕ} (h : b.value = n * 10 ^ k) :
    b.readsBack ⟨b.floorAt k, k⟩ = true := by
  apply readsBack_of_value_eq hm
  have hfloor : b.floorAt k = n := by
    rw [floorAt_eq_floor, h, mul_div_cancel_right₀ _ (by positivity), Nat.floor_natCast]
  rw [Decimal.value, hfloor, h]

theorem onGrid?_eq_some (h : b.onGrid? tie k = some d) :
    d.exponent = k ∧ b.readsBack d = true := by
  rw [onGrid?] at h
  split at h
  · rename_i hd hd'
    obtain rfl := Option.some.inj h
    have hnearer : b.nearer tie (b.floorAt k) k = b.floorAt k ∨
        b.nearer tie (b.floorAt k) k = b.floorAt k + 1 := by
      unfold nearer
      split
      · exact .inr rfl
      · exact .inl rfl
      · split
        · exact .inl rfl
        · exact .inr rfl
    obtain hn | hn := hnearer
    · exact ⟨rfl, by rwa [hn]⟩
    · exact ⟨rfl, by rwa [hn]⟩
  · rename_i hd _
    obtain rfl := Option.some.inj h
    exact ⟨rfl, hd⟩
  · rename_i _ hd
    obtain rfl := Option.some.inj h
    exact ⟨rfl, hd⟩
  · cases h

theorem onGrid?_ne_none (tie : Tie) (h : b.readsBack ⟨b.floorAt k, k⟩ = true) :
    b.onGrid? tie k ≠ none := by
  rw [onGrid?]
  split <;> simp_all

/-! ### The search -/

theorem value_lt_pow_log2 (b : Binary) : b.value < 2 ^ ((b.mantissa.log2 : ℤ) + 1 + b.exponent) := by
  have hlog : b.mantissa < 2 ^ (b.mantissa.log2 + 1) := Nat.lt_log2_self
  rw [value, zpow_add₀ (by norm_num), ← Nat.cast_one, ← Nat.cast_add, zpow_natCast]
  gcongr
  exact_mod_cast hlog

theorem bottom_le_ceiling (b : Binary) : min b.exponent 0 ≤ b.ceiling := by
  rw [ceiling]
  split <;> omega

/-- The grid of the integers is tried for every number from one on. -/
theorem ceiling_nonneg (h : 1 ≤ b.value) : 0 ≤ b.ceiling := by
  have hlog : (0 : ℤ) < (b.mantissa.log2 : ℤ) + 1 + b.exponent := by
    have := h.trans_lt b.value_lt_pow_log2
    rwa [one_lt_zpow_iff_right₀ (by norm_num)] at this
  rw [ceiling, if_pos (by omega)]
  omega

/-- The finest grid has the number on it. -/
theorem value_on_bottom (b : Binary) : ∃ n : ℕ, b.value = n * 10 ^ min b.exponent 0 := by
  obtain he | he := le_total 0 b.exponent
  · refine ⟨b.mantissa * 2 ^ b.exponent.toNat, ?_⟩
    rw [min_eq_right he, zpow_zero, mul_one, value]
    push_cast
    rw [← zpow_natCast, Int.toNat_of_nonneg he]
  · refine ⟨b.mantissa * 5 ^ (-b.exponent).toNat, ?_⟩
    have h5 := zpow_mul_pow_toNat (x := 5) (by norm_num) b.exponent
    rw [Int.toNat_of_nonpos he, pow_zero] at h5
    rw [min_eq_left he, value, show (10 : ℚ) = 5 * 2 by norm_num, mul_zpow]
    push_cast
    rw [show (b.mantissa * 5 ^ (-b.exponent).toNat * (5 ^ b.exponent * 2 ^ b.exponent) : ℚ) =
      b.mantissa * 2 ^ b.exponent * (5 ^ b.exponent * 5 ^ (-b.exponent).toNat) by ring, h5, mul_one]

/-- A grid that the number is on stops the search, which comes down from the coarser ones. -/
theorem shortest_on_grid (hm : 0 < b.mantissa) (tie : Tie) {n : ℕ} (hbottom : min b.exponent 0 ≤ k)
    (htop : k ≤ b.ceiling) (h : b.value = n * 10 ^ k) :
    k ≤ (b.shortest tie).exponent ∧ b.readsBack (b.shortest tie) = true := by
  have hhit : b.onGrid? tie k ≠ none := onGrid?_ne_none tie (readsBack_floorAt hm h)
  rw [shortest]
  generalize hgrids : ((List.range ((b.ceiling - min b.exponent 0).toNat + 1)).map
    fun (i : ℕ) => b.ceiling - Int.ofNat i) = grids
  have hmem : k ∈ grids := by
    rw [← hgrids, List.mem_map]
    exact ⟨(b.ceiling - k).toNat, List.mem_range.2 (by omega), by rw [Int.ofNat_eq_natCast]; omega⟩
  have hdown : grids.Pairwise (· > ·) := by
    rw [← hgrids, List.pairwise_map]
    exact List.pairwise_lt_range.imp fun h => by
      rw [Int.ofNat_eq_natCast, Int.ofNat_eq_natCast]
      omega
  obtain ⟨d, hd⟩ := Option.isSome_iff_exists.1
    (List.findSome?_isSome_iff.2 ⟨k, hmem, Option.isSome_iff_ne_none.2 hhit⟩)
  obtain ⟨coarser, k', finer, hsplit, hfound, hnone⟩ := List.findSome?_eq_some_iff.1 hd
  have hle : k ≤ k' := by
    rw [hsplit, List.pairwise_append, List.pairwise_cons] at hdown
    rw [hsplit, List.mem_append, List.mem_cons] at hmem
    rcases hmem with hk | rfl | hk
    · exact absurd (hnone k hk) hhit
    · exact le_rfl
    · exact (hdown.2.1.1 k hk).le
  obtain ⟨rfl, hback⟩ := onGrid?_eq_some hfound
  rw [hd, Option.getD_some]
  exact ⟨hle, hback⟩

/-- The decimal that is written reads back as the number. -/
theorem readsBack_shortest (hm : 0 < b.mantissa) (tie : Tie) :
    b.readsBack (b.shortest tie) = true :=
  let ⟨_, h⟩ := b.value_on_bottom
  (shortest_on_grid hm tie le_rfl b.bottom_le_ceiling h).2

/-! ### Whole numbers -/

theorem isWhole_of_exponent_nonneg (he : 0 ≤ b.exponent) : b.IsWhole := by
  refine ⟨b.mantissa * 2 ^ b.exponent.toNat, ?_⟩
  rw [value]
  push_cast
  rw [← zpow_natCast, Int.toNat_of_nonneg he]

/-- The only integer that a number with places behind the binary point is read from is itself. -/
theorem value_eq_of_readsBack (hm : 0 < b.mantissa) (he : b.exponent ≤ 0) {n : ℕ}
    (hn : d.value = n) (h : b.readsBack d = true) : b.value = n := by
  have hp : (0 : ℚ) < 2 ^ (-b.exponent).toNat := by positivity
  have hone := zpow_mul_pow_toNat (x := 2) (by norm_num) b.exponent
  rw [Int.toNat_of_nonpos he, pow_zero] at hone
  -- in units of the last binary place both are integers, and these are less than one apart
  have hscaled : (d.value - b.value) * 2 ^ (-b.exponent).toNat =
      ((n * 2 ^ (-b.exponent).toNat - b.mantissa : ℤ) : ℚ) := by
    push_cast
    rw [hn, value, sub_mul, mul_assoc, hone, mul_one]
  have hclose : |((n * 2 ^ (-b.exponent).toNat - b.mantissa : ℤ) : ℚ)| ≤ 1 / 2 := by
    rw [← hscaled, abs_mul, abs_of_pos hp, ← hone, mul_div_right_comm]
    exact mul_le_mul_of_nonneg_right (abs_sub_le_of_readsBack hm h) hp.le
  have hsame : (n * 2 ^ (-b.exponent).toNat - b.mantissa : ℤ) = 0 := by
    rw [← Int.abs_lt_one_iff]
    exact_mod_cast hclose.trans_lt one_half_lt_one
  have hmantissa : (b.mantissa : ℚ) = n * 2 ^ (-b.exponent).toNat := by
    exact_mod_cast (sub_eq_zero.1 hsame).symm
  rw [value, hmantissa, mul_assoc, mul_comm (2 ^ _) (2 ^ b.exponent), hone, mul_one]

theorem isWhole_iff_shortest (hm : 0 < b.mantissa) (tie : Tie) :
    b.IsWhole ↔ 0 ≤ (b.shortest tie).exponent := by
  constructor
  · rintro ⟨n, hn⟩
    have hone : 1 ≤ b.value := by
      have hpos : 0 < b.value := by rw [value]; positivity
      rw [hn] at hpos ⊢
      exact_mod_cast hpos
    exact (shortest_on_grid hm tie (min_le_right ..) (ceiling_nonneg hone)
      (by rw [hn, zpow_zero, mul_one])).1
  · intro hk
    obtain he | he := le_or_gt 0 b.exponent
    · exact isWhole_of_exponent_nonneg he
    · exact ⟨_, value_eq_of_readsBack hm he.le (Decimal.value_of_nonneg hk)
        (readsBack_shortest hm tie)⟩

/-- Of a number that is not whole the shortest decimal is as small as the number itself. -/
theorem value_shortest_lt (hm : 0 < b.mantissa) (tie : Tie) (h : ¬ b.IsWhole) :
    (b.shortest tie).value < b.mantissa := by
  have he : b.exponent ≤ -1 := by
    have := mt isWhole_of_exponent_nonneg h
    omega
  have hhalf : (2 : ℚ) ^ b.exponent ≤ 2 ^ (-1 : ℤ) := zpow_le_zpow_right₀ (by norm_num) he
  have hone : (1 : ℚ) ≤ b.mantissa := by exact_mod_cast hm
  have hclose := (abs_le.1 (abs_sub_le_of_readsBack hm (readsBack_shortest hm tie))).2
  have hvalue : b.value ≤ b.mantissa * 2 ^ (-1 : ℤ) := by
    rw [value]
    gcongr
  rw [zpow_neg_one] at hhalf hvalue
  linarith

end Binary

end OneTable.Number
