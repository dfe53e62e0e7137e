import OneTable.Number.FloatText
import OneTable.Json.Basic
import OneTable.Text.Ascii
import OneTable.Proofs.Number.Shortest
import Mathlib.Data.List.TakeWhile

/-!
# What the text of a number shows

A finite number is written as its sign and the layout of a shortest decimal. Digits with a point
among them read back as that decimal (`literalOf?_pointed`), so two such texts are the same only
for the same decimal. From this: the text for a statement consists of digits alone exactly for a
whole number without a sign (`isDigits_plainText_iff`), the text in a document never does
(`isDigits_jsonText`), and the two are the same for numbers that are not whole, not too small and
not halfway between two shortest decimals (`jsonText_eq_plainText_iff`).
-/

namespace OneTable.Number

/-! ### Digits and a point -/

section Pointed

variable {ds : List Char} {e : ℤ} {pointZero : Bool}

theorem toDigits_mul_pow {n : ℕ} (hn : 0 < n) (k : ℕ) :
    Nat.toDigits 10 (n * 10 ^ k) = Nat.toDigits 10 n ++ List.replicate k '0' := by
  induction k with
  | zero => simp
  | succ k ih =>
    have h := Nat.toDigits_append_toDigits (b := 10) (n := n * 10 ^ k) (d := 0) (by decide)
      (by positivity) (by decide)
    rw [show n * 10 ^ (k + 1) = 10 * (n * 10 ^ k) + 0 by ring, ← h, ih, Nat.toDigits_zero,
      List.append_assoc, List.replicate_succ']

theorem pointed_of_nonneg (he : 0 ≤ e) :
    pointed ds e pointZero =
      ds ++ List.replicate e.toNat '0' ++ (if pointZero then ['.', '0'] else []) := by
  rw [pointed, if_pos he]

/-- With places behind the point there are digits on both sides of it. -/
theorem pointed_of_neg (he : e < 0) (hds : ∀ c ∈ ds, c.isDigit = true) (pointZero : Bool) :
    ∃ whole fraction, pointed ds e pointZero = whole ++ '.' :: fraction ∧ whole ≠ [] ∧
      (∀ c ∈ whole, c.isDigit = true) ∧ (∀ c ∈ fraction, c.isDigit = true) ∧
      fraction.length = (-e).toNat ∧ natOfDigits (whole ++ fraction) = natOfDigits ds := by
  rw [pointed, if_neg (by omega)]
  by_cases hplaces : (-e).toNat < ds.length
  · refine ⟨ds.take (ds.length - (-e).toNat), ds.drop (ds.length - (-e).toNat), ?_, ?_, ?_, ?_, ?_, ?_⟩
    · exact if_pos hplaces
    · rw [← List.length_pos_iff, List.length_take]
      omega
    · exact fun c hc => hds c (List.mem_of_mem_take hc)
    · exact fun c hc => hds c (List.mem_of_mem_drop hc)
    · rw [List.length_drop]
      omega
    · rw [List.take_append_drop]
  · refine ⟨['0'], List.replicate ((-e).toNat - ds.length) '0' ++ ds, ?_, ?_, ?_, ?_, ?_, ?_⟩
    · exact if_neg hplaces
    · simp
    · exact List.forall_mem_singleton.2 rfl
    · intro c hc
      rw [List.mem_append, List.mem_replicate] at hc
      obtain ⟨-, rfl⟩ | hc := hc
      · rfl
      · exact hds c hc
    · rw [List.length_append, List.length_replicate]
      omega
    · rw [← List.append_assoc]
      exact natOfDigits_zeros _ ds

/-- What is written with places behind the point reads back as the same decimal. -/
theorem literalOf?_pointed (he : e < 0) (n : ℕ) :
    literalOf? (pointed (Nat.toDigits 10 n) e pointZero) = some (.decimal ⟨n, e⟩) := by
  obtain ⟨whole, fraction, htext, hne, hwhole, hfraction, hlength, hvalue⟩ :=
    pointed_of_neg he (isDigit_toDigits n) pointZero
  have hname : ∀ name : String, '.' ∉ name.toList →
      (String.ofList ((whole ++ '.' :: fraction).map Char.toLower) == name) = false := by
    rintro name hdot
    rw [beq_eq_false_iff_ne]
    rintro rfl
    rw [String.toList_ofList] at hdot
    exact hdot (List.mem_map.2 ⟨'.', by simp, rfl⟩)
  have htake : (whole ++ '.' :: fraction).takeWhile Char.isDigit = whole := by
    rw [List.takeWhile_append_of_pos hwhole, List.takeWhile_cons_of_neg (by decide), List.append_nil]
  have hdrop : (whole ++ '.' :: fraction).dropWhile Char.isDigit = '.' :: fraction := by
    rw [List.dropWhile_append_of_pos hwhole, List.dropWhile_cons_of_neg (by decide)]
  have htake' : fraction.takeWhile Char.isDigit = fraction := List.takeWhile_eq_self_iff.2 hfraction
  have hdrop' : fraction.dropWhile Char.isDigit = [] := List.dropWhile_eq_nil_iff.2 hfraction
  rw [htext, literalOf?]
  simp only [hname "nan" (by decide), hname "inf" (by decide), hname "infinity" (by decide), htake,
    hdrop, htake', hdrop', hvalue, natOfDigits_toDigits, hlength]
  simp [hne, Int.toNat_of_nonneg (by omega : 0 ≤ -e)]

theorem pointed_pointZero (he : e < 0) (a b : Bool) : pointed ds e a = pointed ds e b := by
  rw [pointed, pointed, if_neg (not_le.2 he), if_neg (not_le.2 he)]

/-- Without places behind the point and no zero there either, the digits stand alone. -/
theorem isDigit_pointed (he : 0 ≤ e) (hds : ∀ c ∈ ds, c.isDigit = true) :
    ∀ c ∈ pointed ds e false, c.isDigit = true := by
  simp only [pointed_of_nonneg he, List.forall_mem_append]
  exact ⟨⟨hds, fun c hc => (List.eq_of_mem_replicate hc) ▸ rfl⟩, fun c hc => nomatch hc⟩

theorem dot_mem_pointed (h : e < 0 ∨ pointZero = true) (hds : ∀ c ∈ ds, c.isDigit = true) :
    '.' ∈ pointed ds e pointZero := by
  by_cases he : e < 0
  · obtain ⟨whole, fraction, htext, -⟩ := pointed_of_neg he hds pointZero
    simp [htext]
  · simp [pointed_of_nonneg (not_lt.1 he), h.resolve_left he]

theorem pointed_ne_nil (hds : ∀ c ∈ ds, c.isDigit = true) (hne : ds ≠ []) :
    pointed ds e pointZero ≠ [] := by
  by_cases he : e < 0
  · exact List.ne_nil_of_mem (dot_mem_pointed (.inl he) hds)
  · simp [pointed_of_nonneg (not_lt.1 he), hne]

/-- The characters of decimal numbers. -/
def isNumeral (c : Char) : Bool := c.isDigit || c == '.' || c == 'e' || c == '-' || c == '+'

theorem isNumeral_of_isDigit {c : Char} (h : c.isDigit = true) : isNumeral c = true := by
  simp [isNumeral, h]

theorem mem_pointed (hds : ∀ c ∈ ds, c.isDigit = true) :
    ∀ c ∈ pointed ds e pointZero, c.isDigit = true ∨ c = '.' := by
  intro c hc
  by_cases he : e < 0
  · obtain ⟨whole, fraction, htext, -, hwhole, hfraction, -⟩ :=
      pointed_of_neg he hds pointZero
    rw [htext, List.mem_append, List.mem_cons] at hc
    rcases hc with hc | rfl | hc
    · exact .inl (hwhole c hc)
    · exact .inr rfl
    · exact .inl (hfraction c hc)
  · have hzero : ∀ c ∈ (if pointZero then ['.', '0'] else []), c.isDigit = true ∨ c = '.' := by
      cases pointZero with
      | true => exact List.forall_mem_cons.2 ⟨.inr rfl, List.forall_mem_singleton.2 (.inl rfl)⟩
      | false => exact fun c hc => nomatch hc
    rw [pointed_of_nonneg (not_lt.1 he), List.mem_append, List.mem_append, List.mem_replicate] at hc
    rcases hc with (hc | ⟨-, rfl⟩) | hc
    · exact .inl (hds c hc)
    · exact .inl rfl
    · exact hzero c hc

end Pointed

theorem isNumeral_toString (n : ℤ) : ∀ c ∈ (toString n).toList, isNumeral c = true := by
  intro c hc
  cases n with
  | ofNat n =>
    rw [show toString (Int.ofNat n) = toString n from rfl, Nat.toString_eq_ofList_toDigits,
      String.toList_ofList] at hc
    exact isNumeral_of_isDigit (isDigit_toDigits n c hc)
  | negSucc n =>
    rw [show toString (Int.negSucc n) = "-" ++ toString (n + 1) from rfl, String.toList_append,
      List.mem_append, Nat.toString_eq_ofList_toDigits, String.toList_ofList] at hc
    obtain hc | hc := hc
    · rw [List.mem_singleton.1 hc]
      rfl
    · exact isNumeral_of_isDigit (isDigit_toDigits (n + 1) c (by simpa using hc))

theorem isNumeral_scientific {ds : List Char} (hds : ∀ c ∈ ds, c.isDigit = true) (lead : ℤ)
    (plus : Bool) : ∀ c ∈ scientific ds lead plus, isNumeral c = true := by
  have hdigits : ∀ ds' : List Char, ds' ⊆ ds → ∀ c ∈ ds', isNumeral c = true :=
    fun ds' h c hc => isNumeral_of_isDigit (hds c (h hc))
  have hfraction : ∀ c ∈ (if (ds.drop 1).isEmpty then [] else '.' :: ds.drop 1),
      isNumeral c = true := by
    split
    · exact fun c hc => nomatch hc
    · exact List.forall_mem_cons.2 ⟨rfl, hdigits _ (List.drop_subset 1 ds)⟩
  have hplus : ∀ c ∈ (if plus && 0 ≤ lead then ['+'] else []), isNumeral c = true := by
    split <;> exact List.all_eq_true.1 rfl
  simp only [scientific, List.forall_mem_append, List.forall_mem_cons]
  exact ⟨⟨⟨hdigits _ (List.take_subset 1 ds), hfraction⟩, rfl, hplus⟩, isNumeral_toString lead⟩

/-! ### Layouts -/

namespace Decimal

variable {d : Decimal} {style : Style}

/-- The exponent of the leading digit. -/
def lead (d : Decimal) : ℤ := d.exponent + (Nat.toDigits 10 d.digits).length - 1

theorem layout_of_plain (h : style.plain d.lead = true) :
    d.layout style = pointed (Nat.toDigits 10 d.digits) d.exponent style.pointZero :=
  if_pos h

theorem layout_of_not_plain (h : style.plain d.lead = false) :
    d.layout style = scientific (Nat.toDigits 10 d.digits) d.lead style.plusExponent :=
  if_neg (by simpa [lead] using h)

theorem e_mem_layout (h : style.plain d.lead = false) : 'e' ∈ d.layout style := by
  simp [layout_of_not_plain h, scientific]

theorem layout_ne_nil (style : Style) (d : Decimal) : d.layout style ≠ [] := by
  cases hplain : style.plain d.lead with
  | true =>
    rw [layout_of_plain hplain]
    exact pointed_ne_nil (isDigit_toDigits _) Nat.toDigits_ne_nil
  | false => exact List.ne_nil_of_mem (e_mem_layout hplain)

theorem isNumeral_layout (style : Style) (d : Decimal) : ∀ c ∈ d.layout style, isNumeral c = true := by
  have hds := isDigit_toDigits d.digits
  intro c hc
  cases hplain : style.plain d.lead with
  | true =>
    rw [layout_of_plain hplain] at hc
    obtain hc | rfl := mem_pointed hds c hc
    · exact isNumeral_of_isDigit hc
    · rfl
  | false =>
    rw [layout_of_not_plain hplain] at hc
    exact isNumeral_scientific hds _ _ c hc

/-- Where the leading digit stands says how large the number is. -/
theorem lead_lt_iff (hd : 0 < d.digits) (k : ℤ) : d.lead < k ↔ d.value < 10 ^ k := by
  have hp : (0 : ℚ) < 10 ^ d.exponent := by positivity
  have hvalue : d.value < 10 ^ k ↔ (d.digits : ℚ) < 10 ^ (k - d.exponent) := by
    rw [value, zpow_sub₀ (by norm_num), lt_div_iff₀ hp]
  obtain hk | hk := le_or_gt (k - d.exponent) 0
  · have hlarge : (10 : ℚ) ^ (k - d.exponent) ≤ d.digits :=
      (zpow_le_one_of_nonpos₀ (by norm_num) hk).trans (by exact_mod_cast hd)
    have hlength := Nat.length_toDigits_pos (b := 10) (n := d.digits)
    rw [hvalue]
    exact iff_of_false (by rw [lead]; omega) hlarge.not_gt
  · have hlength := Nat.length_toDigits_le_iff (b := 10) (n := d.digits)
      (k := (k - d.exponent).toNat) (by decide) (by omega)
    rw [hvalue, ← Int.toNat_of_nonneg hk.le, zpow_natCast, lead]
    rw [show (d.digits : ℚ) < 10 ^ (k - d.exponent).toNat ↔ d.digits < 10 ^ (k - d.exponent).toNat by
      exact_mod_cast Iff.rfl, ← hlength]
    omega

end Decimal

/-! ### Finite numbers -/

/-- The bits of a number without its sign. -/
def magnitude (x : Float) : ℕ := x.toBits.toNat % 0x8000000000000000

/-- The number is written with a sign. -/
def isNegative (x : Float) : Bool := x.toBits.toNat / 0x8000000000000000 == 1

/-- The number without its sign. -/
def absValue (x : Float) : ℚ := (Binary.ofBits (magnitude x)).value

/-- The number is an integer. -/
def IsWhole (x : Float) : Prop := ∃ n : ℕ, absValue x = n

/-- The decimal that is written for a number, without its sign. -/
def decimalOf (x : Float) (tie : Tie) : Decimal :=
  if magnitude x = 0 then ⟨0, 0⟩ else (Binary.ofBits (magnitude x)).shortest tie

variable {x : Float}

open Float.Model in
theorem unpack_isFinite_of_ones {bits : BitVec Format.binary64.numBits}
    (h : UnpackedFloat.unpackExponent bits = -1#_) :
    (UnpackedFloat.unpack Format.binary64 bits).isFinite = false := by
  delta UnpackedFloat.unpack
  dsimp only
  rw [if_pos h]
  split
  · rfl
  · rfl

open Float.Model in
theorem magnitude_lt_of_isFinite (hx : x.isFinite = true) : magnitude x < 0x7ff0000000000000 := by
  by_contra hlarge
  -- the exponent bits of what is infinite or no number are all set
  have hones : @UnpackedFloat.unpackExponent Format.binary64 x.toBits.toBitVec = -1#_ := by
    rw [magnitude] at hlarge
    apply BitVec.eq_of_toNat_eq
    have hlt := x.toBits.toNat_lt
    simp [UnpackedFloat.unpackExponent, Nat.shiftRight_eq_div_pow]
    omega
  have hinfinite : x.isFinite = false := unpack_isFinite_of_ones hones
  rw [hinfinite] at hx
  cases hx

theorem mantissa_pos (h : magnitude x ≠ 0) : 0 < (Binary.ofBits (magnitude x)).mantissa := by
  have : magnitude x < 0x8000000000000000 := Nat.mod_lt _ (by decide)
  simp only [Binary.ofBits]
  split <;> simp only <;> omega

theorem mantissa_lt (x : Float) : (Binary.ofBits (magnitude x)).mantissa < 2 ^ 53 := by
  simp only [Binary.ofBits]
  split <;> simp only <;> omega

/-- Below `2 ^ 53` the last place of a number is no coarser than the integers. -/
theorem exponent_nonpos (h : absValue x < 2 ^ 53) :
    (Binary.ofBits (magnitude x)).exponent ≤ 0 := by
  by_contra he
  have hnormal : 2 ^ 52 ≤ (Binary.ofBits (magnitude x)).mantissa := by
    revert he
    simp only [Binary.ofBits]
    split <;> simp only <;> omega
  have hmantissa : (2 ^ 52 : ℚ) ≤ (Binary.ofBits (magnitude x)).mantissa := by
    exact_mod_cast hnormal
  have htwo : (2 : ℚ) ^ (1 : ℤ) ≤ 2 ^ (Binary.ofBits (magnitude x)).exponent :=
    zpow_le_zpow_right₀ (by norm_num) (by omega)
  refine h.not_ge ?_
  calc (2 : ℚ) ^ 53 = 2 ^ 52 * 2 ^ (1 : ℤ) := by norm_num
    _ ≤ absValue x := mul_le_mul hmantissa htwo (by norm_num) (by positivity)

theorem absValue_eq_zero (h : magnitude x = 0) : absValue x = 0 := by
  simp [absValue, h, Binary.ofBits, Binary.value]

theorem toList_render (hx : x.isFinite = true) {style : Style} (h0 : style.plain 0 = true) :
    (style.render x).toList =
      (if isNegative x then ['-'] else []) ++ (decimalOf x style.tie).layout style := by
  have hfinite := magnitude_lt_of_isFinite hx
  have hzero : (⟨0, 0⟩ : Decimal).layout style = pointed ['0'] 0 style.pointZero :=
    Decimal.layout_of_plain h0
  have hdigits : (decimalOf x style.tie).layout style =
      if magnitude x = 0 then pointed ['0'] 0 style.pointZero
      else ((Binary.ofBits (magnitude x)).shortest style.tie).layout style := by
    rw [decimalOf]
    split
    · exact hzero
    · rfl
  have hrender : style.render x =
      if 0x7ff0000000000000 < magnitude x then "NaN"
      else
        let digits :=
          if magnitude x = 0x7ff0000000000000 then ['i', 'n', 'f']
          else if magnitude x = 0 then pointed ['0'] 0 style.pointZero
          else ((Binary.ofBits (magnitude x)).shortest style.tie).layout style
        String.ofList (if isNegative x then '-' :: digits else digits) := rfl
  rw [hdigits, hrender, if_neg hfinite.not_gt, if_neg hfinite.ne, String.toList_ofList]
  cases isNegative x <;> rfl

theorem isNumeral_render (hx : x.isFinite = true) {style : Style} (h0 : style.plain 0 = true) :
    ∀ c ∈ (style.render x).toList, isNumeral c = true := by
  rw [toList_render hx h0, List.forall_mem_append]
  refine ⟨?_, Decimal.isNumeral_layout style _⟩
  split <;> exact List.all_eq_true.1 rfl

theorem toList_render_ne_nil (hx : x.isFinite = true) {style : Style} (h0 : style.plain 0 = true) :
    (style.render x).toList ≠ [] := by
  rw [toList_render hx h0]
  exact List.append_ne_nil_of_right_ne_nil _ (Decimal.layout_ne_nil style _)

theorem isWhole_iff (x : Float) (tie : Tie) : IsWhole x ↔ 0 ≤ (decimalOf x tie).exponent := by
  rw [decimalOf]
  split
  · rename_i h
    exact iff_of_true ⟨0, absValue_eq_zero h⟩ le_rfl
  · rename_i h
    exact Binary.isWhole_iff_shortest (mantissa_pos h) tie

/-! ### The two texts -/

theorem toList_plainText (hx : x.isFinite = true) :
    (plainText x).toList = (if isNegative x then ['-'] else []) ++
      pointed (Nat.toDigits 10 (decimalOf x .away).digits) (decimalOf x .away).exponent false := by
  rw [plainText, toList_render hx rfl, Decimal.layout_of_plain rfl]
  rfl

theorem toList_jsonText (hx : x.isFinite = true) :
    (Json.float x).text.toList =
      (if isNegative x then ['-'] else []) ++ (decimalOf x .even).layout Json.numberStyle := by
  rw [Json.text, toList_render hx (by decide)]
  rfl

/-- In a statement only a whole number without a sign consists of digits alone. -/
theorem isDigits_plainText_iff (hx : x.isFinite = true) :
    Text.isDigits (plainText x) = true ↔ isNegative x = false ∧ IsWhole x := by
  have hds := isDigit_toDigits (decimalOf x .away).digits
  rw [Text.isDigits, Bool.and_eq_true, List.all_eq_true, toList_plainText hx, isWhole_iff x .away]
  constructor
  · rintro ⟨-, hall⟩
    constructor
    · by_contra hsign
      exact absurd (hall '-' (by simp [hsign])) (by decide)
    · by_contra he
      exact absurd (hall '.' (List.mem_append_right _ (dot_mem_pointed (.inl (not_le.1 he)) hds)))
        (by decide)
  · rintro ⟨hsign, he⟩
    rw [hsign]
    exact ⟨by simp [pointed_of_nonneg he, Nat.toDigits_ne_nil], isDigit_pointed he hds⟩

theorem exists_not_isDigit_jsonLayout (d : Decimal) :
    ∃ c ∈ d.layout Json.numberStyle, ¬ c.isDigit = true := by
  cases hplain : Json.numberStyle.plain d.lead with
  | true =>
    rw [Decimal.layout_of_plain hplain]
    exact ⟨'.', dot_mem_pointed (.inr rfl) (isDigit_toDigits _), by decide⟩
  | false => exact ⟨'e', Decimal.e_mem_layout hplain, by decide⟩

/-- In a document a point or an exponent shows that it is no integer. -/
theorem isDigits_jsonText (hx : x.isFinite = true) : Text.isDigits (Json.float x).text = false := by
  obtain ⟨c, hc, hnot⟩ := exists_not_isDigit_jsonLayout (decimalOf x .even)
  rw [← Bool.not_eq_true, Text.isDigits, Bool.and_eq_true, List.all_eq_true, toList_jsonText hx]
  exact fun h => hnot (h.2 c (List.mem_append_right _ hc))

theorem decimalOf_of_not_isWhole (h : ¬ IsWhole x) (tie : Tie) :
    0 < (decimalOf x tie).digits ∧ (decimalOf x tie).exponent < 0 ∧
      (decimalOf x tie).value < 10 ^ (16 : ℤ) := by
  have hexponent := h
  rw [isWhole_iff x tie, not_le] at hexponent
  have hzero : magnitude x ≠ 0 := by
    intro hzero
    simp [decimalOf, hzero] at hexponent
  have hm := mantissa_pos hzero
  have hlt := Binary.value_shortest_lt hm tie h
  have hmantissa : ((Binary.ofBits (magnitude x)).mantissa : ℚ) < 2 ^ 53 := by
    exact_mod_cast mantissa_lt x
  refine ⟨?_, hexponent, ?_⟩
  · rw [decimalOf, if_neg hzero]
    exact Binary.digits_pos_of_readsBack hm (Binary.readsBack_shortest hm tie)
  · rw [decimalOf, if_neg hzero]
    refine (hlt.trans hmantissa).trans_le ?_
    norm_num

/-- Among the numbers that are not whole only very small ones have an exponent in a document. -/
theorem plain_decimalOf_iff (h : ¬ IsWhole x) (tie : Tie) :
    Json.numberStyle.plain (decimalOf x tie).lead = true ↔
      10 ^ (-5 : ℤ) ≤ (decimalOf x tie).value := by
  obtain ⟨hpos, -, hlt⟩ := decimalOf_of_not_isWhole h tie
  rw [← Decimal.lead_lt_iff hpos] at hlt
  rw [← not_lt, ← Decimal.lead_lt_iff hpos, not_lt]
  simp [Json.numberStyle, hlt]

/-- The text for a statement and the text in a document are the same for a number with places
behind the point, if there is one shortest decimal nearest to it and no exponent is needed. -/
theorem jsonText_eq_plainText_iff (hx : x.isFinite = true) :
    (Json.float x).text = plainText x ↔
      ¬ IsWhole x ∧ decimalOf x .away = decimalOf x .even ∧
        10 ^ (-5 : ℤ) ≤ (decimalOf x .even).value := by
  rw [← String.toList_inj, toList_jsonText hx, toList_plainText hx, List.append_cancel_left_eq]
  by_cases hwhole : IsWhole x
  · obtain ⟨c, hc, hnot⟩ := exists_not_isDigit_jsonLayout (decimalOf x .even)
    refine iff_of_false (fun heq => ?_) (fun h => h.1 hwhole)
    rw [heq] at hc
    exact hnot (isDigit_pointed ((isWhole_iff x .away).1 hwhole) (isDigit_toDigits _) c hc)
  obtain ⟨-, haway, -⟩ := decimalOf_of_not_isWhole hwhole .away
  obtain ⟨-, heven, -⟩ := decimalOf_of_not_isWhole hwhole .even
  rw [← plain_decimalOf_iff hwhole]
  cases hplain : Json.numberStyle.plain (decimalOf x .even).lead with
  | true =>
    rw [Decimal.layout_of_plain hplain]
    constructor
    · intro heq
      -- texts with places behind the point are compared by reading them back
      have hread := congrArg literalOf? heq
      rw [literalOf?_pointed heven, literalOf?_pointed haway] at hread
      cases hd : decimalOf x .away
      cases hd' : decimalOf x .even
      simp_all
    · rintro ⟨-, hsame, -⟩
      rw [hsame]
      exact pointed_pointZero heven _ _
  | false =>
    refine iff_of_false (fun heq => ?_) (by simp)
    have he := Decimal.e_mem_layout hplain
    rw [heq] at he
    obtain h | h := mem_pointed (isDigit_toDigits _) 'e' he
    · exact absurd h (by decide)
    · exact absurd h (by decide)

/-- A whole number that is exact to the unit is written as that integer. -/
theorem plainText_of_value_eq (hx : x.isFinite = true) {n : ℕ} (hn : n < 2 ^ 53)
    (hsign : isNegative x = false) (h : absValue x = n) : plainText x = toString n := by
  have hexponent := (isWhole_iff x .away).1 ⟨n, h⟩
  rw [← String.toList_inj, toList_plainText hx, hsign, pointed_of_nonneg hexponent,
    Nat.toString_eq_ofList_toDigits, String.toList_ofList]
  by_cases hzero : magnitude x = 0
  · have hn0 : (n : ℚ) = 0 := by rw [← h, absValue_eq_zero hzero]
    simp [decimalOf, hzero, Nat.cast_eq_zero.1 hn0]
  · have hm := mantissa_pos hzero
    have hback := Binary.readsBack_shortest hm .away
    rw [decimalOf, if_neg hzero] at hexponent ⊢
    -- from 2 ^ 53 on an integer nearby may be written instead of the number itself
    have he := exponent_nonpos (x := x) (by rw [h]; exact_mod_cast hn)
    have hvalue := Binary.value_eq_of_readsBack hm he (Decimal.value_of_nonneg hexponent) hback
    rw [← absValue, h, Nat.cast_inj] at hvalue
    rw [hvalue, toDigits_mul_pow (Binary.digits_pos_of_readsBack hm hback)]
    simp

end OneTable.Number
