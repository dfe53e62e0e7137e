import OneTable.Number.Integer

/-!
# Reading what denotes a number

A text denotes a number if it is a run of digits, with any zeros and at most one `+` in front. The
reader returns a number exactly if the text denotes it and it is in range
(`readUnsigned_eq_ok_iff`): the check after each digit refuses nothing that would come back into
range. With a `-` in front the text denotes the negative number, and the reader of integers is as
exact (`readSigned_eq_ok_iff`).
-/

namespace OneTable.Number

/-- Digits, with or without a `+` before them. -/
def Denotes (cs : List Char) (n : Nat) : Prop :=
  ∃ ds, ds ≠ [] ∧ (∀ c ∈ ds, c.isDigit = true) ∧ (cs = ds ∨ cs = '+' :: ds) ∧ natOfDigits ds = n

theorem map_eq_ok_iff {ε α β : Type} {x : Except ε α} {f : α → β} {b : β} :
    x.map f = .ok b ↔ ∃ a, x = .ok a ∧ f a = b := by
  cases x <;> simp [Except.map]

theorem toList_toString_nat (n : Nat) : (toString n).toList = Nat.toDigits 10 n := by
  rw [Nat.toString_eq_ofList_toDigits, String.toList_ofList]

theorem denotes_toString (n : Nat) : Denotes (toString n).toList n :=
  ⟨Nat.toDigits 10 n, Nat.toDigits_ne_nil, isDigit_toDigits n, .inl (toList_toString_nat n),
    natOfDigits_toDigits n⟩

theorem toString_inj {m n : Nat} : toString m = toString n ↔ m = n := by
  refine ⟨fun h => ?_, fun h => h ▸ rfl⟩
  rw [Nat.toString_eq_ofList_toDigits, Nat.toString_eq_ofList_toDigits] at h
  rw [← natOfDigits_toDigits m, String.ofList_injective h, natOfDigits_toDigits]

/-- More digits make no number smaller. -/
theorem le_foldl_digits (ds : List Char) (n : Nat) :
    n ≤ ds.foldl (fun n c => n * 10 + digitValue c) n := by
  induction ds generalizing n with
  | nil => exact Nat.le_refl n
  | cons c cs ih =>
    have h := ih (n * 10 + digitValue c)
    rw [List.foldl_cons]
    omega

theorem readDigits_eq_ok_iff {limit n m : Nat} {beyond : IntegerFault} {ds : List Char}
    (hn : n ≤ limit) :
    readDigits limit beyond n ds = .ok m ↔
      (∀ c ∈ ds, c.isDigit = true) ∧ ds.foldl (fun n c => n * 10 + digitValue c) n = m ∧
        m ≤ limit := by
  induction ds generalizing n with
  | nil =>
    rw [readDigits]
    refine ⟨?_, ?_⟩
    · rintro ⟨⟩
      exact ⟨by simp, rfl, hn⟩
    · rintro ⟨-, rfl, -⟩
      rfl
  | cons c cs ih =>
    rw [readDigits, List.forall_mem_cons, List.foldl_cons]
    by_cases hdigit : c.isDigit = true
    · rw [if_pos hdigit]
      dsimp only
      split
      · rename_i hle
        rw [ih hle]
        simp only [hdigit, true_and]
      · -- the digits to come cannot bring the number back into range
        rename_i hlt
        refine ⟨fun h => by simp at h, ?_⟩
        rintro ⟨-, rfl, hle⟩
        exact absurd (Nat.le_trans (le_foldl_digits cs _) hle) hlt
    · rw [if_neg hdigit]
      exact ⟨fun h => by simp at h, fun h => absurd h.1.1 hdigit⟩

theorem denotes_cons_plus {ds : List Char} {n : Nat} :
    Denotes ('+' :: ds) n ↔ ds ≠ [] ∧ (∀ c ∈ ds, c.isDigit = true) ∧ natOfDigits ds = n := by
  constructor
  · rintro ⟨ds', hne, hdigits, rfl | h, hn⟩
    · exact absurd (hdigits '+' List.mem_cons_self) (by decide)
    · obtain rfl : ds = ds' := (List.cons.inj h).2
      exact ⟨hne, hdigits, hn⟩
  · rintro ⟨hne, hdigits, hn⟩
    exact ⟨ds, hne, hdigits, .inr rfl, hn⟩

theorem denotes_of_ne_plus {cs : List Char} {n : Nat} (h : ∀ ds, cs ≠ '+' :: ds) :
    Denotes cs n ↔ cs ≠ [] ∧ (∀ c ∈ cs, c.isDigit = true) ∧ natOfDigits cs = n := by
  constructor
  · rintro ⟨ds, hne, hdigits, rfl | hcs, hn⟩
    · exact ⟨hne, hdigits, hn⟩
    · exact absurd hcs (h ds)
  · rintro ⟨hne, hdigits, hn⟩
    exact ⟨cs, hne, hdigits, .inl rfl, hn⟩

theorem readUnsigned_eq_ok_iff {limit n : Nat} {cs : List Char} :
    readUnsigned limit cs = .ok n ↔ Denotes cs n ∧ n ≤ limit := by
  unfold readUnsigned
  split
  · rw [denotes_of_ne_plus (by simp)]
    simp
  · rw [denotes_cons_plus]
    simp
  · rename_i ds hne
    rw [readDigits_eq_ok_iff (Nat.zero_le limit), denotes_cons_plus, natOfDigits]
    have hne : ds ≠ [] := fun h => hne (h ▸ rfl)
    simp only [hne, ne_eq, not_false_eq_true, true_and, and_assoc]
  · rename_i hnil _ hplus
    rw [readDigits_eq_ok_iff (Nat.zero_le limit), denotes_of_ne_plus hplus, natOfDigits]
    have hnil : cs ≠ [] := hnil
    simp only [hnil, ne_eq, not_false_eq_true, true_and, and_assoc]

theorem uint64Of_eq_ok_iff {cs : List Char} {u : UInt64} :
    uint64Of cs = .ok u ↔ Denotes cs u.toNat := by
  have hu := u.toNat_lt_size
  rw [uint64Of, map_eq_ok_iff]
  constructor
  · rintro ⟨n, hread, rfl⟩
    obtain ⟨hn, hle⟩ := readUnsigned_eq_ok_iff.1 hread
    rwa [UInt64.toNat_ofNat', Nat.mod_eq_of_lt (Nat.lt_of_le_pred (by decide) hle)]
  · intro h
    exact ⟨u.toNat, readUnsigned_eq_ok_iff.2 ⟨h, by omega⟩, UInt64.ofNat_toNat⟩

/-! ### Integers with a sign -/

/-- A number, or the negative of the digits behind a `-`. -/
inductive DenotesInt : List Char → Int → Prop
  | plain {cs : List Char} {n : Nat} (h : Denotes cs n) : DenotesInt cs n
  | minus {ds : List Char} (hne : ds ≠ []) (hdigits : ∀ c ∈ ds, c.isDigit = true) :
    DenotesInt ('-' :: ds) (-natOfDigits ds)

theorem not_denotes_minus {ds : List Char} {n : Nat} : ¬ Denotes ('-' :: ds) n := by
  rintro ⟨ds', -, hdigits, rfl | h, -⟩
  · exact absurd (hdigits '-' List.mem_cons_self) (by decide)
  · exact absurd (List.cons.inj h).1 (by decide)

theorem denotesInt_minus_iff {ds : List Char} {z : Int} :
    DenotesInt ('-' :: ds) z ↔ ds ≠ [] ∧ (∀ c ∈ ds, c.isDigit = true) ∧ z = -natOfDigits ds := by
  constructor
  · rintro (h | ⟨hne, hdigits⟩)
    · exact absurd h not_denotes_minus
    · exact ⟨hne, hdigits, rfl⟩
  · rintro ⟨hne, hdigits, rfl⟩
    exact .minus hne hdigits

theorem denotesInt_of_ne_minus {cs : List Char} {z : Int} (h : ∀ ds, cs ≠ '-' :: ds) :
    DenotesInt cs z ↔ ∃ n : Nat, Denotes cs n ∧ z = n := by
  constructor
  · rintro (hn | ⟨-, -⟩)
    · exact ⟨_, hn, rfl⟩
    · exact absurd rfl (h _)
  · rintro ⟨n, hn, rfl⟩
    exact .plain hn

/-- Without a `-` the text is read like one that may have none. -/
theorem readSigned_of_ne_minus (limit : Nat) {cs : List Char} (h : ∀ ds, cs ≠ '-' :: ds) :
    readSigned limit cs = (readUnsigned limit cs).map Int.ofNat := by
  rcases cs with _ | ⟨c, ds⟩
  · rfl
  · by_cases hplus : c = '+'
    · subst hplus
      cases ds <;> rfl
    · have hminus : c ≠ '-' := fun hc => h ds (hc ▸ rfl)
      rw [readSigned, readUnsigned]
      all_goals simp [hplus, hminus]

theorem readSigned_eq_ok_iff {limit : Nat} {z : Int} {cs : List Char} :
    readSigned limit cs = .ok z ↔
      DenotesInt cs z ∧ -((limit : Int) + 1) ≤ z ∧ z ≤ limit := by
  by_cases h : ∃ ds, cs = '-' :: ds
  · obtain ⟨ds, rfl⟩ := h
    rw [denotesInt_minus_iff]
    cases ds with
    | nil => simp [readSigned]
    | cons d ds =>
      have hread : readSigned limit ('-' :: d :: ds) =
          (readDigits (limit + 1) .tooSmall 0 (d :: ds)).map fun n => -Int.ofNat n := rfl
      rw [hread, map_eq_ok_iff]
      simp only [readDigits_eq_ok_iff (Nat.zero_le (limit + 1))]
      constructor
      · rintro ⟨_, ⟨hdigits, rfl, hle⟩, rfl⟩
        refine ⟨⟨List.cons_ne_nil _ _, hdigits, rfl⟩, ?_, ?_⟩ <;>
          simp only [Int.ofNat_eq_natCast] <;> omega
      · rintro ⟨⟨-, hdigits, rfl⟩, hlow, -⟩
        exact ⟨natOfDigits (d :: ds), ⟨hdigits, rfl, by omega⟩, rfl⟩
  · have hne : ∀ ds, cs ≠ '-' :: ds := fun ds hds => h ⟨ds, hds⟩
    rw [readSigned_of_ne_minus limit hne, denotesInt_of_ne_minus hne, map_eq_ok_iff]
    simp only [readUnsigned_eq_ok_iff]
    constructor
    · rintro ⟨n, ⟨hn, hle⟩, rfl⟩
      refine ⟨⟨n, hn, rfl⟩, ?_, ?_⟩ <;> simp only [Int.ofNat_eq_natCast] <;> omega
    · rintro ⟨⟨n, hn, rfl⟩, -, hle⟩
      exact ⟨n, ⟨hn, by omega⟩, rfl⟩

/-- A text denotes one integer. -/
theorem DenotesInt.unique {cs : List Char} {y z : Int} (hy : DenotesInt cs y)
    (hz : DenotesInt cs z) : y = z := by
  have hread : ∀ {x : Int}, DenotesInt cs x → x.natAbs ≤ y.natAbs + z.natAbs →
      readSigned (y.natAbs + z.natAbs) cs = .ok x := fun hx hle =>
    readSigned_eq_ok_iff.2 ⟨hx, by omega, by omega⟩
  exact Except.ok.inj ((hread hy (by omega)).symm.trans (hread hz (by omega)))

theorem toList_toString_negSucc (n : Nat) :
    (toString (Int.negSucc n)).toList = '-' :: Nat.toDigits 10 (n + 1) := by
  show ("-" ++ toString (n + 1)).toList = _
  rw [String.toList_append, toList_toString_nat]
  rfl

theorem denotesInt_toString (z : Int) : DenotesInt (toString z).toList z := by
  cases z with
  | ofNat n => exact .plain (denotes_toString n)
  | negSucc n =>
    rw [toList_toString_negSucc, denotesInt_minus_iff, natOfDigits_toDigits]
    exact ⟨Nat.toDigits_ne_nil, isDigit_toDigits _, rfl⟩

theorem toString_int_inj {y z : Int} : toString y = toString z ↔ y = z := by
  rw [← String.toList_inj]
  exact ⟨fun h => (denotesInt_toString y).unique (h ▸ denotesInt_toString z), fun h => h ▸ rfl⟩

theorem int64Of_eq_ok_iff {cs : List Char} {i : Int64} :
    int64Of cs = .ok i ↔ DenotesInt cs i.toInt := by
  have hlow := i.le_toInt
  have hhigh := i.toInt_lt
  rw [int64Of, map_eq_ok_iff]
  constructor
  · rintro ⟨z, hread, rfl⟩
    obtain ⟨hz, hle, hge⟩ := readSigned_eq_ok_iff.1 hread
    rwa [Int64.toInt_ofInt_of_le (by omega) (by omega)]
  · intro h
    exact ⟨i.toInt, readSigned_eq_ok_iff.2 ⟨h, by omega, by omega⟩, Int64.ofInt_toInt i⟩

end OneTable.Number
