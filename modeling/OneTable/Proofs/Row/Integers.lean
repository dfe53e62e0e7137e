import OneTable.Proofs.Number.Reading
import OneTable.Row

/-!
# Integers as numbers and as texts

Servers report an integer as a number or as its text. Both are read alike: read as an integer of 64
bits, with or without a sign, the one gives a result exactly if the other gives the same
(`Value.ShownBy.asInt64_iff`, `Value.ShownBy.asUInt64_iff`). For each of them it is the integer
that the value is (`Value.integer?`), if that is in range.
-/

namespace OneTable

namespace Number

/-- What denotes an integer holds digits and a sign only. -/
theorem DenotesInt.mem {cs : List Char} {z : Int} (h : DenotesInt cs z) {c : Char} (hc : c ∈ cs) :
    c.isDigit = true ∨ c = '+' ∨ c = '-' := by
  rcases h with ⟨ds, -, hdigits, rfl | rfl, -⟩ | ⟨-, hdigits⟩
  · exact .inl (hdigits c hc)
  · rcases List.mem_cons.1 hc with rfl | hc
    · exact .inr (.inl rfl)
    · exact .inl (hdigits c hc)
  · rcases List.mem_cons.1 hc with rfl | hc
    · exact .inr (.inr rfl)
    · exact .inl (hdigits c hc)

theorem DenotesInt.ne_nil {cs : List Char} {z : Int} (h : DenotesInt cs z) : cs ≠ [] := by
  rcases h with ⟨ds, hne, -, rfl | rfl, -⟩ | ⟨-, -⟩
  · exact hne
  · exact List.cons_ne_nil _ _
  · exact List.cons_ne_nil _ _

theorem DenotesInt.isBlank_eq_false {cs : List Char} {z : Int} (h : DenotesInt cs z) :
    ∀ c ∈ cs, Text.isBlank c = false := by
  intro c hc
  rcases h.mem hc with hdigit | rfl | rfl
  · exact Text.isBlank_of_isDigit hdigit
  · decide
  · decide

theorem denotes_toString_int_iff {z : Int} {n : Nat} : Denotes (toString z).toList n ↔ n = z := by
  constructor
  · exact fun h => (DenotesInt.plain h).unique (denotesInt_toString z)
  · rintro rfl
    exact denotes_toString n

theorem denotesInt_toString_iff {y z : Int} : DenotesInt (toString z).toList y ↔ y = z := by
  constructor
  · exact fun h => h.unique (denotesInt_toString z)
  · rintro rfl
    exact denotesInt_toString y

theorem int64Of?_eq_some_iff {z : Int} {i : Int64} : int64Of? z = some i ↔ i.toInt = z := by
  refine ⟨toInt_int64Of?, ?_⟩
  rintro rfl
  have hlow := i.minValue_le_toInt
  have hhigh := i.toInt_le
  rw [int64Of?, dif_pos ⟨hlow, hhigh⟩, Option.some_inj, ← Int64.toInt_inj, Int64.toInt_ofIntLE]

theorem uint64Of?_eq_some_iff {z : Int} {u : UInt64} : uint64Of? z = some u ↔ u.toNat = z := by
  refine ⟨toNat_uint64Of?, ?_⟩
  rintro rfl
  exact uint64Of?_toNat u

end Number

namespace Value

open Number

variable {v v' : Value} {s : String} {z : Int}

/-- The integer that a value is, a truth value being `0` or `1`. -/
def integer? : Value → Option Int
  | .int n => some n.toInt
  | .uint n => some n.toNat
  | .bool b => some (if b then 1 else 0)
  | _ => none

theorem text?_of_integer? (h : v.integer? = some z) : v.text? = some (toString z) := by
  cases v with
  | int n =>
    cases h
    rfl
  | uint n =>
    cases h
    rfl
  | bool b =>
    cases h
    cases b <;> rfl
  | _ => cases h

theorem asInt64_eq_ok_iff (h : v.integer? = some z) {i : Int64} :
    v.asInt64 = .ok i ↔ i.toInt = z := by
  cases v with
  | int n =>
    cases h
    rw [asInt64, Except.ok.injEq, eq_comm, Int64.toInt_inj]
  | uint n =>
    cases h
    rw [asInt64, ← int64Of?_eq_some_iff]
    cases int64Of? n.toNat <;> simp
  | bool b =>
    cases h
    rw [asInt64, Except.ok.injEq, eq_comm, ← Int64.toInt_inj]
    cases b <;> rfl
  | _ => cases h

theorem asUInt64_eq_ok_iff (h : v.integer? = some z) {u : UInt64} :
    v.asUInt64 = .ok u ↔ u.toNat = z := by
  cases v with
  | int n =>
    cases h
    rw [asUInt64, ← uint64Of?_eq_some_iff]
    cases uint64Of? n.toInt <;> simp
  | uint n =>
    cases h
    rw [asUInt64, Except.ok.injEq, eq_comm, Int.natCast_inj, UInt64.toNat_inj]
  | bool b =>
    cases h
    rw [asUInt64, Except.ok.injEq, eq_comm, ← UInt64.toNat_inj, ← Int.natCast_inj]
    cases b <;> rfl
  | _ => cases h

theorem asInt64_text_eq_ok_iff {i : Int64} :
    (text s).asInt64 = .ok i ↔ DenotesInt (Text.trim s.toList) i.toInt := by
  rw [asInt64, mapError_eq_ok_iff, int64Of_eq_ok_iff]

theorem asUInt64_text_eq_ok_iff {u : UInt64} :
    (text s).asUInt64 = .ok u ↔ Denotes (Text.trim s.toList) u.toNat := by
  rw [asUInt64, mapError_eq_ok_iff, uint64Of_eq_ok_iff]

/-- A text shows a value that is an integer: its text form with blanks around it. -/
inductive ShownBy (v : Value) : Value → Prop
  | padded {s before after : String} (hv : v.integer?.isSome = true) (hs : v.text? = some s)
    (hb : before.toList.all Text.isBlank = true) (ha : after.toList.all Text.isBlank = true) :
    ShownBy v (.text (before ++ s ++ after))

namespace ShownBy

/-- Trimmed, the text is the integer in decimal. -/
theorem exists_integer (h : v.ShownBy v') : ∃ z s, v.integer? = some z ∧ v' = .text s ∧
    Text.trim s.toList = (toString z).toList := by
  rcases h with ⟨hv, hs, hb, ha⟩
  rw [List.all_eq_true] at hb ha
  obtain ⟨z, hz⟩ := Option.isSome_iff_exists.1 hv
  have hdenotes := denotesInt_toString z
  rw [text?_of_integer? hz, Option.some_inj] at hs
  subst hs
  refine ⟨z, _, hz, rfl, ?_⟩
  rw [String.toList_append, String.toList_append,
    Text.trim_padded hb ha hdenotes.ne_nil hdenotes.isBlank_eq_false]

/-- Read as an integer with a sign, the value and its text give the same or both nothing. -/
theorem asInt64_iff (h : v.ShownBy v') (i : Int64) : v.asInt64 = .ok i ↔ v'.asInt64 = .ok i := by
  obtain ⟨z, s, hz, rfl, htrim⟩ := h.exists_integer
  rw [asInt64_eq_ok_iff hz, asInt64_text_eq_ok_iff, htrim, denotesInt_toString_iff]

theorem asUInt64_iff (h : v.ShownBy v') (u : UInt64) :
    v.asUInt64 = .ok u ↔ v'.asUInt64 = .ok u := by
  obtain ⟨z, s, hz, rfl, htrim⟩ := h.exists_integer
  rw [asUInt64_eq_ok_iff hz, asUInt64_text_eq_ok_iff, htrim, denotes_toString_int_iff]

end ShownBy

end Value

end OneTable
