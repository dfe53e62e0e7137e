/-!
# Integers in decimal

Writing an integer uses the fewest digits and a leading `-` where it is negative. Reading is more
liberal, a sign and leading zeros being allowed, but the integer has to lie in the given range.
Faults are found from left to right: a character that is no digit counts only if the digits before
it are still in range.
-/

namespace OneTable.Number

/-- Why a text is no integer of the wanted range. -/
inductive IntegerFault
  | empty
  | notDigit
  | tooLarge
  | tooSmall
deriving DecidableEq, Repr

def IntegerFault.message : IntegerFault → String
  | .empty => "cannot parse integer from empty string"
  | .notDigit => "invalid digit found in string"
  | .tooLarge => "number too large to fit in target type"
  | .tooSmall => "number too small to fit in target type"

def digitValue (c : Char) : Nat := c.toNat - '0'.toNat

/-- The value of a hexadecimal digit in either case. -/
def hexValue? (c : Char) : Option Nat :=
  if c.isDigit then some (c.toNat - '0'.toNat)
  else if 'a' ≤ c && c ≤ 'f' then some (c.toNat - 'a'.toNat + 10)
  else if 'A' ≤ c && c ≤ 'F' then some (c.toNat - 'A'.toNat + 10)
  else none

/-- Reads digits behind the number `n`, which may not grow beyond `limit`. -/
def readDigits (limit : Nat) (beyond : IntegerFault) (n : Nat) : List Char → Except IntegerFault Nat
  | [] => .ok n
  | c :: cs =>
    if c.isDigit then
      let n := n * 10 + digitValue c
      if n ≤ limit then readDigits limit beyond n cs else .error beyond
    else .error .notDigit

/-- Reads an integer from `0` to `limit`, with or without a leading `+`. -/
def readUnsigned (limit : Nat) : List Char → Except IntegerFault Nat
  | [] => .error .empty
  | ['+'] => .error .notDigit
  | '+' :: ds => readDigits limit .tooLarge 0 ds
  | ds => readDigits limit .tooLarge 0 ds

/-- Reads an integer from `-limit - 1` to `limit`, with or without a leading sign. -/
def readSigned (limit : Nat) : List Char → Except IntegerFault Int
  | [] => .error .empty
  | ['+'] => .error .notDigit
  | ['-'] => .error .notDigit
  | '+' :: ds => (readDigits limit .tooLarge 0 ds).map Int.ofNat
  | '-' :: ds => (readDigits (limit + 1) .tooSmall 0 ds).map fun n => -Int.ofNat n
  | ds => (readDigits limit .tooLarge 0 ds).map Int.ofNat

def uint64Of (s : List Char) : Except IntegerFault UInt64 :=
  (readUnsigned (UInt64.size - 1) s).map UInt64.ofNat

def int64Of (s : List Char) : Except IntegerFault Int64 :=
  (readSigned 0x7fffffffffffffff s).map Int64.ofInt

/-- The integer as one of 64 bits without a sign, if it is one. -/
def uint64Of? (n : Int) : Option UInt64 :=
  if h : 0 ≤ n ∧ n < UInt64.size then some (UInt64.ofNatLT n.toNat (by omega)) else none

/-- The integer as one of 64 bits with a sign, if it is one. -/
def int64Of? (n : Int) : Option Int64 :=
  if h : Int64.minValue.toInt ≤ n ∧ n ≤ Int64.maxValue.toInt then some (Int64.ofIntLE n h.1 h.2)
  else none

/-- The integer that a run of digits denotes. -/
def natOfDigits (ds : List Char) : Nat := ds.foldl (fun n c => n * 10 + digitValue c) 0

/-- Decimal digits, filled up with zeros on the left to at least `width`. -/
def padded (width n : Nat) : String :=
  let ds := Nat.toDigits 10 n
  String.ofList (List.replicate (width - ds.length) '0' ++ ds)

theorem isDigit_toDigits (n : Nat) : ∀ c ∈ Nat.toDigits 10 n, c.isDigit = true :=
  fun _ hc => Nat.isDigit_of_mem_toDigits (by decide) (by decide) hc

theorem natOfDigits_toDigits (n : Nat) : natOfDigits (Nat.toDigits 10 n) = n := by
  have h := Nat.ofDigitChars_toDigits (b := 10) (n := n) (by decide) (by decide)
  simpa [Nat.ofDigitChars, natOfDigits, digitValue, Nat.mul_comm] using h

/-- Zeros in front change no number. -/
theorem natOfDigits_zeros (n : Nat) (ds : List Char) :
    natOfDigits (List.replicate n '0' ++ ds) = natOfDigits ds := by
  induction n with
  | zero => rfl
  | succ n ih => rw [List.replicate_succ, List.cons_append, ← ih]; rfl

theorem toList_padded_ne_nil (width n : Nat) : (padded width n).toList ≠ [] := by
  simp [padded, Nat.toDigits_ne_nil]

theorem isDigit_padded (width n : Nat) : ∀ c ∈ (padded width n).toList, c.isDigit = true := by
  intro c hc
  rw [padded, String.toList_ofList, List.mem_append] at hc
  rcases hc with hzero | hdigit
  · rw [List.eq_of_mem_replicate hzero]
    rfl
  · exact isDigit_toDigits n c hdigit

/-- Filled up or longer than the width, the digits denote the number. -/
theorem natOfDigits_padded (width n : Nat) : natOfDigits (padded width n).toList = n := by
  rw [padded, String.toList_ofList, natOfDigits_zeros, natOfDigits_toDigits]

theorem toNat_uint64Of? {n : Int} {u : UInt64} (h : uint64Of? n = some u) :
    (u.toNat : Int) = n := by
  unfold uint64Of? at h
  split at h
  · rename_i hn
    obtain rfl := by simpa using h
    simp [UInt64.toNat_ofNatLT, Int.toNat_of_nonneg hn.1]
  · simp at h

theorem uint64Of?_toNat (u : UInt64) : uint64Of? u.toNat = some u := by
  have hu : 0 ≤ (u.toNat : Int) ∧ (u.toNat : Int) < UInt64.size := by
    have := u.toNat_lt_size
    omega
  rw [uint64Of?, dif_pos hu, Option.some_inj, ← UInt64.toNat_inj, UInt64.toNat_ofNatLT,
    Int.toNat_natCast]

theorem toInt_int64Of? {n : Int} {i : Int64} (h : int64Of? n = some i) : i.toInt = n := by
  unfold int64Of? at h
  split at h
  · obtain rfl := by simpa using h
    simp [Int64.toInt_ofIntLE]
  · simp at h

end OneTable.Number
