import Mathlib.Order.Bounds.Basic
import OneTable.Proofs.RowIndex.Keys

/-!
# Numbers as keys of rows

A row without a text gets the first free number from the next one on, around after the largest of 64
bits. While that largest is no key, the next number is one more than the largest among the keys
(`State.Counted`), so it is free at once. Once it is a key the next number stays there or starts
again from `0`, and what the search ends with is free because there are more numbers than rows
(`ofRows_position`). Every sum is checked for its range before it is taken: `around` goes on with
`0` and `successor` stays where it is.
-/

namespace OneTable.RowIndex

/-- One more, and `0` after the largest number of 64 bits. -/
def around (u : UInt64) : UInt64 := (Number.uint64Of? (u.toNat + 1)).getD 0

/-- The search for a free number from `u` on ends at `v` after a number of steps. -/
inductive Search (taken : List String) : UInt64 → Nat → UInt64 → Prop
  | free {u : UInt64} (h : toString u.toNat ∉ taken) : Search taken u 0 u
  | step {u v : UInt64} {steps : Nat} (h : toString u.toNat ∈ taken)
    (hs : Search taken (around u) steps v) : Search taken u (steps + 1) v

/-- The numbers of 64 bits that the keys denote, with zeros or a `+` in front or not. -/
def Numbers (taken : List String) : Set Nat :=
  {m | m < UInt64.size ∧ ∃ key ∈ taken, Number.Denotes key.toList m}

/-- The next number is one more than the largest of the keys, or `0` without one. -/
structure State.Counted (s : State) : Prop where
  above : ∀ m ∈ Numbers s.placed.names, m < s.next.toNat
  reached : s.next.toNat = 0 ∨ ∃ m ∈ Numbers s.placed.names, s.next.toNat = m + 1

/-! ### The search -/

theorem toNat_around (u : UInt64) : (around u).toNat = (u.toNat + 1) % UInt64.size := by
  have hu := u.toNat_lt_size
  unfold around Number.uint64Of?
  split
  · rename_i h
    rw [Option.getD_some, UInt64.toNat_ofNatLT, Nat.mod_eq_of_lt (by omega)]
    omega
  · have hlast : u.toNat + 1 = UInt64.size := by omega
    rw [hlast, Nat.mod_self]
    rfl

theorem around_add_ofNat (u : UInt64) (i : Nat) :
    around u + UInt64.ofNat i = u + UInt64.ofNat (i + 1) := by
  rw [← UInt64.toNat_inj, toNat_add_ofNat, toNat_add_ofNat, toNat_around, Nat.mod_add_mod]
  congr 1
  omega

theorem search_of_taken {taken : List String} {u : UInt64} {i : Nat}
    (hfree : toString (u + UInt64.ofNat i).toNat ∉ taken)
    (hbefore : ∀ j < i, toString (u + UInt64.ofNat j).toNat ∈ taken) :
    Search taken u i (u + UInt64.ofNat i) := by
  induction i generalizing u with
  | zero =>
    have hu : u + UInt64.ofNat 0 = u := UInt64.add_zero u
    rw [hu] at hfree ⊢
    exact .free hfree
  | succ i ih =>
    have hu : u + UInt64.ofNat 0 = u := UInt64.add_zero u
    rw [← around_add_ofNat] at hfree ⊢
    refine .step (hu ▸ hbefore 0 (Nat.succ_pos i)) (ih hfree fun j hj => ?_)
    rw [around_add_ofNat]
    exact hbefore (j + 1) (Nat.succ_lt_succ hj)

/-- The number of a row is the one that the search ends with, in at most one step for each key. -/
theorem search_positionFor {taken : Fields Row} (h : taken.size < UInt64.size) (next : UInt64) :
    ∃ steps ≤ taken.size, Search taken.names next steps (positionFor taken next) := by
  obtain ⟨i, hi, hposition, hfree, hbefore⟩ := positionFor_eq h next
  exact ⟨i, hi, hposition ▸ search_of_taken hfree hbefore⟩

theorem Search.eq_of_free {taken : List String} {u v : UInt64} {steps : Nat}
    (hs : Search taken u steps v) (h : toString u.toNat ∉ taken) : v = u := by
  cases hs with
  | free => rfl
  | step htaken => exact absurd htaken h

theorem toNat_successor (n : UInt64) :
    (successor n).toNat = min (n.toNat + 1) (UInt64.size - 1) := by
  have hn := n.toNat_lt_size
  unfold successor
  split
  · rename_i h
    rw [h]
    rfl
  · rename_i h
    have hne : n.toNat ≠ UInt64.size - 1 := fun heq => h (UInt64.toNat_inj.1 heq)
    have hadd := toNat_add_ofNat n 1
    rw [Nat.mod_eq_of_lt (by omega)] at hadd
    exact hadd.trans (by omega)

theorem toNat_max (m n : UInt64) : (max m n).toNat = max m.toNat n.toNat := by
  show (if m ≤ n then n else m).toNat = _
  split
  · rename_i h
    exact (Nat.max_eq_right (UInt64.le_iff_toNat_le.1 h)).symm
  · rename_i h
    rw [UInt64.le_iff_toNat_le] at h
    omega

theorem numbers_append (taken more : List String) :
    Numbers (taken ++ more) = Numbers taken ∪ Numbers more := by
  ext m
  simp only [Numbers, List.mem_append, Set.mem_union, Set.mem_ofPred_eq, or_and_right, exists_or,
    and_or_left]

theorem mem_numbers_toString (u : UInt64) {taken : List String} (h : toString u.toNat ∈ taken) :
    u.toNat ∈ Numbers taken :=
  ⟨u.toNat_lt_size, _, h, Number.denotes_toString _⟩

/-- A key is a number of 64 bits or none at all. -/
theorem numbers_singleton (key : String) :
    Numbers [key] = match Number.uint64Of key.toList with
      | .ok u => {u.toNat}
      | .error _ => ∅ := by
  ext m
  simp only [Numbers, List.mem_singleton, exists_eq_left, Set.mem_ofPred_eq]
  constructor
  · rintro ⟨hm, hdenotes⟩
    rw [← UInt64.toNat_ofNatLT (h := hm)] at hdenotes
    rw [Number.uint64Of_eq_ok_iff.2 hdenotes]
    exact (UInt64.toNat_ofNatLT ..).symm
  · intro hm
    split at hm
    · rename_i u hread
      obtain rfl : m = u.toNat := hm
      exact ⟨u.toNat_lt_size, Number.uint64Of_eq_ok_iff.1 hread⟩
    · exact absurd hm (Set.notMem_empty m)

variable {column : String} {row : Row} {s : State}

theorem State.Counted.free (h : s.Counted) : toString s.next.toNat ∉ s.placed.names := fun hmem =>
  absurd (h.above _ (mem_numbers_toString s.next hmem)) (Nat.lt_irrefl _)

theorem State.Counted.positionFor_eq_next (h : s.Counted) (hsize : s.placed.size < UInt64.size) :
    positionFor s.placed s.next = s.next := by
  obtain ⟨steps, -, hsearch⟩ := search_positionFor hsize s.next
  exact hsearch.eq_of_free h.free

/-- What a key makes of the next number. -/
def raised (next : UInt64) (key : String) : UInt64 :=
  match Number.uint64Of key.toList with
  | .ok n => max next (successor n)
  | .error _ => next

theorem State.next_place (s : State) (column : String) (row : Row) :
    (s.place column row).next =
      raised (if (row.text? column).isSome then s.next else positionFor s.placed s.next)
        (s.keyOf column row) := by
  unfold State.place State.keyOf raised
  cases row.text? column <;> rfl

theorem State.Counted.place (h : s.Counted) (hsize : s.placed.size < UInt64.size)
    (hlast : UInt64.size - 1 ∉ Numbers (s.place column row).placed.names) :
    (s.place column row).Counted := by
  have hnames : (s.place column row).placed.names =
      s.placed.names ++ [s.keyOf column row] := by
    rw [Fields.names, State.toList_place hsize, List.map_append]
    rfl
  have hnumbers := numbers_append s.placed.names [s.keyOf column row]
  rw [← hnames, numbers_singleton] at hnumbers
  have hnext := s.next_place column row
  rw [h.positionFor_eq_next hsize, ite_self, raised] at hnext
  cases hread : Number.uint64Of (s.keyOf column row).toList with
  | error fault =>
    rw [hread] at hnumbers hnext
    dsimp only at hnumbers hnext
    rw [Set.union_empty] at hnumbers
    exact ⟨hnumbers ▸ hnext ▸ h.above, hnumbers ▸ hnext ▸ h.reached⟩
  | ok n =>
    rw [hread] at hnumbers hnext
    dsimp only at hnumbers hnext
    have hn : n.toNat ≠ UInt64.size - 1 := by
      rintro heq
      exact hlast (hnumbers ▸ .inr heq.symm)
    have hsucc : (successor n).toNat = n.toNat + 1 := by
      have := n.toNat_lt_size
      rw [toNat_successor]
      omega
    have hmax : (s.place column row).next.toNat = max s.next.toNat (n.toNat + 1) := by
      rw [hnext, toNat_max, hsucc]
    refine ⟨fun m hm => ?_, ?_⟩
    · rw [hnumbers] at hm
      rcases hm with hm | rfl
      · have := h.above m hm
        omega
      · omega
    · -- the larger of the next number and the successor is above a key, the old or the new one
      rw [hnumbers]
      right
      by_cases hle : s.next.toNat ≤ n.toNat + 1
      · exact ⟨n.toNat, .inr rfl, by omega⟩
      · obtain hzero | ⟨m, hm, heq⟩ := h.reached
        · omega
        · exact ⟨m, .inl hm, by omega⟩

end OneTable.RowIndex
