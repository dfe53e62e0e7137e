import Mathlib.Data.List.Induction
import Mathlib.Data.List.Nodup
import Mathlib.Data.List.Perm.Subperm
import Mathlib.Data.List.TakeDrop
import OneTable.Proofs.Number.Reading
import OneTable.RowIndex

/-!
# Keys of indexed rows

A row goes under a key that no row before it took: its text, its text with the least free suffix, or
the first free number that the search comes to. So an entry is never replaced, the rows come back in
their order, and the key of a row depends on the rows before it alone (`ofRows_keys`). Each search
comes to a free key because it goes through more names than are taken; for the numbers of 64 bits
this bounds the rows, and no list in memory reaches that bound. For the suffixes, which have 32 bits
and a sign, it bounds the rows by `2 ^ 31`: a longer list can hold all suffixes of a text, and then
the next row with that text gets a negative one (`ofRows_keys_overflow`).
-/

namespace OneTable.RowIndex

/-! ### Searching for a free key -/

section Search

variable {α : Type} {taken : Fields Row} {name : α → String}

theorem firstFree_eq_find? (candidates : List α) :
    firstFree taken name candidates = candidates.find? fun a => !taken.contains (name a) := by
  induction candidates with
  | nil => rfl
  | cons a as ih =>
    rw [firstFree, List.find?_cons]
    by_cases h : taken.contains (name a) = true <;> simp [h, ih]

/-- Of more different names than are taken, one is free. -/
theorem exists_free (taken : Fields Row) (f : Nat → String)
    (hinj : ∀ i ≤ taken.size, ∀ j ≤ taken.size, f i = f j → i = j) :
    ∃ i ≤ taken.size, f i ∉ taken.names := by
  by_contra hall
  simp only [not_exists, not_and, not_not] at hall
  have hnodup : ((List.range (taken.size + 1)).map f).Nodup := by
    refine List.Nodup.map_on (fun i hi j hj h => ?_) List.nodup_range
    rw [List.mem_range, Nat.lt_succ_iff] at hi hj
    exact hinj i hi j hj h
  have hsub : (List.range (taken.size + 1)).map f ⊆ taken.names := by
    intro s hs
    obtain ⟨i, hi, rfl⟩ := List.mem_map.1 hs
    exact hall i (Nat.lt_succ_iff.1 (List.mem_range.1 hi))
  have hle := (hnodup.subperm hsub).length_le
  rw [List.length_map, List.length_range, Fields.length_names] at hle
  omega

/-- The search stops at the first free candidate. -/
theorem firstFree_range (name : α → String) (f : Nat → α) {n : Nat}
    (h : ∃ i < n, name (f i) ∉ taken.names) :
    ∃ i < n, firstFree taken name ((List.range n).map f) = some (f i) ∧
      name (f i) ∉ taken.names ∧ ∀ j < i, name (f j) ∈ taken.names := by
  have hfree : ∀ i, (!taken.contains (name (f i))) = true ↔ name (f i) ∉ taken.names := by
    intro i
    rw [Bool.not_eq_true', ← Bool.not_eq_true, Fields.contains_eq_true_iff]
  obtain ⟨i, hi⟩ : ∃ i, (List.range n).find? (fun i => !taken.contains (name (f i))) = some i := by
    obtain ⟨i, hi, hname⟩ := h
    exact Option.isSome_iff_exists.1
      (List.find?_isSome.2 ⟨i, List.mem_range.2 hi, (hfree i).2 hname⟩)
  obtain ⟨hname, hmem, hbefore⟩ := List.find?_range_eq_some.1 hi
  refine ⟨i, List.mem_range.1 hmem, ?_, (hfree i).1 hname, fun j hj => ?_⟩
  · rw [firstFree_eq_find?, List.find?_map]
    exact congrArg (Option.map f) hi
  · exact Fields.contains_eq_true_iff.1 (by simpa using hbefore j hj)

end Search

variable {taken : Fields Row} {key column : String} {row : Row} {s : State}

/-! ### Suffixes -/

/-- Below the largest number of 32 bits with a sign the suffixes are counted as they are. -/
theorem suffix_of_lt {n : Nat} (h : n < 2147483648) : suffix n = n := by
  have hsize : n ≤ Int32.size := Nat.le_trans (Nat.le_of_lt h) (by decide)
  rw [suffix, if_pos hsize, Int32.toInt_ofNat', Int.bmod_def, Int32.size]
  omega

/-- No two suffixes are the same. -/
theorem suffix_inj {i j : Nat} (hi : 0 < i) (hj : 0 < j) : suffix i = suffix j ↔ i = j := by
  refine ⟨fun h => ?_, fun h => h ▸ rfl⟩
  simp only [suffix, Int32.toInt_ofNat', Int.bmod_def, Int32.size] at h
  split_ifs at h <;> omega

theorem suffixed_natCast (key : String) (i : Nat) :
    suffixed key i = key ++ "_" ++ toString i := rfl

theorem suffixed_inj {i j : Int} : suffixed key i = suffixed key j ↔ i = j := by
  refine ⟨fun h => ?_, fun h => h ▸ rfl⟩
  have hlist := congrArg String.toList h
  simp only [suffixed, String.toList_append] at hlist
  exact Number.toString_int_inj.1 (String.toList_injective (List.append_cancel_left hlist))

theorem suffixed_ne (key : String) (i : Int) : suffixed key i ≠ key := by
  intro h
  have hlength := congrArg String.length h
  have hbar : "_".length = 1 := rfl
  simp only [suffixed, String.length_append] at hlength
  omega

/-! ### Texts -/

theorem keyFor_of_notMem (h : key ∉ taken.names) : keyFor taken key = key := by
  rw [keyFor, if_neg (mt Fields.contains_eq_true_iff.1 h)]

/-- A text that is taken gets the first suffix that is free. It is one of the names taken itself, so
there are fewer suffixes to pass over than names. -/
theorem keyFor_of_mem (h : key ∈ taken.names) :
    ∃ n, 0 < n ∧ n ≤ taken.size ∧ keyFor taken key = suffixed key (suffix n) ∧
      suffixed key (suffix n) ∉ taken.names ∧
      ∀ j, 0 < j → j < n → suffixed key (suffix j) ∈ taken.names := by
  obtain ⟨k, hk, hfree⟩ : ∃ k < taken.size, suffixed key (suffix (k + 1)) ∉ taken.names := by
    -- the text itself counts as the first name, and it is taken
    have hinj : ∀ i ≤ taken.size, ∀ j ≤ taken.size,
        (if i = 0 then key else suffixed key (suffix i)) =
          (if j = 0 then key else suffixed key (suffix j)) → i = j := by
      intro i _ j _ hij
      split at hij <;> split at hij
      · omega
      · exact absurd hij.symm (suffixed_ne key _)
      · exact absurd hij (suffixed_ne key _)
      · exact (suffix_inj (by omega) (by omega)).1 (suffixed_inj.1 hij)
    obtain ⟨k, hk, hfree⟩ := exists_free taken _ hinj
    cases k with
    | zero => exact absurd h hfree
    | succ k => exact ⟨k, hk, hfree⟩
  obtain ⟨n, -, hfirst, hname, hbefore⟩ :=
    firstFree_range (suffixed key) (fun n => suffix (n + 1)) (n := taken.size + 1)
      ⟨k, by omega, hfree⟩
  have hn : n ≤ k := Nat.le_of_not_lt fun hlt => hfree (hbefore k hlt)
  refine ⟨n + 1, Nat.succ_pos n, by omega, ?_, hname, fun j hj hlt => ?_⟩
  · rw [keyFor, if_pos (Fields.contains_eq_true_iff.2 h)]
    dsimp only
    rw [hfirst, Option.getD_some]
  · obtain ⟨j, rfl⟩ := Nat.exists_eq_succ_of_ne_zero (Nat.ne_of_gt hj)
    exact hbefore j (Nat.lt_of_succ_lt_succ hlt)

/-- While a suffix below `2 ^ 31` is free, a text that is taken gets the least of them. -/
theorem keyFor_of_free (h : key ∈ taken.names) {k : Nat} (hpos : 0 < k) (hk : k < 2147483648)
    (hfree : suffixed key k ∉ taken.names) :
    ∃ i : Nat, 0 < i ∧ i ≤ taken.size ∧ keyFor taken key = suffixed key i ∧
      suffixed key i ∉ taken.names ∧ ∀ j : Nat, 0 < j → j < i → suffixed key j ∈ taken.names := by
  obtain ⟨n, hn, hsize, hkey, hname, hbefore⟩ := keyFor_of_mem h
  rw [← suffix_of_lt hk] at hfree
  have hle : n ≤ k := Nat.le_of_not_lt fun hlt => hfree (hbefore k hpos hlt)
  rw [suffix_of_lt (by omega)] at hkey hname
  refine ⟨n, hn, hsize, hkey, hname, fun j hj hlt => ?_⟩
  rw [← suffix_of_lt (n := j) (by omega)]
  exact hbefore j hj hlt

/-- A text that is taken gets the suffix that is free while all before it are taken. -/
theorem keyFor_of_first (h : key ∈ taken.names) {n : Nat} (hpos : 0 < n)
    (hfree : suffixed key (suffix n) ∉ taken.names)
    (hbefore : ∀ j, 0 < j → j < n → suffixed key (suffix j) ∈ taken.names) :
    keyFor taken key = suffixed key (suffix n) := by
  obtain ⟨i, hi, -, hkey, hname, hfirst⟩ := keyFor_of_mem h
  have hle : n ≤ i := Nat.le_of_not_lt fun hlt => hname (hbefore i hi hlt)
  have hge : i ≤ n := Nat.le_of_not_lt fun hlt => hfree (hfirst n hpos hlt)
  rw [hkey, Nat.le_antisymm hge hle]

/-- With all suffixes above zero taken, it gets the least number of 32 bits if that is free. -/
theorem keyFor_of_all_taken (h : key ∈ taken.names)
    (hall : ∀ j : Nat, 0 < j → j < 2147483648 → suffixed key j ∈ taken.names)
    (hfree : suffixed key (-2147483648) ∉ taken.names) :
    keyFor taken key = suffixed key (-2147483648) := by
  have hlast : suffix 2147483648 = -2147483648 := by decide
  rw [← hlast] at hfree ⊢
  refine keyFor_of_first h (by omega) hfree fun j hpos hlt => ?_
  rw [suffix_of_lt hlt]
  exact hall j hpos hlt

theorem keyFor_notMem (taken : Fields Row) (key : String) : keyFor taken key ∉ taken.names := by
  by_cases h : key ∈ taken.names
  · obtain ⟨i, -, -, hkey, hfree, -⟩ := keyFor_of_mem h
    rwa [hkey]
  · rwa [keyFor_of_notMem h]

/-! ### Numbers -/

theorem toNat_add_ofNat (next : UInt64) (i : Nat) :
    (next + UInt64.ofNat i).toNat = (next.toNat + i) % UInt64.size := by
  rw [UInt64.toNat_add, UInt64.toNat_ofNat', Nat.add_mod_mod]

/-- With fewer keys than numbers, the search from a number on comes to one that is free. -/
theorem positionFor_eq (h : taken.size < UInt64.size) (next : UInt64) :
    ∃ i ≤ taken.size, positionFor taken next = next + UInt64.ofNat i ∧
      toString (next + UInt64.ofNat i).toNat ∉ taken.names ∧
      ∀ j < i, toString (next + UInt64.ofNat j).toNat ∈ taken.names := by
  have hinj : ∀ i ≤ taken.size, ∀ j ≤ taken.size,
      toString (next + UInt64.ofNat i).toNat = toString (next + UInt64.ofNat j).toNat →
        i = j := by
    intro i hi j hj hij
    have hmod := Number.toString_inj.1 hij
    rw [toNat_add_ofNat, toNat_add_ofNat] at hmod
    unfold UInt64.size at hmod h
    omega
  obtain ⟨k, hk, hfree⟩ := exists_free taken _ hinj
  obtain ⟨i, hi, hfirst, hname, hbefore⟩ :=
    firstFree_range (fun u : UInt64 => toString u.toNat) (fun i => next + UInt64.ofNat i)
      (n := taken.size + 1) ⟨k, by omega, hfree⟩
  refine ⟨i, by omega, ?_, hname, hbefore⟩
  rw [positionFor, hfirst, Option.getD_some]

/-! ### One row after the other -/

/-- The key that the next row gets. -/
def State.keyOf (s : State) (column : String) (row : Row) : String :=
  match row.text? column with
  | some key => keyFor s.placed key
  | none => toString (positionFor s.placed s.next).toNat

theorem State.placed_place (s : State) (column : String) (row : Row) :
    (s.place column row).placed = s.placed.insert (s.keyOf column row) row := by
  unfold State.place State.keyOf
  cases row.text? column <;> rfl

theorem State.keyOf_notMem (h : s.placed.size < UInt64.size) :
    s.keyOf column row ∉ s.placed.names := by
  unfold State.keyOf
  cases row.text? column with
  | some key => exact keyFor_notMem s.placed key
  | none =>
    obtain ⟨i, -, hposition, hfree, -⟩ := positionFor_eq h s.next
    dsimp only
    rwa [hposition]

theorem State.toList_place (h : s.placed.size < UInt64.size) :
    (s.place column row).placed.toList = s.placed.toList ++ [(s.keyOf column row, row)] := by
  rw [State.placed_place]
  exact upsert_of_notMem (State.keyOf_notMem h)

/-- The rows placed, with the least number to try next. -/
def after (rows : List Row) (column : String) : State :=
  rows.foldl (fun s row => s.place column row) {}

theorem after_concat (rows : List Row) (column : String) (row : Row) :
    after (rows ++ [row]) column = (after rows column).place column row := by
  rw [after, List.foldl_append]
  rfl

theorem values_after (column : String) {rows : List Row} (h : rows.length ≤ UInt64.size) :
    (after rows column).placed.values = rows := by
  induction rows using List.reverseRecOn with
  | nil => rfl
  | append_singleton rows row ih =>
    rw [List.length_append, List.length_singleton] at h
    have hvalues := ih (by omega)
    have hsize : (after rows column).placed.size = rows.length := by
      rw [← Fields.length_values, hvalues]
    rw [after_concat, Fields.values, State.toList_place (by omega), List.map_append]
    exact congrArg (· ++ [row]) hvalues

theorem size_after (column : String) {rows : List Row} (h : rows.length ≤ UInt64.size) :
    (after rows column).placed.size = rows.length := by
  rw [← Fields.length_values, values_after column h]

theorem toList_after_concat (column : String) {rows : List Row}
    (h : rows.length < UInt64.size) (row : Row) :
    (after (rows ++ [row]) column).placed.toList =
      (after rows column).placed.toList ++ [((after rows column).keyOf column row, row)] := by
  rw [after_concat, State.toList_place (by rwa [size_after column (Nat.le_of_lt h)])]

/-- Rows that follow leave the entries as they are. -/
theorem toList_after_append (column : String) {rows more : List Row}
    (h : (rows ++ more).length ≤ UInt64.size) :
    (after rows column).placed.toList <+: (after (rows ++ more) column).placed.toList := by
  induction more using List.reverseRecOn with
  | nil => simp
  | append_singleton more row ih =>
    rw [← List.append_assoc, List.length_append, List.length_singleton] at h
    rw [← List.append_assoc, toList_after_concat column (by omega)]
    exact (ih (by omega)).trans (List.prefix_append ..)

/-- The entry of a row and the entries before it are those from when it was placed. -/
theorem entry_of_row (column : String) {rows : List Row} (h : rows.length ≤ UInt64.size) {n : Nat}
    {row : Row} (hrow : rows[n]? = some row) :
    (ofRows rows column).toList.take n = (after (rows.take n) column).placed.toList ∧
      (ofRows rows column).toList[n]? =
        some ((after (rows.take n) column).keyOf column row, row) := by
  obtain ⟨hn, hget⟩ := List.getElem?_eq_some_iff.1 hrow
  have hsplit : rows = rows.take n ++ [row] ++ rows.drop (n + 1) := by
    rw [List.append_assoc, List.singleton_append, ← hget, List.cons_getElem_drop_succ,
      List.take_append_drop]
  have htake : (rows.take n).length = n := List.length_take_of_le (Nat.le_of_lt hn)
  have hbefore : (after (rows.take n) column).placed.toList.length = n :=
    (size_after column (by omega)).trans htake
  obtain ⟨later, hlater⟩ := toList_after_append column (hsplit ▸ h)
  rw [← hsplit, toList_after_concat column (by omega), List.append_assoc,
    List.singleton_append] at hlater
  have hentries : (ofRows rows column).toList = _ := hlater.symm
  rw [hentries]
  refine ⟨List.take_left' hbefore, ?_⟩
  rw [List.getElem?_append_right (Nat.le_of_eq hbefore), hbefore, Nat.sub_self]
  rfl

theorem size_before (column : String) {rows : List Row} (h : rows.length ≤ UInt64.size) {n : Nat}
    {row : Row} (hrow : rows[n]? = some row) : (after (rows.take n) column).placed.size = n := by
  have hn := (List.getElem?_eq_some_iff.1 hrow).1
  rw [size_after column (by rw [List.length_take]; omega), List.length_take]
  omega

/-! ### A text with all its suffixes taken -/

/-- Rows of different texts go under their texts. -/
theorem names_after_map {named : String → Row}
    (hnamed : ∀ text, (named text).text? column = some text) {texts : List String}
    (hsize : texts.length ≤ UInt64.size) (h : texts.Nodup) :
    (after (texts.map named) column).placed.names = texts := by
  induction texts using List.reverseRecOn with
  | nil => rfl
  | append_singleton texts text ih =>
    rw [← List.concat_eq_append, List.nodup_concat] at h
    obtain ⟨htext, hnodup⟩ := h
    rw [List.length_append, List.length_singleton] at hsize
    have hnames := ih (by omega) hnodup
    have hkey : (after (texts.map named) column).keyOf column (named text) = text := by
      rw [State.keyOf, hnamed]
      exact keyFor_of_notMem (by rwa [hnames])
    rw [List.map_append, List.map_singleton, Fields.names,
      toList_after_concat column (by rw [List.length_map]; omega), hkey, List.map_append]
    exact congrArg (· ++ [text]) hnames


/-- The last of different texts, which is among those before it as are all its suffixes of 32 bits
above zero, gets the least below zero. -/
theorem ofRows_all_taken {named : String → Row}
    (hnamed : ∀ text, (named text).text? column = some text) {texts : List String}
    (hsize : texts.length < UInt64.size) (h : texts.Nodup) (hkey : key ∈ texts)
    (hall : ∀ j : Nat, 0 < j → j < 2147483648 → suffixed key j ∈ texts)
    (hfree : suffixed key (-2147483648) ∉ texts) :
    let entries := (ofRows (texts.map named ++ [named key]) column).toList
    (entries.take texts.length).map Prod.fst = texts ∧
      entries[texts.length]? = some (suffixed key (-2147483648), named key) := by
  have hnames := names_after_map hnamed (Nat.le_of_lt hsize) h
  have hlength : (texts.map named).length = texts.length := List.length_map ..
  have hrow : (texts.map named ++ [named key])[texts.length]? = some (named key) := by
    rw [← hlength, List.getElem?_concat_length]
  obtain ⟨hearlier, hentry⟩ := entry_of_row column
    (by rw [List.length_append, List.length_singleton, hlength]; omega) hrow
  rw [List.take_left' hlength] at hearlier hentry
  dsimp only
  refine ⟨by rw [hearlier]; exact hnames, ?_⟩
  rw [hentry, State.keyOf, hnamed]
  dsimp only
  rw [keyFor_of_all_taken (by rwa [hnames]) (by rwa [hnames]) (by rwa [hnames])]

/-- A text and its first suffixes, in the order in which equal texts get them. -/
def withSuffixes (key : String) (m : Nat) : List String :=
  key :: (List.range m).map fun i => key ++ "_" ++ toString (i + 1)

theorem length_withSuffixes (key : String) (m : Nat) : (withSuffixes key m).length = m + 1 := by
  rw [withSuffixes, List.length_cons, List.length_map, List.length_range]

theorem nodup_withSuffixes (key : String) (m : Nat) : (withSuffixes key m).Nodup := by
  refine List.nodup_cons.2 ⟨fun h => ?_, List.Nodup.map (fun i j hij => ?_) List.nodup_range⟩
  · obtain ⟨i, -, hi⟩ := List.mem_map.1 h
    exact suffixed_ne key (i + 1 : Nat) hi
  · have hsame : suffixed key (i + 1 : Nat) = suffixed key (j + 1 : Nat) := hij
    have hcast := suffixed_inj.1 hsame
    omega

theorem suffixed_mem_withSuffixes {m : Nat} {i : Int} :
    suffixed key i ∈ withSuffixes key m ↔ 1 ≤ i ∧ i ≤ m := by
  simp only [withSuffixes, List.mem_cons, List.mem_map, List.mem_range, suffixed_ne, false_or,
    ← suffixed_natCast, suffixed_inj]
  constructor
  · rintro ⟨j, hj, rfl⟩
    omega
  · rintro ⟨hpos, hlt⟩
    exact ⟨i.toNat - 1, by omega, by omega⟩

/-! ### All rows -/

/-- Every row whose text is taken finds a free suffix that a counter of 32 bits with a sign comes to
before it goes around. -/
def SuffixesFit (rows : List Row) (column : String) : Prop :=
  ∀ n row text, rows[n]? = some row → row.text? column = some text →
    let taken := (ofRows (rows.take n) column).names
    text ∈ taken → ∃ i, 1 ≤ i ∧ i < 2147483648 ∧ text ++ "_" ++ toString i ∉ taken

/-- A row has no more keys before it than rows, and its own text is one of them. -/
theorem suffixesFit_of_length_le (column : String) {rows : List Row}
    (h : rows.length ≤ 2147483648) : SuffixesFit rows column := by
  intro n row text hrow _ taken htaken
  have hn : n < rows.length := (List.getElem?_eq_some_iff.1 hrow).1
  obtain ⟨i, hpos, hle, -, hfree, -⟩ := keyFor_of_mem htaken
  have hsize : (ofRows (rows.take n) column).size = n :=
    size_before column (Nat.le_trans h (by decide)) hrow
  rw [suffix_of_lt (by omega), suffixed_natCast] at hfree
  exact ⟨i, hpos, by omega, hfree⟩

/-- Every row comes back in its place, and no two under one key. A row with a text has the text as
its key if no row before it took that, and else the text with the least suffix that is free. The
suffixes are counted in 32 bits with a sign, which is enough for every list of up to `2 ^ 31` rows,
and in a longer one as long as no row finds all of them taken. -/
theorem ofRows_keys (rows : List Row) (column : String) (hfit : rows.length ≤ UInt64.size) :
    (rows.length ≤ 2147483648 → SuffixesFit rows column) ∧
    (SuffixesFit rows column →
      let entries := (ofRows rows column).toList
      entries.length = rows.length ∧ (entries.map Prod.fst).Nodup ∧ entries.map Prod.snd = rows ∧
        ∀ n row text, rows[n]? = some row → row.text? column = some text →
          let taken := (entries.take n).map Prod.fst
          (text ∉ taken → entries[n]? = some (text, row)) ∧
          (text ∈ taken → ∃ i, 1 ≤ i ∧ i ≤ n ∧
            entries[n]? = some (text ++ "_" ++ toString i, row) ∧
            text ++ "_" ++ toString i ∉ taken ∧
            ∀ j, 1 ≤ j → j < i → text ++ "_" ++ toString j ∈ taken)) := by
  refine ⟨suffixesFit_of_length_le column, fun hsuffixes => ⟨size_after column hfit,
    (ofRows rows column).distinct, values_after column hfit, fun n row text hrow htext => ?_⟩⟩
  obtain ⟨hearlier, hentry⟩ := entry_of_row column hfit hrow
  have hkey : (after (rows.take n) column).keyOf column row =
      keyFor (after (rows.take n) column).placed text := by
    rw [State.keyOf, htext]
  dsimp only
  rw [hentry, hearlier, hkey]
  refine ⟨fun hfree => by rw [keyFor_of_notMem hfree], fun htaken => ?_⟩
  obtain ⟨k, hk, hlt, hnone⟩ := hsuffixes n row text hrow htext htaken
  obtain ⟨i, hpos, hle, hsuffixed, hfree, hbefore⟩ := keyFor_of_free htaken hk hlt hnone
  rw [size_before column hfit hrow] at hle
  exact ⟨i, hpos, hle, by rw [hsuffixed, suffixed_natCast], hfree, hbefore⟩

/-- Texts that look like suffixed ones and like numbers, among rows without a text. -/
theorem ofRows_keys_colliding :
    let named := fun text : String => (⟨[("id", .text text)], List.nodup_singleton _⟩ : Row)
    let unnamed : Row := ⟨[("id", .null)], by decide⟩
    let rows := [named "0", named "0_1", unnamed, named "0", named "1", named "0"]
    let entries := (ofRows rows "id").toList
    entries.map Prod.fst = ["0", "0_1", "1", "0_2", "1_1", "0_3"] ∧
      entries.length = 6 ∧ entries.map Prod.snd = rows ∧ entries[5]? = some ("0_3", named "0") := by
  intro named unnamed rows entries
  have hkeys : entries.map Prod.fst = ["0", "0_1", "1", "0_2", "1_1", "0_3"] := by decide +kernel
  obtain ⟨hsuffixes, hkeyed⟩ := ofRows_keys rows "id" (by decide)
  obtain ⟨hlength, -, hrows, hplaced⟩ := hkeyed (hsuffixes (by decide))
  refine ⟨hkeys, hlength, hrows, ?_⟩
  have htaken : "0" ∈ (entries.take 5).map Prod.fst := by
    rw [List.map_take, hkeys]
    decide
  obtain ⟨i, -, -, hentry, -, -⟩ := (hplaced 5 (named "0") "0" rfl rfl).2 htaken
  have hthird := congrArg (Option.map Prod.fst) hentry
  rw [← List.getElem?_map, hkeys] at hthird
  have hkey : "0_3" = "0" ++ "_" ++ toString i := Option.some.inj hthird
  rw [hentry, ← hkey]

/-- With `t` and all its suffixes of 32 bits above zero taken the counter goes around, and the next
`t` gets a suffix below zero, while the least that is free is `2 ^ 31`. -/
theorem ofRows_keys_overflow :
    let named (text : String) : Row := ⟨[("id", .text text)], List.nodup_singleton _⟩
    let rows := (withSuffixes "t" 2147483647).map named ++ [named "t"]
    let entries := (ofRows rows "id").toList
    let taken := (entries.take 2147483648).map Prod.fst
    rows[2147483648]? = some (named "t") ∧
      "t" ∈ taken ∧ "t" ++ "_" ++ toString 2147483648 ∉ taken ∧
      entries[2147483648]? = some ("t_-2147483648", named "t") ∧
      ¬ ∃ i : Nat, entries[2147483648]? = some ("t" ++ "_" ++ toString i, named "t") := by
  intro named rows entries taken
  -- the long list is never written out, only its length and its members count
  have hlength : (withSuffixes "t" 2147483647).length = 2147483648 := length_withSuffixes ..
  have hnamed : ∀ text, (named text).text? "id" = some text := fun _ => rfl
  have hrow : rows[2147483648]? = some (named "t") := by
    rw [← hlength, ← List.length_map (f := named)]
    exact List.getElem?_concat_length ..
  have hfirst : "t" ∈ withSuffixes "t" 2147483647 := List.mem_cons_self ..
  obtain ⟨htaken, hentry⟩ := ofRows_all_taken hnamed (by rw [hlength]; decide)
    (nodup_withSuffixes ..) hfirst
    (fun j hpos hlt => suffixed_mem_withSuffixes.2 ⟨by omega, by omega⟩)
    (fun h => absurd (suffixed_mem_withSuffixes.1 h).1 (by decide))
  rw [hlength] at htaken hentry
  have hkeys : taken = withSuffixes "t" 2147483647 := htaken
  refine ⟨hrow, hkeys ▸ hfirst, fun h => ?_, hentry, ?_⟩
  · rw [hkeys] at h
    have hle := (suffixed_mem_withSuffixes (i := (2147483648 : Nat))).1 h
    omega
  · rintro ⟨i, hi⟩
    have hsame : suffixed "t" (-2147483648) = suffixed "t" i :=
      Option.some.inj (congrArg (Option.map Prod.fst) (hentry.symm.trans hi))
    have hcast := suffixed_inj.1 hsame
    omega

end OneTable.RowIndex
