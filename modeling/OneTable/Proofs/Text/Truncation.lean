import OneTable.Monitor.Event

/-!
# Texts cut at a character

A text that is too long for a number of bytes is cut behind the last character that fits. That place
is also found from the other side, going back from the limit byte by byte until a character ends
there (`lastBoundary`), and the bytes up to it are always a text (`truncated?_eq`). What is left is
the longest beginning of whole characters within the limit, and no other text is (`LongestFit`).
Messages of errors and announced statements are kept in this way, with three dots behind the cut
(`texts_cut_at_boundary`).
-/

namespace OneTable

namespace Text

variable {budget : Nat} {s p : String} {cs : List Char}

/-! ### The longest beginning that fits -/

/-- `p` is the longest beginning of `s` in whole characters that takes at most `budget` bytes. -/
structure LongestFit (budget : Nat) (s p : String) : Prop where
  begins : p.toList <+: s.toList
  fits : p.utf8ByteSize ≤ budget
  longest : ∀ q : String, q.toList <+: s.toList → q.utf8ByteSize ≤ budget → q.toList <+: p.toList

/-- There is one longest beginning that fits. -/
theorem LongestFit.unique {p' : String} (h : LongestFit budget s p) (h' : LongestFit budget s p') :
    p = p' :=
  String.toList_inj.1 ((h'.longest p h.begins h.fits).eq_of_length_le
    (h.longest p' h'.begins h'.fits).length_le)

/-- Of two beginnings of a text the one of fewer bytes begins the other. -/
theorem begins_of_size_le {q : String} (hp : p.toList <+: s.toList) (hq : q.toList <+: s.toList)
    (hle : q.utf8ByteSize ≤ p.utf8ByteSize) : q.toList <+: p.toList := by
  rcases List.prefix_or_prefix_of_prefix hq hp with h | ⟨rest, hrest⟩
  · exact h
  · obtain rfl : q = p ++ String.ofList rest := String.toList_inj.1 (by simp [hrest])
    rw [String.utf8ByteSize_append] at hle
    have hempty : String.ofList rest = "" := String.utf8ByteSize_eq_zero_iff.1 (by omega)
    exact ⟨[], by rw [hempty, String.append_empty, List.append_nil]⟩

theorem longestFit_self (h : s.utf8ByteSize ≤ budget) : LongestFit budget s s :=
  ⟨List.prefix_rfl, h, fun _ hq _ => hq⟩

theorem byteSize_eq (cs : List Char) : byteSize cs = (String.ofList cs).utf8ByteSize := by
  induction cs with
  | nil => rfl
  | cons c cs ih =>
    have hsize : byteSize (c :: cs) = c.utf8Size + byteSize cs := rfl
    rw [hsize, ih, String.ofList_cons, String.utf8ByteSize_append, String.utf8ByteSize_singleton]

theorem byteSize_toList (s : String) : byteSize s.toList = s.utf8ByteSize := by
  rw [byteSize_eq, String.ofList_toList]

theorem cut_prefix (budget : Nat) (cs : List Char) : cut budget cs <+: cs :=
  ⟨_, cut_append_drop budget cs⟩

/-- The cut goes as far as any beginning that fits. -/
theorem prefix_cut {qs : List Char} (hqs : qs <+: cs) (hfits : byteSize qs ≤ budget) :
    qs <+: cut budget cs := by
  induction qs generalizing budget cs with
  | nil => exact List.nil_prefix
  | cons c qs ih =>
    obtain ⟨rest, rfl⟩ := hqs
    have hsize : byteSize (c :: qs) = c.utf8Size + byteSize qs := rfl
    rw [List.cons_append, cut, if_pos (by omega), List.cons_prefix_cons]
    exact ⟨rfl, ih (List.prefix_append qs rest) (by omega)⟩

theorem longestFit_cut (budget : Nat) (s : String) :
    LongestFit budget s (String.ofList (cut budget s.toList)) where
  begins := by
    rw [String.toList_ofList]
    exact cut_prefix budget s.toList
  fits := by
    rw [← byteSize_eq]
    exact byteSize_cut_le budget s.toList
  longest q hq hfits := by
    rw [String.toList_ofList]
    exact prefix_cut hq (byteSize_toList q ▸ hfits)

/-- The first character that is left out would not have fitted, so at most three bytes are. -/
theorem LongestFit.le_size_add_three (h : LongestFit budget s p) (hlong : budget < s.utf8ByteSize) :
    budget ≤ p.utf8ByteSize + 3 := by
  obtain ⟨rest, hrest⟩ := h.begins
  cases rest with
  | nil =>
    have hps : p = s := String.toList_inj.1 (by rw [← hrest, List.append_nil])
    have hfits := h.fits
    rw [hps] at hfits
    omega
  | cons c rest =>
    have hbegins : (p.push c).toList <+: s.toList := by
      rw [String.toList_push, ← hrest]
      exact ⟨rest, by simp⟩
    have hover : ¬ (p.push c).utf8ByteSize ≤ budget := fun hfits => by
      have hle := (h.longest _ hbegins hfits).length_le
      rw [String.toList_push, List.length_append, List.length_singleton] at hle
      omega
    rw [String.utf8ByteSize_push] at hover
    have := c.utf8Size_le_four
    omega

/-! ### The same from behind, byte by byte -/

/-- The last place up to `n` where a character of the text ends, or its beginning. -/
def lastBoundary (s : String) : Nat → Nat
  | 0 => 0
  | n + 1 => if (String.Pos.Raw.mk (n + 1)).isValid s then n + 1 else lastBoundary s n

/-- The first `n` bytes as a text. There is none if they end inside a character or behind the end. -/
def firstBytes? (s : String) (n : Nat) : Option String :=
  if (String.Pos.Raw.mk n).isValid s then String.fromUTF8? (s.toByteArray.extract 0 n) else none

/-- The text itself when it fits; else its bytes up to the last boundary within the limit. -/
def truncated? (budget : Nat) (s : String) : Option String :=
  if s.utf8ByteSize ≤ budget then some s else firstBytes? s (lastBoundary s budget)

/-- Characters end behind the beginnings of a text and nowhere else. -/
theorem isValid_iff {n : Nat} :
    (String.Pos.Raw.mk n).isValid s = true ↔
      ∃ p : String, p.toList <+: s.toList ∧ p.utf8ByteSize = n := by
  rw [String.Pos.Raw.isValid_eq_true_iff, String.Pos.Raw.isValid_iff_exists_append]
  constructor
  · rintro ⟨p, r, rfl, hn⟩
    exact ⟨p, by simp, (congrArg String.Pos.Raw.byteIdx hn).symm⟩
  · rintro ⟨p, ⟨rest, hrest⟩, rfl⟩
    exact ⟨p, String.ofList rest, String.toList_inj.1 (by simp [hrest]), rfl⟩

theorem lastBoundary_le (s : String) (n : Nat) : lastBoundary s n ≤ n := by
  induction n with
  | zero => exact Nat.le_refl 0
  | succ n ih =>
    rw [lastBoundary]
    split
    · exact Nat.le_refl _
    · exact Nat.le_succ_of_le ih

theorem isValid_lastBoundary (s : String) (n : Nat) :
    (String.Pos.Raw.mk (lastBoundary s n)).isValid s = true := by
  induction n with
  | zero => exact isValid_iff.2 ⟨"", List.nil_prefix, rfl⟩
  | succ n ih =>
    rw [lastBoundary]
    split
    · assumption
    · exact ih

theorem le_lastBoundary {m n : Nat} (hm : (String.Pos.Raw.mk m).isValid s = true) (hle : m ≤ n) :
    m ≤ lastBoundary s n := by
  induction n with
  | zero => exact hle
  | succ n ih =>
    rw [lastBoundary]
    split
    · exact hle
    · rename_i hinside
      refine ih (Nat.le_of_lt_succ (Nat.lt_of_le_of_ne hle ?_))
      rintro rfl
      exact hinside hm

/-- The bytes of a beginning are that beginning. -/
theorem firstBytes?_of_begins (h : p.toList <+: s.toList) :
    firstBytes? s p.utf8ByteSize = some p := by
  rw [firstBytes?, if_pos (isValid_iff.2 ⟨p, h, rfl⟩)]
  obtain ⟨rest, hrest⟩ := h
  obtain rfl : s = p ++ String.ofList rest := String.toList_inj.1 (by simp [hrest])
  have hbytes : (p ++ String.ofList rest).toByteArray.extract 0 p.utf8ByteSize = p.toByteArray := by
    rw [String.toByteArray_append, ByteArray.extract_append_eq_left String.size_toByteArray.symm]
  rw [hbytes, String.fromUTF8?, dif_pos p.isValidUTF8]
  rfl

/-- Up to the last boundary stands the longest beginning that fits. -/
theorem longestFit_of_lastBoundary (hp : p.toList <+: s.toList)
    (hsize : p.utf8ByteSize = lastBoundary s budget) : LongestFit budget s p where
  begins := hp
  fits := hsize ▸ lastBoundary_le s budget
  longest q hq hfits := begins_of_size_le hp hq
    (hsize ▸ le_lastBoundary (isValid_iff.2 ⟨q, hq, rfl⟩) hfits)

/-- The text is always cut at a boundary, and what is left is what the characters that fit make. -/
theorem truncated?_eq (budget : Nat) (s : String) :
    truncated? budget s = some (String.ofList (cut budget s.toList)) := by
  rw [truncated?]
  split
  · rename_i hfits
    rw [← (longestFit_self hfits).unique (longestFit_cut budget s)]
  · obtain ⟨p, hp, hsize⟩ := isValid_iff.1 (isValid_lastBoundary s budget)
    rw [← hsize, firstBytes?_of_begins hp,
      (longestFit_of_lastBoundary hp hsize).unique (longestFit_cut budget s)]

/-! ### Texts that are kept -/

/-- `t` is what is kept of `s`: all of it if it takes at most `budget` bytes, and else the longest
beginning that does, with three dots behind it. -/
structure Abbreviates (budget : Nat) (s t : String) : Prop where
  whole : s.utf8ByteSize ≤ budget → t = s
  cut : budget < s.utf8ByteSize → ∃ p, LongestFit budget s p ∧ t = p ++ "..."
  size : budget < s.utf8ByteSize → budget ≤ t.utf8ByteSize ∧ t.utf8ByteSize ≤ budget + 3

theorem abbreviates_abbreviated (budget : Nat) (s : String) :
    Abbreviates budget s (abbreviated budget s) := by
  have hcut := longestFit_cut budget s
  have hdots : ("...").utf8ByteSize = 3 := rfl
  rw [abbreviated, byteSize_toList]
  split
  · rename_i hle
    exact ⟨fun _ => rfl, fun hlt => absurd hle (Nat.not_le.2 hlt),
      fun hlt => absurd hle (Nat.not_le.2 hlt)⟩
  · rename_i hlong
    refine ⟨fun hle => absurd hle hlong, fun _ => ⟨_, hcut, rfl⟩, fun hlt => ?_⟩
    rw [String.utf8ByteSize_append, hdots]
    exact ⟨hcut.le_size_add_three hlt, Nat.add_le_add_right hcut.fits 3⟩

end Text

open Text

/-- Cutting a text never fails and leaves the longest beginning of whole characters within the
limit, the text itself if it fits. The message of an error is kept whole up to 512 bytes and is
otherwise cut and marked by three dots, which takes 512 to 515 bytes; an announced statement is
treated alike under the limit of its hook, and is left alone without one. -/
theorem texts_cut_at_boundary :
    (∀ (budget : Nat) (s : String), ∃ p, truncated? budget s = some p ∧
      p = String.ofList (cut budget s.toList) ∧ LongestFit budget s p ∧
      (s.utf8ByteSize ≤ budget → p = s)) ∧
    (∀ s : String, ∃ t, Outcome.failed s = .error t ∧ Abbreviates 512 s t) ∧
    ∀ (h : Hook) (sql : String), (h.budget = none → h.announced sql = sql) ∧
      ∀ budget, h.budget = some budget → Abbreviates budget sql (h.announced sql) := by
  refine ⟨fun budget s => ?_, fun s => ⟨_, rfl, abbreviates_abbreviated 512 s⟩,
    fun h sql => ⟨fun hnone => ?_, fun budget hsome => ?_⟩⟩
  · have hcut := longestFit_cut budget s
    exact ⟨_, truncated?_eq budget s, rfl, hcut, fun hle => hcut.unique (longestFit_self hle)⟩
  · rw [Hook.announced, hnone]
  · rw [Hook.announced, hsome]
    exact abbreviates_abbreviated budget sql

/-- A limit inside the last of three characters leaves the first two, one inside the first leaves
nothing, and of a message one byte too long the beginning that fits is kept. -/
theorem texts_cut_at_boundary_split :
    let hook (budget : Nat) : Hook := ⟨.debug, some budget⟩
    let message := String.ofList (List.replicate 171 '€')
    truncated? 4 "añ€" = some "añ" ∧ Abbreviates 4 "añ€" ((hook 4).announced "añ€") ∧
    truncated? 2 "€" = some "" ∧ (hook 2).announced "€" = "..." ∧
    message.utf8ByteSize = 513 ∧
    ∃ p, LongestFit 512 message p ∧ Outcome.failed message = .error (p ++ "...") := by
  intro hook message
  obtain ⟨hcut, hfailed, hannounced⟩ := texts_cut_at_boundary
  obtain ⟨_, hp, rfl, -, -⟩ := hcut 4 "añ€"
  obtain ⟨_, hq, rfl, -, -⟩ := hcut 2 "€"
  have hsize : message.utf8ByteSize = 513 := by
    rw [← byteSize_eq]
    decide +kernel
  obtain ⟨t, ht, habbreviated⟩ := hfailed message
  obtain ⟨p, hfit, rfl⟩ := habbreviated.cut (by omega)
  exact ⟨hp, (hannounced (hook 4) _).2 4 rfl, hq, by decide, hsize, p, hfit, ht⟩

end OneTable
