/-!
# Blank characters and trimming

A character is blank when Unicode gives it the property White_Space. Trimming takes blanks off
either end of a text and nothing else: what is left neither starts nor ends with a blank.
-/

namespace OneTable.Text

/-- The 25 characters with the property White_Space. -/
def isBlank (c : Char) : Bool :=
  let n := c.toNat
  (9 ≤ n && n ≤ 13) || n == 0x20 || n == 0x85 || n == 0xa0 || n == 0x1680 ||
    (0x2000 ≤ n && n ≤ 0x200a) || n == 0x2028 || n == 0x2029 || n == 0x202f || n == 0x205f ||
    n == 0x3000

def trimStart (cs : List Char) : List Char := cs.dropWhile isBlank

def trimEnd (cs : List Char) : List Char := (cs.reverse.dropWhile isBlank).reverse

def trim (cs : List Char) : List Char := trimEnd (trimStart cs)

/-- The text without the blanks at its ends. -/
def trimmed (s : String) : String := String.ofList (trim s.toList)

theorem toList_trimmed (s : String) : (trimmed s).toList = trim s.toList := by
  simp [trimmed]

theorem isBlank_of_isDigit {c : Char} (h : c.isDigit = true) : isBlank c = false := by
  simp only [Char.isDigit, Bool.and_eq_true, decide_eq_true_eq] at h
  obtain ⟨h₁, h₂⟩ := h
  have h₁' : 48 ≤ c.toNat := h₁
  have h₂' : c.toNat ≤ 57 := h₂
  simp only [isBlank, Bool.or_eq_false_iff, Bool.and_eq_false_iff, decide_eq_false_iff_not,
    beq_eq_false_iff_ne]
  omega

theorem head?_trimStart {cs : List Char} {c : Char} (h : (trimStart cs).head? = some c) :
    isBlank c = false := by
  induction cs with
  | nil => simp [trimStart] at h
  | cons d ds ih =>
    by_cases hd : isBlank d = true
    · exact ih (by simpa [trimStart, List.dropWhile_cons, hd] using h)
    · simp only [trimStart, List.dropWhile_cons, hd] at h
      simp only [Bool.false_eq_true, if_false, List.head?_cons, Option.some.injEq] at h
      exact h ▸ by simpa using hd

theorem getLast?_trimEnd {cs : List Char} {c : Char} (h : (trimEnd cs).getLast? = some c) :
    isBlank c = false := by
  rw [trimEnd, List.getLast?_reverse] at h
  exact head?_trimStart h

theorem trimEnd_prefix (cs : List Char) : trimEnd cs <+: cs := by
  have h := List.reverse_prefix.2 (List.dropWhile_suffix (l := cs.reverse) isBlank)
  rwa [List.reverse_reverse] at h

theorem head?_trim {cs : List Char} {c : Char} (h : (trim cs).head? = some c) :
    isBlank c = false := by
  obtain ⟨rest, hrest⟩ := trimEnd_prefix (trimStart cs)
  have hstart : (trimStart cs).head? = some c := by
    rw [← hrest, List.head?_append, ← trim, h, Option.some_or]
  exact head?_trimStart hstart

theorem trimStart_eq_nil_iff {cs : List Char} : trimStart cs = [] ↔ ∀ c ∈ cs, isBlank c = true := by
  induction cs with
  | nil => simp [trimStart]
  | cons c cs ih =>
    simp only [trimStart, List.dropWhile_cons] at ih ⊢
    by_cases h : isBlank c = true <;> simp_all

theorem trim_eq_nil_iff {cs : List Char} : trim cs = [] ↔ ∀ c ∈ cs, isBlank c = true := by
  have hend : trim cs = (trimStart (trimStart cs).reverse).reverse := rfl
  have hstart : trimStart cs = [] ↔ ∀ c ∈ cs, isBlank c = true := trimStart_eq_nil_iff
  rw [hend, List.reverse_eq_nil_iff, trimStart_eq_nil_iff, ← hstart]
  constructor
  · intro h
    -- what is left at the front is not blank
    cases hcs : trimStart cs with
    | nil => rfl
    | cons d ds =>
      have hd : (trimStart cs).head? = some d := by rw [hcs, List.head?_cons]
      exact absurd (h d (by simp [hcs])) (by simp [head?_trimStart hd])
  · intro h
    simp [h]

theorem mem_of_mem_trim {c : Char} {cs : List Char} (h : c ∈ trim cs) : c ∈ cs := by
  have hstart : c ∈ trimStart cs :=
    List.mem_reverse.1 ((List.dropWhile_suffix _).subset (List.mem_reverse.1 h))
  exact (List.dropWhile_suffix _).subset hstart

/-- Trimming takes off what is blank around a text without blanks. -/
theorem trim_padded {before cs after : List Char} (hb : ∀ c ∈ before, isBlank c = true)
    (ha : ∀ c ∈ after, isBlank c = true) (hne : cs ≠ []) (hcs : ∀ c ∈ cs, isBlank c = false) :
    trim (before ++ cs ++ after) = cs := by
  obtain ⟨d, ds, rfl⟩ := List.exists_cons_of_ne_nil hne
  have hstart : trimStart (before ++ (d :: ds) ++ after) = d :: ds ++ after := by
    rw [trimStart, List.append_assoc, List.dropWhile_append_of_pos hb, List.cons_append,
      List.dropWhile_cons_of_neg (by simp [hcs d])]
  have hend : (d :: ds).reverse.dropWhile isBlank = (d :: ds).reverse := by
    obtain ⟨e, es, he⟩ := List.exists_cons_of_ne_nil (List.reverse_ne_nil_iff.2 hne)
    have hmem : e ∈ d :: ds := List.mem_reverse.1 (he ▸ List.mem_cons_self)
    rw [he, List.dropWhile_cons_of_neg (by simp [hcs e hmem])]
  rw [trim, hstart, trimEnd, List.reverse_append,
    List.dropWhile_append_of_pos (fun c hc => ha c (List.mem_reverse.1 hc)), hend,
    List.reverse_reverse]

/-- A text whose ends are not blank is its own trimmed form. -/
theorem trim_eq_self {cs : List Char} (hs : ∀ c, cs.head? = some c → isBlank c = false)
    (he : ∀ c, cs.getLast? = some c → isBlank c = false) : trim cs = cs := by
  have drop_self : ∀ {l : List Char}, (∀ c, l.head? = some c → isBlank c = false) →
      l.dropWhile isBlank = l := by
    intro l h
    cases l with
    | nil => rfl
    | cons d ds => simp [h d rfl]
  rw [trim, trimStart, drop_self hs, trimEnd, drop_self (by simpa using he), List.reverse_reverse]

/-- A last character that is not blank stays the last one. -/
theorem getLast?_trimStart {cs : List Char} {c : Char} (h : cs.getLast? = some c)
    (hc : isBlank c = false) : (trimStart cs).getLast? = some c := by
  induction cs with
  | nil => cases h
  | cons d ds ih =>
    by_cases hd : isBlank d = true
    · rcases ds with _ | ⟨e, es⟩
      · obtain rfl : d = c := Option.some_inj.1 h
        exact absurd hd (by simp [hc])
      · rw [List.getLast?_cons_cons] at h
        simpa [trimStart, hd] using ih h
    · simpa [trimStart, hd] using h

theorem trim_of_getLast? {cs : List Char} {c : Char} (h : cs.getLast? = some c)
    (hc : isBlank c = false) : trim cs = trimStart cs := by
  have hlast := getLast?_trimStart h hc
  rw [List.getLast?_eq_head?_reverse] at hlast
  obtain ⟨ds, hds⟩ := List.head?_eq_some_iff.1 hlast
  rw [trim, trimEnd, hds, List.dropWhile_cons_of_neg (by simp [hc]), ← hds, List.reverse_reverse]

/-- Trimming looks at the front only where the end is not blank. -/
theorem trim_append {cs ds : List Char} {c d : Char} (hcs : cs.getLast? = some c)
    (hc : isBlank c = false) (hds : ds.getLast? = some d) (hd : isBlank d = false) :
    trim (cs ++ ds) = trim cs ++ ds := by
  have hlast : (cs ++ ds).getLast? = some d := by rw [List.getLast?_append, hds, Option.some_or]
  have hne : trimStart cs ≠ [] := by
    intro hnil
    have hstart := getLast?_trimStart hcs hc
    rw [hnil] at hstart
    cases hstart
  rw [trim_of_getLast? hlast hd, trim_of_getLast? hcs hc, trimStart, List.dropWhile_append,
    if_neg (by simpa [trimStart] using hne)]
  rfl

end OneTable.Text
