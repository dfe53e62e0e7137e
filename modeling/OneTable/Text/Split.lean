/-!
# Cutting a text at characters

`pieces` cuts at every character of a class and `splitLast?` at the last one. The cutting character
belongs to no part; with it put back, the parts make up the text again. `occurs` looks for a word.
A run of one class of characters is read off whole before what begins with another
(`takeWhile_run`, `dropWhile_run`).
-/

namespace OneTable.Text

/-- The parts between the characters that satisfy `p`, one more than there are such characters. -/
def pieces (p : Char → Bool) : List Char → List (List Char)
  | [] => [[]]
  | c :: cs =>
    if p c then [] :: pieces p cs
    else match pieces p cs with
      | [] => [[c]]
      | part :: parts => (c :: part) :: parts

/-- What stands before and after the last character that satisfies `p`. -/
def splitLast? (p : Char → Bool) : List Char → Option (List Char × List Char)
  | [] => none
  | c :: cs =>
    match splitLast? p cs with
    | some (before, after) => some (c :: before, after)
    | none => if p c then some ([], cs) else none

/-- The word stands somewhere in the text. -/
def occurs (word : List Char) : List Char → Bool
  | [] => word.isEmpty
  | c :: cs => word.isPrefixOf (c :: cs) || occurs word cs

theorem splitLast?_eq_none_iff {p : Char → Bool} {cs : List Char} :
    splitLast? p cs = none ↔ ∀ c ∈ cs, p c = false := by
  induction cs with
  | nil => simp [splitLast?]
  | cons c cs ih => by_cases h : p c <;> cases hs : splitLast? p cs <;> simp_all [splitLast?]

theorem eq_of_splitLast? {p : Char → Bool} {cs before after : List Char}
    (h : splitLast? p cs = some (before, after)) :
    ∃ c, p c = true ∧ cs = before ++ c :: after ∧ ∀ d ∈ after, p d = false := by
  induction cs generalizing before with
  | nil => simp [splitLast?] at h
  | cons d ds ih =>
    rw [splitLast?] at h
    split at h
    · rename_i b a hs
      obtain ⟨rfl, rfl⟩ := by simpa using h
      obtain ⟨c, hc, hds, ha⟩ := ih hs
      exact ⟨c, hc, by simp [hds], ha⟩
    · rename_i hs
      split at h
      · rename_i hd
        obtain ⟨rfl, rfl⟩ := by simpa using h
        exact ⟨d, hd, rfl, splitLast?_eq_none_iff.1 hs⟩
      · simp at h

/-- Without the cutting character there is one part. -/
theorem pieces_of_forall {p : Char → Bool} {cs : List Char} (h : ∀ c ∈ cs, p c = false) :
    pieces p cs = [cs] := by
  induction cs with
  | nil => rfl
  | cons c cs ih => rw [pieces, if_neg (by simp [h c]), ih fun d hd => h d (.tail _ hd)]

/-- A part holds characters of the text only. -/
theorem mem_of_mem_pieces {p : Char → Bool} {cs part : List Char} {c : Char}
    (h : part ∈ pieces p cs) (hc : c ∈ part) : c ∈ cs := by
  induction cs generalizing part with
  | nil =>
    rw [List.mem_singleton.1 h] at hc
    exact hc
  | cons d ds ih =>
    rw [pieces] at h
    split at h
    · rcases List.mem_cons.1 h with rfl | h
      · cases hc
      · exact .tail _ (ih h hc)
    · split at h
      · rw [List.mem_singleton.1 h] at hc
        rw [List.mem_singleton.1 hc]
        exact .head _
      · rename_i first rest hp
        rcases List.mem_cons.1 h with rfl | h
        · rcases List.mem_cons.1 hc with rfl | hc
          · exact .head _
          · exact .tail _ (ih (hp ▸ .head _) hc)
        · exact .tail _ (ih (hp ▸ .tail _ h) hc)

theorem pieces_ne_nil (p : Char → Bool) (cs : List Char) : pieces p cs ≠ [] := by
  cases cs with
  | nil => exact List.cons_ne_nil _ _
  | cons c cs =>
    rw [pieces]
    split
    · exact List.cons_ne_nil _ _
    · split <;> exact List.cons_ne_nil _ _

theorem length_pieces (p : Char → Bool) (cs : List Char) :
    (pieces p cs).length = cs.countP p + 1 := by
  induction cs with
  | nil => rfl
  | cons c cs ih =>
    rw [pieces, List.countP_cons]
    split
    · rw [List.length_cons, ih]
    · rw [Nat.add_zero, ← ih]
      split
      · rename_i h
        exact absurd h (pieces_ne_nil p cs)
      · rename_i h
        rw [h, List.length_cons, List.length_cons]

/-- Cutting at one character takes the text apart there. -/
theorem pieces_append {p : Char → Bool} {c : Char} (hc : p c = true) (cs ds : List Char) :
    pieces p (cs ++ c :: ds) = pieces p cs ++ pieces p ds := by
  induction cs with
  | nil =>
    show pieces p (c :: ds) = [] :: pieces p ds
    rw [pieces, if_pos hc]
  | cons b cs ih =>
    obtain ⟨part, parts, hparts⟩ := List.exists_cons_of_ne_nil (pieces_ne_nil p cs)
    rw [List.cons_append, pieces, pieces, ih, hparts]
    split <;> rfl

/-- No cutting character is left in a part. -/
theorem notMem_of_mem_pieces {p : Char → Bool} {cs part : List Char} {c : Char}
    (h : part ∈ pieces p cs) (hc : p c = true) : c ∉ part := by
  induction cs generalizing part with
  | nil =>
    rw [List.mem_singleton.1 h]
    exact List.not_mem_nil
  | cons d ds ih =>
    obtain ⟨first, rest, hparts⟩ := List.exists_cons_of_ne_nil (pieces_ne_nil p ds)
    rw [pieces, hparts] at h
    rw [hparts] at ih
    split at h
    · rcases List.mem_cons.1 h with rfl | h
      · exact List.not_mem_nil
      · exact ih h
    · rename_i hd
      rcases List.mem_cons.1 h with rfl | h
      · intro hmem
        rcases List.mem_cons.1 hmem with rfl | hmem
        · exact hd hc
        · exact ih List.mem_cons_self hmem
      · exact ih (List.mem_cons_of_mem _ h)

/-- Joining brings in no other characters than those of the separator. -/
theorem mem_intercalate_iff {sep : List Char} {c : Char} (hc : c ∉ sep) (parts : List (List Char)) :
    c ∈ sep.intercalate parts ↔ ∃ part ∈ parts, c ∈ part := by
  induction parts with
  | nil => simp
  | cons part parts ih =>
    cases parts with
    | nil => simp
    | cons next parts =>
      rw [List.intercalate_cons_cons, List.mem_append, List.mem_append, ih]
      simp [hc]

theorem nil_intercalate (parts : List (List Char)) :
    ([] : List Char).intercalate parts = parts.flatten := by
  induction parts with
  | nil => rfl
  | cons part parts ih =>
    cases parts with
    | nil => simp
    | cons next parts => rw [List.intercalate_cons_cons, ih, List.append_nil, ← List.flatten_cons]

theorem intercalate_append {sep : List Char} {l m : List (List Char)} (hl : l ≠ []) (hm : m ≠ []) :
    sep.intercalate (l ++ m) = sep.intercalate l ++ sep ++ sep.intercalate m := by
  induction l with
  | nil => exact absurd rfl hl
  | cons a l ih =>
    rw [List.cons_append, List.intercalate_cons_of_ne_nil (by simp [hm])]
    by_cases hl : l = []
    · simp [hl]
    · rw [ih hl, List.intercalate_cons_of_ne_nil hl]
      simp only [List.append_assoc]

/-- What is put behind the last part stands behind the joined text. -/
theorem intercalate_concat_append (sep : List Char) (l : List (List Char)) (cs ds : List Char) :
    sep.intercalate (l ++ [cs ++ ds]) = sep.intercalate (l ++ [cs]) ++ ds := by
  by_cases hnil : l = []
  · simp [hnil]
  · rw [intercalate_append hnil (by simp), intercalate_append hnil (by simp)]
    simp

theorem head?_intercalate {sep part : List Char} (h : part ≠ []) (l : List (List Char)) :
    (sep.intercalate (part :: l)).head? = part.head? := by
  obtain ⟨c, cs, rfl⟩ := List.exists_cons_of_ne_nil h
  cases l with
  | nil => rw [List.intercalate_singleton]
  | cons next l =>
    rw [List.intercalate_cons_cons]
    rfl

theorem getLast?_intercalate {sep part : List Char} (h : part ≠ []) (l : List (List Char)) :
    (sep.intercalate (l ++ [part])).getLast? = part.getLast? := by
  have hjoined := intercalate_concat_append sep l [] part
  rw [List.nil_append] at hjoined
  rw [hjoined, List.getLast?_append, List.getLast?_eq_some_getLast h, Option.some_or]

/-- Lists of parts that are joined one by one and then with each other are joined as one list. -/
theorem intercalate_flatMap {α : Type} {sep : List Char} {f : α → List (List Char)} {as : List α}
    (hf : ∀ a ∈ as, f a ≠ []) :
    sep.intercalate (as.map fun a => sep.intercalate (f a)) = sep.intercalate (as.flatMap f) := by
  induction as with
  | nil => rfl
  | cons a as ih =>
    obtain ⟨ha, has⟩ := List.forall_mem_cons.1 hf
    by_cases hnil : as = []
    · simp [hnil]
    · have hne : as.flatMap f ≠ [] := by
        obtain ⟨b, bs, rfl⟩ := List.exists_cons_of_ne_nil hnil
        simp [has b]
      have hmap : as.map (fun a => sep.intercalate (f a)) ≠ [] := by simpa using hnil
      rw [List.map_cons, List.intercalate_cons_of_ne_nil hmap, ih has, List.flatMap_cons,
        intercalate_append ha hne]

/-- A part of a separator may go to the front of every part. -/
theorem intercalate_append_sep {sep lead : List Char} {parts : List (List Char)} (h : parts ≠ []) :
    lead ++ (sep ++ lead).intercalate parts = sep.intercalate (parts.map (lead ++ ·)) := by
  induction parts with
  | nil => exact absurd rfl h
  | cons part parts ih =>
    by_cases hnil : parts = []
    · simp [hnil]
    · have hmap : parts.map (lead ++ ·) ≠ [] := by simpa using hnil
      rw [List.map_cons, List.intercalate_cons_of_ne_nil hnil,
        List.intercalate_cons_of_ne_nil hmap, ← ih hnil]
      simp only [List.append_assoc]

theorem splitLast?_append {p : Char → Bool} {before after : List Char} {c : Char}
    (hc : p c = true) (h : ∀ d ∈ after, p d = false) :
    splitLast? p (before ++ c :: after) = some (before, after) := by
  induction before with
  | nil => rw [List.nil_append, splitLast?, splitLast?_eq_none_iff.2 h]; simp [hc]
  | cons b before ih => rw [List.cons_append, splitLast?, ih]

/-! ### Runs of one class -/

section

variable {p : Char → Bool} {run rest : List Char}

/-- A run does not reach into what begins with another character. -/
theorem takeWhile_append_of_head (hrest : ∀ c, rest.head? = some c → p c = false)
    (cs : List Char) : (cs ++ rest).takeWhile p = cs.takeWhile p := by
  induction cs with
  | nil =>
    cases rest with
    | nil => rfl
    | cons c cs => exact List.takeWhile_cons_of_neg (by simp [hrest c rfl])
  | cons c cs ih => rw [List.cons_append, List.takeWhile_cons, List.takeWhile_cons, ih]

theorem takeWhile_run (hrun : ∀ c ∈ run, p c = true)
    (hrest : ∀ c, rest.head? = some c → p c = false) : (run ++ rest).takeWhile p = run := by
  rw [List.takeWhile_append_of_pos hrun]
  cases rest with
  | nil => exact List.append_nil run
  | cons c rest => rw [List.takeWhile_cons_of_neg (by simp [hrest c rfl]), List.append_nil]

theorem dropWhile_run (hrun : ∀ c ∈ run, p c = true)
    (hrest : ∀ c, rest.head? = some c → p c = false) : (run ++ rest).dropWhile p = rest := by
  rw [List.dropWhile_append_of_pos hrun]
  cases rest with
  | nil => rfl
  | cons c rest => exact List.dropWhile_cons_of_neg (by simp [hrest c rfl])

end

end OneTable.Text
