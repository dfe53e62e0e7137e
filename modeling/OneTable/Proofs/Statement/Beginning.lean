import Mathlib.Data.List.Infix
import Mathlib.Data.List.TakeWhile
import OneTable.Statement.Kind

/-!
# What stands before the first word

Blanks, opening parentheses and whole line comments in front of a text change nothing of its body
(`Passed.body_append`), whatever follows. The scan goes in rounds: blanks are dropped, then at most
one comment or parenthesis, until a round drops nothing. Every round but the last leaves a shorter
text with the same body, so the rounds end with the body (`scan_body`).
-/

namespace OneTable.StatementKind

/-- A blank, an opening parenthesis or a line comment with its line end. -/
inductive Piece : List Char → Prop
  | blank {c : Char} (h : Text.isBlank c = true) : Piece [c]
  | paren : Piece ['(']
  | dashes {text : List Char} (h : '\n' ∉ text) : Piece ('-' :: '-' :: text ++ ['\n'])
  | hash {text : List Char} (h : '\n' ∉ text) : Piece ('#' :: text ++ ['\n'])

inductive Passed : List Char → Prop
  | nil : Passed []
  | cons {piece p : List Char} (h : Piece piece) (hp : Passed p) : Passed (piece ++ p)

/-- The text begins with nothing that is passed over. -/
structure Bare (cs : List Char) : Prop where
  blank : ∀ c, cs.head? = some c → Text.isBlank c = false
  paren : ¬ ['('] <+: cs
  dashes : ¬ ['-', '-'] <+: cs
  hash : ¬ ['#'] <+: cs
  block : ¬ ['/', '*'] <+: cs

/-! ### Ends of comments -/

theorem afterLine_append {text : List Char} (h : '\n' ∉ text) (rest : List Char) :
    afterLine (text ++ '\n' :: rest) = rest := by
  have htext : ∀ c ∈ text, decide (c ≠ '\n') = true := by
    intro c hc
    exact decide_eq_true fun heq => h (heq ▸ hc)
  rw [afterLine, List.dropWhile_append_of_pos htext, List.dropWhile_cons_of_neg (by simp)]
  rfl

theorem afterLine_eq_nil {text : List Char} (h : '\n' ∉ text) : afterLine text = [] := by
  have hall : text.dropWhile (· ≠ '\n') = [] := by
    rw [List.dropWhile_eq_nil_iff]
    intro c hc
    exact decide_eq_true fun heq => h (heq ▸ hc)
  rw [afterLine, hall, List.drop_nil]

theorem afterLine_cons {c : Char} (hc : c ≠ '\n') (cs : List Char) :
    afterLine (c :: cs) = afterLine cs := by
  rw [afterLine, List.dropWhile_cons_of_pos (by simpa using hc), afterLine]

theorem afterBlock_cons {c : Char} {cs : List Char} (h : ¬ ['*', '/'] <+: c :: cs) :
    afterBlock (c :: cs) = afterBlock cs := by
  rw [afterBlock]
  rintro rest rfl rfl
  exact h ⟨rest, rfl⟩

/-- A block comment ends at the first `*/`, which the text before it does not reach into. -/
theorem afterBlock_append {text : List Char} (h : ¬ ['*', '/'] <:+: text) (rest : List Char) :
    afterBlock (text ++ '*' :: '/' :: rest) = rest := by
  induction text with
  | nil => rfl
  | cons c cs ih =>
    rw [List.infix_cons_iff, not_or] at h
    rw [List.cons_append, afterBlock_cons, ih h.2]
    rintro ⟨t, ht⟩
    obtain ⟨rfl, htail⟩ := List.cons.inj ht
    cases cs with
    | nil => cases htail
    | cons d ds =>
      obtain ⟨rfl, -⟩ := List.cons.inj htail
      exact h.1 ⟨ds, rfl⟩

theorem afterBlock_eq_nil {text : List Char} (h : ¬ ['*', '/'] <:+: text) :
    afterBlock text = [] := by
  induction text with
  | nil => rfl
  | cons c cs ih =>
    rw [List.infix_cons_iff, not_or] at h
    rw [afterBlock_cons h.1, ih h.2]

/-! ### The body by what the text begins with -/

theorem body_nil : body [] = [] := by rw [body.eq_def]

theorem body_cons (c : Char) (cs : List Char) :
    body (c :: cs) =
      if Text.isBlank c || c == '(' then body cs
      else if c == '#' || (c == '-' && cs.head? == some '-') then body (afterLine cs)
      else if c == '/' && cs.head? == some '*' then body (afterBlock cs)
      else c :: cs := by
  rw [body.eq_def]

theorem body_blank {c : Char} (h : Text.isBlank c = true) (cs : List Char) :
    body (c :: cs) = body cs := by
  rw [body_cons, if_pos (by simp [h])]

theorem body_paren (cs : List Char) : body ('(' :: cs) = body cs := by
  rw [body_cons, if_pos (by decide)]

theorem body_dashes (cs : List Char) : body ('-' :: '-' :: cs) = body (afterLine cs) := by
  rw [body_cons, if_neg (by decide), if_pos (by simp), afterLine_cons (by decide)]

theorem body_hash (cs : List Char) : body ('#' :: cs) = body (afterLine cs) := by
  rw [body_cons, if_neg (by decide), if_pos (by simp)]

theorem body_block (cs : List Char) : body ('/' :: '*' :: cs) = body (afterBlock ('*' :: cs)) := by
  rw [body_cons, if_neg (by decide), if_neg (by simp), if_pos (by simp)]

theorem Bare.body_eq {cs : List Char} (h : Bare cs) : body cs = cs := by
  cases cs with
  | nil => exact body_nil
  | cons c cs =>
    have hblank : Text.isBlank c = false := h.blank c rfl
    have hparen : c ≠ '(' := fun heq => h.paren ⟨cs, heq ▸ rfl⟩
    have hhash : c ≠ '#' := fun heq => h.hash ⟨cs, heq ▸ rfl⟩
    have hdashes : ¬ (c = '-' ∧ cs.head? = some '-') := by
      rintro ⟨rfl, hd⟩
      obtain ⟨ds, rfl⟩ := List.head?_eq_some_iff.1 hd
      exact h.dashes ⟨ds, rfl⟩
    have hblock : ¬ (c = '/' ∧ cs.head? = some '*') := by
      rintro ⟨rfl, hd⟩
      obtain ⟨ds, rfl⟩ := List.head?_eq_some_iff.1 hd
      exact h.block ⟨ds, rfl⟩
    rw [body_cons, if_neg (by simp [hblank, hparen]), if_neg (by simpa [hhash] using hdashes),
      if_neg (by simpa using hblock)]

theorem body_trimStart (cs : List Char) : body (Text.trimStart cs) = body cs := by
  induction cs with
  | nil => rfl
  | cons c cs ih =>
    by_cases h : Text.isBlank c = true
    · rw [body_blank h, ← ih, Text.trimStart, List.dropWhile_cons_of_pos h, Text.trimStart]
    · rw [Text.trimStart, List.dropWhile_cons_of_neg h]

theorem Piece.body_append {piece : List Char} (h : Piece piece) (s : List Char) :
    body (piece ++ s) = body s := by
  cases h with
  | blank h => exact body_blank h s
  | paren => exact body_paren s
  | dashes h =>
    rw [List.append_assoc, List.cons_append, List.cons_append, body_dashes]
    exact congrArg body (afterLine_append h s)
  | hash h =>
    rw [List.append_assoc, List.cons_append, body_hash]
    exact congrArg body (afterLine_append h s)

theorem Passed.body_append {p : List Char} (h : Passed p) (s : List Char) :
    body (p ++ s) = body s := by
  induction h with
  | nil => rfl
  | cons h _ ih => rw [List.append_assoc, h.body_append, ih]

/-! ### Rounds of the scan -/

/-- A round of the scan leaves a text to go on with, or ends with one. -/
inductive Round
  | again (rest : List Char)
  | done (rest : List Char)

/-- Drops blanks and then at most one comment or parenthesis. A comment that does not end swallows
the rest. -/
def round (cs : List Char) : Round :=
  let s := Text.trimStart cs
  if ['-', '-'] <+: s ∨ ['#'] <+: s then
    if '\n' ∈ s then .again (afterLine s) else .done []
  else if ['/', '*'] <+: s then
    if ['*', '/'] <:+: s then .again (afterBlock s) else .done []
  else if ['('] <+: s then .again (s.drop 1)
  else if s = cs then .done s
  else .again s

/-- The rounds from a text on, counted, end with another. -/
inductive Scan : List Char → Nat → List Char → Prop
  | done {cs rest : List Char} (h : round cs = .done rest) : Scan cs 1 rest
  | again {cs next rest : List Char} {rounds : Nat} (h : round cs = .again next)
    (hs : Scan next rounds rest) : Scan cs (rounds + 1) rest

theorem afterLine_of_opens {s : List Char} (h : ['-', '-'] <+: s ∨ ['#'] <+: s) :
    (afterLine s).length < s.length ∧ body (afterLine s) = body s := by
  obtain ⟨t, rfl⟩ | ⟨t, rfl⟩ := h
  · have hline : afterLine (['-', '-'] ++ t) = afterLine t := by
      rw [List.cons_append, afterLine_cons (by decide), List.cons_append, List.nil_append,
        afterLine_cons (by decide)]
    have hle := length_afterLine_le t
    rw [hline]
    exact ⟨by simp only [List.length_append, List.length_cons]; omega, (body_dashes t).symm⟩
  · have hline : afterLine (['#'] ++ t) = afterLine t := afterLine_cons (by decide) t
    have hle := length_afterLine_le t
    rw [hline]
    exact ⟨by simp only [List.length_append, List.length_cons]; omega, (body_hash t).symm⟩

theorem afterBlock_of_opens {s : List Char} (h : ['/', '*'] <+: s) :
    (afterBlock s).length < s.length ∧ body (afterBlock s) = body s := by
  obtain ⟨t, rfl⟩ := h
  have hblock : afterBlock (['/', '*'] ++ t) = afterBlock ('*' :: t) :=
    afterBlock_cons (by simp)
  have hle := length_afterBlock_le ('*' :: t)
  rw [hblock]
  exact ⟨by simp only [List.length_append, List.length_cons] at hle ⊢; omega,
    (body_block t).symm⟩

theorem bare_trimStart {cs : List Char}
    (hline : ¬ (['-', '-'] <+: Text.trimStart cs ∨ ['#'] <+: Text.trimStart cs))
    (hblock : ¬ ['/', '*'] <+: Text.trimStart cs) (hparen : ¬ ['('] <+: Text.trimStart cs) :
    Bare (Text.trimStart cs) :=
  ⟨fun _ h => Text.head?_trimStart h, hparen, fun h => hline (.inl h), fun h => hline (.inr h),
    hblock⟩

/-- A round leaves a shorter text with the same body, or it is the last and ends with the body. -/
theorem round_cases (cs : List Char) :
    (∃ next, round cs = .again next ∧ next.length < cs.length ∧ body next = body cs) ∨
      round cs = .done (body cs) := by
  have hle : (Text.trimStart cs).length ≤ cs.length := (List.dropWhile_suffix _).length_le
  rw [← body_trimStart cs]
  unfold round
  dsimp only
  by_cases hline : ['-', '-'] <+: Text.trimStart cs ∨ ['#'] <+: Text.trimStart cs
  · obtain ⟨hlt, hbody⟩ := afterLine_of_opens hline
    rw [if_pos hline]
    by_cases hend : '\n' ∈ Text.trimStart cs
    · exact .inl ⟨_, if_pos hend, Nat.lt_of_lt_of_le hlt hle, hbody⟩
    · right
      rw [if_neg hend, ← hbody, afterLine_eq_nil hend, body_nil]
  rw [if_neg hline]
  by_cases hblock : ['/', '*'] <+: Text.trimStart cs
  · obtain ⟨hlt, hbody⟩ := afterBlock_of_opens hblock
    rw [if_pos hblock]
    by_cases hend : ['*', '/'] <:+: Text.trimStart cs
    · exact .inl ⟨_, if_pos hend, Nat.lt_of_lt_of_le hlt hle, hbody⟩
    · right
      rw [if_neg hend, ← hbody, afterBlock_eq_nil hend, body_nil]
  rw [if_neg hblock]
  by_cases hparen : ['('] <+: Text.trimStart cs
  · obtain ⟨t, ht⟩ := hparen
    rw [← ht] at hle ⊢
    exact .inl ⟨t, if_pos ⟨t, rfl⟩, hle, (body_paren t).symm⟩
  rw [if_neg hparen]
  by_cases heq : Text.trimStart cs = cs
  · right
    rw [if_pos heq, (bare_trimStart hline hblock hparen).body_eq]
  · -- only blanks were dropped, and at least one of them
    have hlt : (Text.trimStart cs).length < cs.length :=
      Nat.lt_of_le_of_ne hle fun h => heq ((List.dropWhile_suffix _).eq_of_length h)
    exact .inl ⟨_, if_neg heq, hlt, rfl⟩

/-- The scan ends with the body, after at most one round more than there are characters. -/
theorem scan_body (cs : List Char) : ∃ rounds ≤ cs.length + 1, Scan cs rounds (body cs) := by
  induction h : cs.length using Nat.strongRecOn generalizing cs with
  | ind n ih =>
    obtain ⟨next, hround, hlt, hbody⟩ | hround := round_cases cs
    · obtain ⟨rounds, hle, hscan⟩ := ih next.length (by omega) next rfl
      exact ⟨rounds + 1, by omega, .again hround (hbody ▸ hscan)⟩
    · exact ⟨1, by omega, .done hround⟩

end OneTable.StatementKind
