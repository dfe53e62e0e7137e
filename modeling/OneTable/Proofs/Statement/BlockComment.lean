import OneTable.Proofs.Statement.FirstWord

/-!
# A block comment before a statement

The end of a block comment is looked for from the star of its opener on. A comment whose text does
not begin with `/` is passed over whole, whatever stands in it. If the text begins with `/`, the
comment ends there and the rest of its text is scanned as a statement, which leaves the kind as it
is exactly if a block comment that reaches the terminator opens before anything else does
(`kind_behind_comment_iff`).
-/

namespace OneTable.StatementKind

/-- The text of a comment that does not begin with `/`, or behind its `/` has, after pieces that are
passed over, the opener of a block comment; its star may be that of the terminator. -/
def Covered (b : List Char) : Prop :=
  ¬ ['/'] <+: b ∨
    ∃ p d, Passed p ∧ (d = ['/'] ∨ ['/', '*'] <+: d) ∧ b = '/' :: (p ++ d)

/-! ### Comments that end where they should -/

theorem body_comment {b : List Char} (hb : ¬ ['*', '/'] <:+: b) (hslash : ¬ ['/'] <+: b)
    (s : List Char) : body ('/' :: '*' :: (b ++ '*' :: '/' :: s)) = body s := by
  have hstar : ¬ ['*', '/'] <:+: '*' :: b := by
    rw [List.infix_cons_iff]
    rintro (⟨t, ht⟩ | h)
    · exact hslash ⟨t, (List.cons.inj ht).2⟩
    · exact hb h
  rw [body_block, ← List.cons_append, afterBlock_append hstar]

/-- The opener with a slash behind it is a whole comment. -/
theorem body_slash (cs : List Char) : body ('/' :: '*' :: '/' :: cs) = body cs := by
  rw [body_block]
  rfl

theorem body_of_covered {b : List Char} (hb : ¬ ['*', '/'] <:+: b) (h : Covered b)
    (s : List Char) : body ('/' :: '*' :: (b ++ '*' :: '/' :: s)) = body s := by
  rcases h with hslash | ⟨p, d, hp, hd, rfl⟩
  · exact body_comment hb hslash s
  rw [List.cons_append, body_slash, List.append_assoc, hp.body_append]
  rcases hd with rfl | ⟨e, rfl⟩
  · exact body_slash s
  · -- the rest of the text holds no terminator, not even one with the star of the opener
    have hrest : ¬ ['*', '/'] <:+: '*' :: e := fun h =>
      hb (h.trans ((List.suffix_append ('/' :: p ++ ['/']) ('*' :: e)).isInfix.trans
        (by simp)))
    rw [List.infix_cons_iff, not_or] at hrest
    refine body_comment hrest.2 ?_ s
    rintro ⟨t, rfl⟩
    exact hrest.1 ⟨t, rfl⟩

/-! ### Comments that end too early -/

/-- At the beginning stands nothing that is passed over to its end. -/
def Halts (d : List Char) : Prop :=
  Bare d ∨ ['/', '*'] <+: d ∨ ((['-', '-'] <+: d ∨ ['#'] <+: d) ∧ '\n' ∉ d)

theorem exists_line (opener : List Char) {t : List Char} (h : '\n' ∈ t) :
    ∃ text rest, '\n' ∉ text ∧ opener ++ t = opener ++ text ++ ['\n'] ++ rest := by
  obtain ⟨text, rest, rfl, htext⟩ := List.eq_append_cons_of_mem h
  exact ⟨text, rest, htext, by simp⟩

theorem exists_passed (cs : List Char) : ∃ p d, Passed p ∧ Halts d ∧ cs = p ++ d := by
  induction hn : cs.length using Nat.strongRecOn generalizing cs with
  | ind n ih =>
    have hpiece : ∀ piece rest, Piece piece → piece ≠ [] → cs = piece ++ rest →
        ∃ p d, Passed p ∧ Halts d ∧ cs = p ++ d := by
      rintro piece rest hpiece hne rfl
      rw [List.length_append] at hn
      have hlt := List.length_pos_iff.2 hne
      obtain ⟨p, d, hp, hd, rfl⟩ := ih rest.length (by omega) rest rfl
      exact ⟨piece ++ p, d, .cons hpiece hp, hd, (List.append_assoc ..).symm⟩
    have hhalts : Halts cs → ∃ p d, Passed p ∧ Halts d ∧ cs = p ++ d := fun h =>
      ⟨[], cs, .nil, h, rfl⟩
    by_cases hblock : ['/', '*'] <+: cs
    · exact hhalts (.inr (.inl hblock))
    by_cases hparen : ['('] <+: cs
    · obtain ⟨t, rfl⟩ := hparen
      exact hpiece _ t .paren (by simp) rfl
    by_cases hdashes : ['-', '-'] <+: cs
    · by_cases hend : '\n' ∈ cs
      · obtain ⟨t, rfl⟩ := hdashes
        obtain ⟨text, rest, htext, hsplit⟩ := exists_line ['-', '-'] (by simpa using hend)
        exact hpiece _ rest (.dashes htext) (by simp) hsplit
      · exact hhalts (.inr (.inr ⟨.inl hdashes, hend⟩))
    by_cases hhash : ['#'] <+: cs
    · by_cases hend : '\n' ∈ cs
      · obtain ⟨t, rfl⟩ := hhash
        obtain ⟨text, rest, htext, hsplit⟩ := exists_line ['#'] (by simpa using hend)
        exact hpiece _ rest (.hash htext) (by simp) hsplit
      · exact hhalts (.inr (.inr ⟨.inr hhash, hend⟩))
    by_cases hblank : ∃ c, cs.head? = some c ∧ Text.isBlank c = true
    · obtain ⟨c, hc, hblank⟩ := hblank
      obtain ⟨t, rfl⟩ := List.head?_eq_some_iff.1 hc
      exact hpiece _ t (.blank hblank) (by simp) rfl
    refine hhalts (.inl ⟨fun c hc => ?_, hparen, hdashes, hhash, hblock⟩)
    exact Bool.eq_false_iff.2 fun h => hblank ⟨c, hc, h⟩

/-- A terminator behind a bare text leaves it bare, unless both make an opener. -/
theorem Bare.append_terminator {d : List Char} (h : Bare d) (hslash : d ≠ ['/'])
    (s : List Char) : Bare (d ++ '*' :: '/' :: s) := by
  cases d with
  | nil => exact ⟨by rintro c ⟨⟩; decide, by simp, by simp, by simp, by simp⟩
  | cons c cs =>
    have hfirst : ∀ x : Char, ¬ [x] <+: c :: cs → c ≠ x := fun x hx heq => hx ⟨cs, heq ▸ rfl⟩
    have hpair : ∀ x y : Char, ¬ [x, y] <+: c :: cs → (c ≠ x ∨ cs ≠ []) ∨ y ≠ '*' →
        ¬ [x, y] <+: c :: (cs ++ '*' :: '/' :: s) := by
      rintro x y hx hy ⟨t, ht⟩
      obtain ⟨rfl, htail⟩ := List.cons.inj ht
      cases cs with
      | nil =>
        obtain ⟨rfl, -⟩ := List.cons.inj htail
        simp at hy
      | cons d ds =>
        obtain ⟨rfl, -⟩ := List.cons.inj htail
        exact hx ⟨ds, rfl⟩
    have hone : ∀ x : Char, ¬ [x] <+: c :: cs → ¬ [x] <+: c :: (cs ++ '*' :: '/' :: s) := by
      rintro x hx ⟨t, ht⟩
      exact hfirst x hx (List.cons.inj ht).1.symm
    refine ⟨fun x hx => h.blank x hx, hone _ h.paren, hpair _ _ h.dashes (.inr (by decide)),
      hone _ h.hash, hpair _ _ h.block (.inl ?_)⟩
    by_cases hc : c = '/'
    · exact .inr fun hcs => hslash (by rw [hc, hcs])
    · exact .inl hc

/-- What halts the scan before the terminator keeps every statement of one line out of sight. -/
theorem takeWhile_body_of_halts {d : List Char} (h : Halts d) (hslash : d ≠ ['/'])
    (hblock : ¬ ['/', '*'] <+: d) {s : List Char} (hs : '\n' ∉ s) :
    (body (d ++ '*' :: '/' :: s)).takeWhile Text.isWordChar =
      (body d).takeWhile Text.isWordChar := by
  rcases h with hbare | hopens | ⟨hline, hend⟩
  · rw [(hbare.append_terminator hslash s).body_eq, hbare.body_eq]
    refine Text.takeWhile_append_of_head ?_ d
    rintro c ⟨⟩
    decide
  · exact absurd hopens hblock
  · have hopens : ['-', '-'] <+: d ++ '*' :: '/' :: s ∨ ['#'] <+: d ++ '*' :: '/' :: s :=
      hline.imp (·.trans (List.prefix_append ..)) (·.trans (List.prefix_append ..))
    have hnone : '\n' ∉ d ++ '*' :: '/' :: s := by simp [hend, hs]
    rw [← (afterLine_of_opens hopens).2, ← (afterLine_of_opens hline).2,
      afterLine_eq_nil hnone, afterLine_eq_nil hend]

theorem toList_comment (b s : String) :
    ("/*" ++ b ++ "*/" ++ s).toList = '/' :: '*' :: (b.toList ++ '*' :: '/' :: s.toList) := by
  simp

/-- A block comment before a statement never changes its kind exactly if its text is covered. If
the text begins with `/`, what follows that is scanned as the statement. -/
theorem kind_behind_comment_iff (b : String) (hb : ¬ ['*', '/'] <:+: b.toList) :
    ((∀ s, ofSql ("/*" ++ b ++ "*/" ++ s) = ofSql s) ↔ Covered b.toList) ∧
      ∀ c, b = "/" ++ c → ∀ s, ofSql ("/*" ++ b ++ "*/" ++ s) = ofSql (c ++ "*/" ++ s) := by
  have hbehind : ∀ c, b = "/" ++ c → ∀ s,
      ofSql ("/*" ++ b ++ "*/" ++ s) = ofSql (c ++ "*/" ++ s) := by
    rintro c rfl s
    have hlist : ("/" ++ c).toList = '/' :: c.toList := by simp
    have hrest : (c ++ "*/" ++ s).toList = c.toList ++ '*' :: '/' :: s.toList := by simp
    rw [ofSql, toList_comment, hlist, List.cons_append, body_slash, ofSql, hrest]
  refine ⟨⟨fun h => ?_, fun h s => ?_⟩, hbehind⟩
  · by_contra hcovered
    rw [Covered, not_or, not_not] at hcovered
    obtain ⟨⟨c, hc⟩, hopen⟩ := hcovered
    obtain ⟨p, d, hp, hd, rfl⟩ := exists_passed c
    have hslash : d ≠ ['/'] := fun heq => hopen ⟨p, d, hp, .inl heq, hc.symm⟩
    have hblock : ¬ ['/', '*'] <+: d := fun hpre => hopen ⟨p, d, hp, .inr hpre, hc.symm⟩
    -- two statements of different kinds look the same behind such a comment
    have hsame : ∀ s : String, '\n' ∉ s.toList →
        ofSql ("/*" ++ b ++ "*/" ++ s) =
          ofWord (String.ofList ((body d).takeWhile Text.isWordChar)) := by
      intro s hs
      rw [ofSql, toList_comment, ← hc]
      show ofWord (String.ofList ((body ('/' :: '*' :: '/' :: (p ++ d ++ _))).takeWhile _)) = _
      rw [body_slash, List.append_assoc, hp.body_append,
        takeWhile_body_of_halts hd hslash hblock hs]
    have hselect := (h "SELECT").symm.trans (hsame "SELECT" (by decide))
    have hdelete := (h "DELETE").symm.trans (hsame "DELETE" (by decide))
    have hkinds : ofSql "SELECT" ≠ ofSql "DELETE" := by decide +kernel
    exact hkinds (hselect.trans hdelete.symm)
  · rw [ofSql, toList_comment, body_of_covered hb h, ofSql]

/-- Stars, a quote and openers of all comments in the text of a comment. -/
theorem kind_behind_comment_stars :
    ¬ ['*', '/'] <:+: "*'# -- /* SELECT **".toList ∧
      ofSql ("/*" ++ "*'# -- /* SELECT **" ++ "*/" ++ "DELETE") = ofSql "DELETE" := by
  have hb : ¬ ['*', '/'] <:+: "*'# -- /* SELECT **".toList := by decide +kernel
  exact ⟨hb, (kind_behind_comment_iff _ hb).1.2 (.inl (by decide +kernel)) "DELETE"⟩

/-- The text of a comment is taken for the statement behind it. -/
theorem kind_lost_behind_comment :
    ¬ ∀ b s : String, ¬ ['*', '/'] <:+: b.toList →
      ofSql ("/*" ++ b ++ "*/" ++ s) = ofSql s := by
  intro h
  have hkinds : ofSql ("/*" ++ "/SELECT" ++ "*/" ++ "DELETE FROM t") ≠ ofSql "DELETE FROM t" := by
    decide +kernel
  exact hkinds (h "/SELECT" "DELETE FROM t" (by decide +kernel))

end OneTable.StatementKind
