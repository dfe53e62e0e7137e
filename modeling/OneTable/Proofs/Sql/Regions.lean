import OneTable.Proofs.Sql.Reader
import OneTable.Text.Blank

/-!
# Where the characters of a statement stand

`Sql.regions` reads a statement by the lexical rules of the server and says of every character
whether it stands in a name, in a text, in a comment or in none of them. Two hyphens open a comment
if a blank or the end follows, and it goes on to the end of the line.

A statement is written from pieces, each meant for one region. It is read as it was written exactly
when no bare constant in it ends in two hyphens before a blank or the end (`regions_written_iff`):
names and quoted texts never let anything out, and such a constant takes in all that follows.
-/

namespace OneTable.Sql

inductive Region
  | code
  | name
  | text
  | comment
deriving DecidableEq, Repr

/-- Two hyphens before this open a comment. -/
def opensComment : List Char → Bool
  | [] => true
  | c :: _ => Text.isBlank c

/-- The regions of the characters of a text that begins in the given region. -/
def regions : Region → List Char → List Region
  | _, [] => []
  | .code, '-' :: '-' :: cs =>
    if opensComment cs then .comment :: .comment :: regions .comment cs
    else .code :: regions .code ('-' :: cs)
  | .code, '\x60' :: cs => .name :: regions .name cs
  | .code, '\x27' :: cs => .text :: regions .text cs
  | .code, _ :: cs => .code :: regions .code cs
  | .name, '\x60' :: '\x60' :: cs => .name :: .name :: regions .name cs
  | .name, '\x60' :: cs => .name :: regions .code cs
  | .name, _ :: cs => .name :: regions .name cs
  | .text, '\\' :: _ :: cs => .text :: .text :: regions .text cs
  | .text, '\x27' :: cs => .text :: regions .code cs
  | .text, _ :: cs => .text :: regions .text cs
  | .comment, '\n' :: cs => .comment :: regions .code cs
  | .comment, _ :: cs => .comment :: regions .comment cs

/-! ### One piece at a time -/

/-- A character that neither opens anything nor may be part of what opens a comment. -/
def isPlain (c : Char) : Bool := c != '-' && c != Ident.quote && c != Literal.quote

theorem regions_plain {w : List Char} (h : w.all isPlain = true) (rest : List Char) :
    regions .code (w ++ rest) = List.replicate w.length .code ++ regions .code rest := by
  induction w with
  | nil => rfl
  | cons c w ih =>
    rw [List.all_cons, Bool.and_eq_true] at h
    obtain ⟨hc, hw⟩ := h
    simp only [isPlain, Bool.and_eq_true, bne_iff_ne, ne_eq] at hc
    obtain ⟨⟨h₁, h₂⟩, h₃⟩ := hc
    rw [List.cons_append, regions, ih hw]
    · rfl
    · exact fun _ h _ => h₁ h
    · exact h₂
    · exact h₃

theorem regions_nameRest (name : List Char) {rest : List Char} (h : EndsName rest) :
    regions .name (name.flatMap Ident.encodeChar ++ Ident.quote :: rest) =
      List.replicate (name.flatMap Ident.encodeChar ++ [Ident.quote]).length .name ++
        regions .code rest := by
  induction name with
  | nil =>
    cases rest with
    | nil => rfl
    | cons r rest =>
      have hr : r ≠ '\x60' := by simpa [EndsName] using h
      simp [regions, hr]
  | cons c name ih =>
    by_cases hc : c = Ident.quote
    · subst hc
      simp only [List.flatMap_cons, Ident.encodeChar, if_true, List.cons_append, List.nil_append]
      rw [regions, ih]
      rfl
    · simp only [List.flatMap_cons, Ident.encodeChar, if_neg hc, List.cons_append, List.nil_append]
      rw [regions, ih]
      · rfl
      · exact fun _ h _ => hc h
      · exact hc

theorem regions_name (name : String) (rest : List Char) (h : EndsName rest) :
    regions .code (Ident.encode name.toList ++ rest) =
      List.replicate (Ident.encode name.toList).length .name ++ regions .code rest := by
  rw [Ident.encode, List.cons_append, List.cons_append, List.append_assoc, List.singleton_append,
    regions, regions_nameRest _ h]
  rfl

theorem regions_textRest (s rest : List Char) :
    regions .text (Literal.escape s ++ Literal.quote :: rest) =
      List.replicate (Literal.escape s ++ [Literal.quote]).length .text ++ regions .code rest := by
  induction s with
  | nil => rfl
  | cons c s ih =>
    have hs : Literal.escape (c :: s) = Literal.escapeChar c ++ Literal.escape s := rfl
    rw [hs, List.append_assoc, List.append_assoc]
    rcases escapeChar_cases c with ⟨e, he, -⟩ | ⟨he, h₁, h₂⟩
    · rw [he]
      simp only [List.cons_append, List.nil_append]
      rw [regions, ih]
      rfl
    · rw [he, List.singleton_append, List.singleton_append, regions, ih]
      · rfl
      · exact fun _ _ h => absurd h h₁
      · exact h₂

theorem isBlank_of_isBareChar {c : Char} (hc : Literal.isBareChar c = true) :
    Text.isBlank c = false := by
  simp only [Literal.isBareChar, Bool.or_eq_true, beq_iff_eq] at hc
  rcases hc with (hc | rfl) | rfl
  · exact Text.isBlank_of_isDigit hc
  · decide
  · decide

theorem regions_bare_cons {c : Char} (hc : Literal.isBareChar c = true) {cs : List Char}
    (h : c = '-' → ∀ ds, cs = '-' :: ds → opensComment ds = false) :
    regions .code (c :: cs) = .code :: regions .code cs := by
  obtain ⟨hq, -⟩ := ne_of_isBareChar hc
  have hb : c ≠ '\x60' := by rintro rfl; revert hc; decide
  -- a hyphen opens a comment only together with another one behind it
  by_cases hd : c = '-' ∧ ∃ ds, cs = '-' :: ds
  · obtain ⟨rfl, ds, rfl⟩ := hd
    rw [regions, if_neg (by simp [h rfl ds rfl])]
  · rw [regions]
    · exact fun ds h₁ h₂ => hd ⟨h₁, ds, h₂⟩
    · exact hb
    · exact hq

/-- The text ends in two hyphens. -/
def EndsInDashes (cs : List Char) : Prop := ['-', '-'] <:+ cs

instance (cs : List Char) : Decidable (EndsInDashes cs) :=
  inferInstanceAs (Decidable (['-', '-'] <:+ cs))

/-- A bare run is read as it was written unless it opens a comment with what follows. -/
theorem regions_run {run rest : List Char} (hrun : ∀ c ∈ run, Literal.isBareChar c = true)
    (hrest : rest.head? ≠ some '-') (h : ¬ (EndsInDashes run ∧ opensComment rest = true)) :
    regions .code (run ++ rest) = List.replicate run.length .code ++ regions .code rest := by
  induction run with
  | nil => rfl
  | cons c run ih =>
    have hrun' : ∀ d ∈ run, Literal.isBareChar d = true :=
      fun d hd => hrun d (List.mem_cons_of_mem _ hd)
    have h' : ¬ (EndsInDashes run ∧ opensComment rest = true) :=
      fun ⟨h₁, h₂⟩ => h ⟨h₁.trans (List.suffix_cons c run), h₂⟩
    rw [List.cons_append, regions_bare_cons (hrun c (by simp)), ih hrun' h']
    · rfl
    · rintro rfl ds hds
      cases run with
      | nil => rw [List.nil_append] at hds; rw [hds] at hrest; exact absurd rfl hrest
      | cons d run =>
        -- two hyphens within the run: they open a comment only if the run ends here
        simp only [List.cons_append, List.cons.injEq] at hds
        obtain ⟨rfl, rfl⟩ := hds
        cases run with
        | nil =>
          have : ¬ opensComment rest = true := fun ho => h ⟨List.suffix_rfl, ho⟩
          simpa using this
        | cons e run => exact isBlank_of_isBareChar (hrun e (by simp))

/-- A bare run that ends in two hyphens before a blank or the end takes in all that follows. -/
theorem regions_start_dashes {start rest : List Char}
    (hrun : ∀ c ∈ start ++ ['-', '-'], Literal.isBareChar c = true)
    (ho : opensComment rest = true) :
    regions .code (start ++ ['-', '-'] ++ rest) =
      List.replicate start.length .code ++ .comment :: .comment :: regions .comment rest := by
  induction start with
  | nil => simp [regions, ho]
  | cons c start ih =>
    have hrun' : ∀ d ∈ start ++ ['-', '-'], Literal.isBareChar d = true :=
      fun d hd => hrun d (List.mem_cons_of_mem _ hd)
    rw [List.cons_append, List.cons_append, regions_bare_cons (hrun c (by simp)), ih hrun']
    · rfl
    · rintro rfl ds hds
      cases start with
      | nil =>
        simp only [List.nil_append, List.cons_append, List.cons.injEq] at hds
        obtain ⟨-, rfl⟩ := hds
        rfl
      | cons d start =>
        simp only [List.cons_append, List.cons.injEq] at hds
        obtain ⟨-, rfl⟩ := hds
        cases start with
        | nil => rfl
        | cons e start => exact isBlank_of_isBareChar (hrun' e (by simp))

/-! ### Statements in pieces -/

/-- A part of a statement: text of the statement's own, a name or a constant. -/
inductive Piece
  | code (s : String)
  | name (s : String)
  | constant (k : Constant)
deriving DecidableEq, Repr

/-- A bare constant that would open a comment before a blank. -/
def Constant.endsInDashes : Constant → Bool
  | .number run _ => decide (EndsInDashes run.toList)
  | _ => false

namespace Piece

variable {p : Piece} {rest : List Char}

def chars : Piece → List Char
  | .code s => s.toList
  | .name s => Ident.encode s.toList
  | .constant k => k.chars

/-- The region that the piece is written for. -/
def region : Piece → Region
  | .code _ => .code
  | .name _ => .name
  | .constant (.text _) => .text
  | .constant _ => .code

def regions (p : Piece) : List Region := List.replicate p.chars.length p.region

/-- What follows the piece leaves its end where it is. -/
def Fits (rest : List Char) : Piece → Prop
  | .code s => s.toList.all isPlain = true
  | .name _ => EndsName rest
  | .constant _ => rest.head? ≠ some '-'

/-- The piece opens a comment with what follows. -/
def Opens (rest : List Char) : Piece → Prop
  | .constant k => k.endsInDashes = true ∧ opensComment rest = true
  | _ => False

theorem regions_chars (hf : p.Fits rest) (ho : ¬ p.Opens rest) :
    Sql.regions .code (p.chars ++ rest) = p.regions ++ Sql.regions .code rest := by
  cases p with
  | code s => exact regions_plain hf rest
  | name s => exact regions_name s rest hf
  | constant k =>
    cases k with
    | null => exact regions_plain (w := ['N', 'U', 'L', 'L']) rfl rest
    | text s =>
      rw [chars, Constant.chars, List.append_assoc, List.singleton_append, List.cons_append,
        Sql.regions, regions_textRest]
      rfl
    | number run bare =>
      exact regions_run (isBare_iff.1 bare).2 hf fun h => ho ⟨decide_eq_true h.1, h.2⟩

/-- A piece that opens a comment is not read as it was written, nor is anything after it up to the
end of the line. -/
theorem regions_chars_of_opens (ho : p.Opens rest) :
    ∃ n, Sql.regions .code (p.chars ++ rest) =
        List.replicate n .code ++ .comment :: .comment :: Sql.regions .comment rest ∧
      p.chars.length = n + 2 ∧ p.region = .code := by
  cases p with
  | code s => exact absurd ho id
  | name s => exact absurd ho id
  | constant k =>
    obtain ⟨h, ho⟩ := ho
    cases k with
    | null => cases h
    | text s => cases h
    | number run bare =>
      obtain ⟨start, hstart⟩ := of_decide_eq_true h
      have hrun := (isBare_iff.1 bare).2
      rw [← hstart] at hrun
      refine ⟨start.length, ?_, ?_, rfl⟩
      · rw [chars, Constant.chars, ← hstart]
        exact regions_start_dashes hrun ho
      · rw [chars, Constant.chars, ← hstart]
        simp

end Piece

/-- The text of the pieces one after the other. -/
def written (ps : List Piece) : List Char := ps.flatMap Piece.chars

/-- The regions that the characters of the pieces are written for. -/
def intended (ps : List Piece) : List Region := ps.flatMap Piece.regions

/-- Every piece fits what follows it, in the end `rest`. -/
def FitBefore (rest : List Char) : List Piece → Prop
  | [] => True
  | p :: ps => p.Fits (written ps ++ rest) ∧ FitBefore rest ps

/-- No piece opens a comment. -/
def QuietBefore (rest : List Char) : List Piece → Prop
  | [] => True
  | p :: ps => ¬ p.Opens (written ps ++ rest) ∧ QuietBefore rest ps

section
variable {ps qs : List Piece} {rest : List Char}

@[simp] theorem written_nil : written [] = [] := rfl

@[simp] theorem written_cons (p : Piece) (ps : List Piece) :
    written (p :: ps) = p.chars ++ written ps := rfl

@[simp] theorem written_append (ps qs : List Piece) :
    written (ps ++ qs) = written ps ++ written qs :=
  List.flatMap_append

@[simp] theorem intended_cons (p : Piece) (ps : List Piece) :
    intended (p :: ps) = p.regions ++ intended ps := rfl

@[simp] theorem length_intended (ps : List Piece) : (intended ps).length = (written ps).length := by
  induction ps with
  | nil => rfl
  | cons p ps ih => simp [ih, Piece.regions]

theorem fitBefore_append :
    FitBefore rest (ps ++ qs) ↔ FitBefore (written qs ++ rest) ps ∧ FitBefore rest qs := by
  induction ps with
  | nil => simp [FitBefore]
  | cons p ps ih => simp [FitBefore, ih, and_assoc]

theorem quietBefore_append :
    QuietBefore rest (ps ++ qs) ↔ QuietBefore (written qs ++ rest) ps ∧ QuietBefore rest qs := by
  induction ps with
  | nil => simp [QuietBefore]
  | cons p ps ih => simp [QuietBefore, ih, and_assoc]

theorem regions_written (hf : FitBefore rest ps) (hq : QuietBefore rest ps) :
    regions .code (written ps ++ rest) = intended ps ++ regions .code rest := by
  induction ps with
  | nil => rfl
  | cons p ps ih =>
    rw [written_cons, List.append_assoc, Piece.regions_chars hf.1 hq.1, ih hf.2 hq.2, intended_cons,
      List.append_assoc]

/-- Pieces are read as they were written exactly when none of them opens a comment. -/
theorem regions_written_iff (hf : FitBefore [] ps) :
    regions .code (written ps) = intended ps ↔ QuietBefore [] ps := by
  constructor
  · intro h
    induction ps with
    | nil => trivial
    | cons p ps ih =>
      -- a comment would stand where the piece has code
      have hp : ¬ p.Opens (written ps) := by
        intro ho
        obtain ⟨n, hr, hlen, hreg⟩ := Piece.regions_chars_of_opens ho
        rw [written_cons, hr, intended_cons, Piece.regions, hlen, hreg,
          ← List.replicate_append_replicate, List.append_assoc] at h
        cases List.append_cancel_left h
      refine ⟨by rwa [List.append_nil], ih hf.2 ?_⟩
      have hfit := hf.1
      rw [List.append_nil] at hfit
      rw [written_cons, Piece.regions_chars hfit hp, intended_cons] at h
      exact List.append_cancel_left h
  · intro hq
    have := regions_written hf hq
    simpa [regions] using this

/-- The last of the statement's pieces are read as they were written exactly when none of them
opens a comment and the piece before them does not. -/
theorem drop_regions_iff {p : Piece} (hf : FitBefore [] (ps ++ p :: qs))
    (hq : QuietBefore (written (p :: qs)) ps) (hqs : ∃ rs, intended qs = .code :: rs) :
    (regions .code (written (ps ++ p :: qs))).drop (written ps ++ p.chars).length = intended qs ↔
      ¬ p.Opens (written qs) ∧ QuietBefore [] qs := by
  obtain ⟨hfps, hfp, hfqs⟩ := fitBefore_append.1 hf
  rw [List.append_nil] at hfps hfp
  rw [written_append, regions_written hfps hq, List.length_append, ← List.drop_drop,
    ← length_intended, List.drop_left, written_cons]
  by_cases ho : p.Opens (written qs)
  · obtain ⟨n, hr, hlen, -⟩ := Piece.regions_chars_of_opens ho
    have hdrop : (regions .code (p.chars ++ written qs)).drop p.chars.length =
        regions .comment (written qs) := by
      rw [hr, hlen, ← List.drop_drop]
      simp
    rw [hdrop]
    -- the comment takes in the first character of `qs`, which was written for code
    refine iff_of_false ?_ fun h => h.1 ho
    obtain ⟨rs, hrs⟩ := hqs
    rw [hrs]
    intro h
    cases hw : written qs with
    | nil => rw [hw] at h; cases h
    | cons c cs =>
      rw [hw] at h
      by_cases hc : c = '\n'
      · subst hc; cases h
      · rw [regions] at h
        · cases h
        · exact hc
  · rw [Piece.regions_chars hfp ho]
    have hlen : p.regions.length = p.chars.length := List.length_replicate
    rw [← hlen, List.drop_left, regions_written_iff hfqs]
    exact (and_iff_right ho).symm

end

end OneTable.Sql
