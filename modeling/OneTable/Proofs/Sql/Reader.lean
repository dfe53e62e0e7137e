import Mathlib.Tactic.Set
import OneTable.Ident
import OneTable.Literal
import OneTable.Text.Split

/-!
# Reading names and literals back

A reader takes what it reads off the front of a statement and leaves the rest. Names stand between
back-quotes, a doubled one being one of the name; texts stand between single quotes, with
backslashes before what would end them; numbers are bare runs of digits, points and hyphens; `NULL`
is a word.

Each of them delimits itself: read off the front of its written form it comes back whole, whatever
follows (`readName_encode`, `readText_escape`, `readConstant_literal`), and so does a run of digits
before what is no digit (`readDigits_append`) and a list of items with a separator between them
(`readSeparated_intercalate`).
-/

namespace OneTable.Sql

universe u

abbrev Reader (α : Type u) := List Char → Option (α × List Char)

/-- Takes a fixed text off the front. -/
def skip : List Char → List Char → Option (List Char)
  | [], cs => some cs
  | _ :: _, [] => none
  | t :: ts, c :: cs => if t = c then skip ts cs else none

@[simp] theorem skip_nil (cs : List Char) : skip [] cs = some cs := rfl

@[simp] theorem skip_cons_self (c : Char) (t cs : List Char) :
    skip (c :: t) (c :: cs) = skip t cs := by
  simp [skip]

@[simp] theorem skip_append (t rest : List Char) : skip t (t ++ rest) = some rest := by
  induction t with
  | nil => rfl
  | cons c t ih => simpa using ih

/-- What a reader has read with one more character in front. -/
def prepend (c : Char) : Option (List Char × List Char) → Option (List Char × List Char) :=
  Option.map fun p => (c :: p.1, p.2)

/-! ### Names -/

/-- The inside of a name, up to the back-quote that ends it. -/
def nameRest : Reader (List Char)
  | [] => none
  | '\x60' :: '\x60' :: cs => prepend '\x60' (nameRest cs)
  | '\x60' :: cs => some ([], cs)
  | c :: cs => prepend c (nameRest cs)

def readName : Reader String
  | '\x60' :: cs => (nameRest cs).map fun p => (String.ofList p.1, p.2)
  | _ => none

/-- A name that stands before `rest` ends there. -/
def EndsName (rest : List Char) : Prop := rest.head? ≠ some Ident.quote

theorem endsName_cons {c : Char} (h : c ≠ Ident.quote) (rest : List Char) :
    EndsName (c :: rest) := by
  simpa [EndsName] using h

/-- The inside of a name is read off whole, whatever follows it. -/
theorem nameRest_append (name rest : List Char) :
    nameRest (name.flatMap Ident.encodeChar ++ rest) =
      (nameRest rest).map fun p => (name ++ p.1, p.2) := by
  induction name with
  | nil => simp
  | cons c name ih =>
    have hmap : prepend c ((nameRest rest).map fun p => (name ++ p.1, p.2)) =
        (nameRest rest).map fun p => (c :: name ++ p.1, p.2) := Option.map_map ..
    rw [List.flatMap_cons, List.append_assoc, ← hmap, ← ih]
    by_cases hc : c = Ident.quote
    · subst hc
      rfl
    · have hc' : c ≠ '\x60' := hc
      rw [Ident.encodeChar, if_neg hc, List.singleton_append, nameRest]
      · exact fun _ h _ => hc' h
      · exact hc'

theorem nameRest_quote {rest : List Char} (h : EndsName rest) :
    nameRest (Ident.quote :: rest) = some ([], rest) := by
  cases rest with
  | nil => rfl
  | cons r rest =>
    have hr : r ≠ '\x60' := by simpa [EndsName] using h
    simp [nameRest, hr]

theorem nameRest_encode (name : List Char) {rest : List Char} (h : EndsName rest) :
    nameRest (name.flatMap Ident.encodeChar ++ Ident.quote :: rest) = some (name, rest) := by
  rw [nameRest_append, nameRest_quote h, Option.map_some, List.append_nil]

theorem readName_encode (name : String) (rest : List Char) (h : EndsName rest) :
    readName (Ident.encode name.toList ++ rest) = some (name, rest) := by
  have e : Ident.encode name.toList ++ rest =
      '\x60' :: (name.toList.flatMap Ident.encodeChar ++ Ident.quote :: rest) := by
    simp [Ident.encode]
  rw [e, readName, nameRest_encode _ h]
  simp

/-! ### Texts -/

/-- The character that a backslash and the given one stand for. -/
def unescaped : Char → Char
  | '0' => '\x00'
  | 'b' => '\x08'
  | 'n' => '\n'
  | 'r' => '\r'
  | 't' => '\t'
  | 'Z' => '\x1a'
  | c => c

/-- The inside of a text, up to the quote that ends it. -/
def textRest : Reader (List Char)
  | [] => none
  | '\\' :: c :: cs => prepend (unescaped c) (textRest cs)
  | '\x27' :: '\x27' :: cs => prepend '\x27' (textRest cs)
  | '\x27' :: cs => some ([], cs)
  | c :: cs => prepend c (textRest cs)

def readText : Reader String
  | '\x27' :: cs => (textRest cs).map fun p => (String.ofList p.1, p.2)
  | _ => none

theorem escapeChar_cases (c : Char) :
    (∃ e, Literal.escapeChar c = ['\\', e] ∧ unescaped e = c) ∨
      (Literal.escapeChar c = [c] ∧ c ≠ '\\' ∧ c ≠ '\x27') := by
  unfold Literal.escapeChar
  split
  · exact .inl ⟨_, rfl, rfl⟩
  · exact .inl ⟨_, rfl, rfl⟩
  · exact .inl ⟨_, rfl, rfl⟩
  · exact .inl ⟨_, rfl, rfl⟩
  · exact .inr ⟨rfl, ‹_›, ‹_›⟩

/-- The inside of a text is read off whole, whatever follows it. -/
theorem textRest_append (s rest : List Char) :
    textRest (Literal.escape s ++ rest) = (textRest rest).map fun p => (s ++ p.1, p.2) := by
  induction s with
  | nil => simp [Literal.escape]
  | cons c s ih =>
    have hs : Literal.escape (c :: s) = Literal.escapeChar c ++ Literal.escape s := rfl
    have hmap : prepend c ((textRest rest).map fun p => (s ++ p.1, p.2)) =
        (textRest rest).map fun p => (c :: s ++ p.1, p.2) := Option.map_map ..
    rw [hs, List.append_assoc, ← hmap, ← ih]
    -- the reader stands before a backslash and what it stands for, or before a plain character
    rcases escapeChar_cases c with ⟨e, he, hu⟩ | ⟨he, h₁, h₂⟩
    · rw [he]
      simp only [List.cons_append, List.nil_append]
      rw [textRest, hu]
    · rw [he, List.singleton_append, textRest]
      · exact fun _ _ h => absurd h h₁
      · exact fun _ h _ => h₂ h
      · exact h₂

theorem textRest_quote {rest : List Char} (h : rest.head? ≠ some Literal.quote) :
    textRest (Literal.quote :: rest) = some ([], rest) := by
  cases rest with
  | nil => rfl
  | cons r rest =>
    have hr : r ≠ '\x27' := by simpa using h
    simp [textRest, hr]

theorem textRest_escape (s : List Char) {rest : List Char} (h : rest.head? ≠ some Literal.quote) :
    textRest (Literal.escape s ++ Literal.quote :: rest) = some (s, rest) := by
  rw [textRest_append, textRest_quote h, Option.map_some, List.append_nil]

theorem readText_escape (s : String) {rest : List Char} (h : rest.head? ≠ some Literal.quote) :
    readText (Literal.quote :: Literal.escape s.toList ++ Literal.quote :: rest) =
      some (s, rest) := by
  rw [List.cons_append, readText, textRest_escape _ h]
  simp

/-! ### Numbers -/

def readDigits : Reader Nat := fun cs =>
  let ds := cs.takeWhile Char.isDigit
  if ds.isEmpty then none else some (Number.natOfDigits ds, cs.dropWhile Char.isDigit)

/-- A number that stands before `rest` ends there. -/
def EndsNumber (rest : List Char) : Prop := ∀ c, rest.head? = some c → c.isDigit = false

theorem endsNumber_nil : EndsNumber [] := nofun

theorem endsNumber_cons {c : Char} (h : c.isDigit = false) (rest : List Char) :
    EndsNumber (c :: rest) := by
  intro d hd
  cases hd
  exact h

/-- A run of digits reads back as the number that it denotes. -/
theorem readDigits_append {ds rest : List Char} (hne : ds ≠ [])
    (hdigits : ∀ c ∈ ds, c.isDigit = true) (h : EndsNumber rest) :
    readDigits (ds ++ rest) = some (Number.natOfDigits ds, rest) := by
  rw [readDigits, Text.takeWhile_run hdigits h, Text.dropWhile_run hdigits h]
  simp [hne]

/-! ### Constants -/

/-- What stands for a value in a statement. -/
inductive Constant
  | null
  | number (run : String) (bare : Literal.isBare run = true)
  | text (s : String)
deriving DecidableEq, Repr

namespace Constant

def chars : Constant → List Char
  | .null => ['N', 'U', 'L', 'L']
  | .number run _ => run.toList
  | .text s => Literal.quote :: Literal.escape s.toList ++ [Literal.quote]

/-- The text that a constant denotes; `NULL` denotes none. -/
def text? : Constant → Option String
  | .null => none
  | .number run _ => some run
  | .text s => some s

/-- The constant that a text is written as. -/
def ofText (s : String) : Constant := if h : Literal.isBare s = true then .number s h else .text s

/-- The constant that a scalar is written as in a column of type `t`. -/
def ofValue (t : Option ColumnType) : Value → Constant
  | .null => .null
  | .bool b =>
    let digit := if b then "1" else "0"
    if t = some .string then .text digit else .ofText digit
  | v => .ofText (v.text?.getD "")

@[simp] theorem text?_ofText (s : String) : (ofText s).text? = some s := by
  unfold ofText; split <;> rfl

/-- A scalar's constant denotes the text form of the scalar. -/
theorem text?_ofValue (t : Option ColumnType) {v : Value} (hv : v.isList = false) :
    (ofValue t v).text? = v.text? := by
  cases v with
  | null => rfl
  | bool b =>
    simp only [ofValue]
    split
    · rfl
    · exact text?_ofText _
  | list items => simp [Value.isList] at hv
  | int n => exact text?_ofText _
  | uint n => exact text?_ofText _
  | float x => exact text?_ofText _
  | text s => exact text?_ofText _

theorem chars_ofText (s : String) : (ofText s).chars = (Literal.ofText s).toList := by
  unfold ofText Literal.ofText
  split
  · rfl
  · simp [chars]

/-- A scalar's literal is its constant. -/
theorem chars_ofValue (t : Option ColumnType) {v : Value} (hv : v.isList = false) :
    (ofValue t v).chars = (v.literal t).toList := by
  cases v with
  | null => simp [ofValue, chars, Value.literal]
  | bool b =>
    have hbare : ∀ b : Bool, Literal.isBare (if b then "1" else "0") = true := by decide
    by_cases ht : t = some .string
    · cases b <;> simp [ofValue, chars, Value.literal, ht, Literal.escape, Literal.escapeChar]
    · simp [ofValue, Value.literal, ht, chars_ofText, Literal.ofText, hbare]
  | list items => simp [Value.isList] at hv
  | int n => exact chars_ofText _
  | uint n => exact chars_ofText _
  | float x => exact chars_ofText _
  | text s => exact chars_ofText _

end Constant

def readConstant : Reader Constant := fun cs =>
  match readText cs with
  | some (s, rest) => some (.text s, rest)
  | none =>
    match skip ['N', 'U', 'L', 'L'] cs with
    | some rest => some (.null, rest)
    | none =>
      let run := String.ofList (cs.takeWhile Literal.isBareChar)
      if h : Literal.isBare run = true then
        some (.number run h, cs.dropWhile Literal.isBareChar)
      else none

/-- A constant that stands before `rest` ends there. -/
def Delimits (rest : List Char) : Prop :=
  ∀ c, rest.head? = some c → Literal.isBareChar c = false ∧ c ≠ Literal.quote

theorem delimits_cons {c : Char} (hb : Literal.isBareChar c = false) (hq : c ≠ Literal.quote)
    (rest : List Char) : Delimits (c :: rest) := by
  intro d hd
  cases hd
  exact ⟨hb, hq⟩

theorem Delimits.head?_ne {rest : List Char} (h : Delimits rest) :
    rest.head? ≠ some Literal.quote := fun hq => (h _ hq).2 rfl

theorem Delimits.not_isBareChar {rest : List Char} (h : Delimits rest) :
    ∀ c, rest.head? = some c → Literal.isBareChar c = false := fun c hc => (h c hc).1

theorem isBare_iff {s : String} :
    Literal.isBare s = true ↔ s.toList ≠ [] ∧ ∀ c ∈ s.toList, Literal.isBareChar c = true := by
  simp [Literal.isBare]

/-- Bare runs begin like no other constant. -/
theorem ne_of_isBareChar {c : Char} (hc : Literal.isBareChar c = true) : c ≠ '\x27' ∧ c ≠ 'N' := by
  constructor <;> rintro rfl <;> revert hc <;> decide

/-- A constant reads back before whatever delimits it. -/
theorem readConstant_chars (k : Constant) {rest : List Char} (h : Delimits rest) :
    readConstant (k.chars ++ rest) = some (k, rest) := by
  cases k with
  | null => simp [Constant.chars, readConstant, readText, skip]
  | text s =>
    rw [Constant.chars, List.append_assoc, List.singleton_append, readConstant,
      readText_escape s h.head?_ne]
  | number run bare =>
    obtain ⟨hne, hrun⟩ := isBare_iff.1 bare
    have htake := Text.takeWhile_run hrun h.not_isBareChar
    have hdrop := Text.dropWhile_run hrun h.not_isBareChar
    obtain ⟨c, cs, hcs⟩ := List.exists_cons_of_ne_nil hne
    obtain ⟨hq, hN⟩ := ne_of_isBareChar (hrun c (by simp [hcs]))
    -- the reader tries a text and NULL first, and a bare run begins like neither
    have ht : readText (run.toList ++ rest) = none := by
      rw [hcs, List.cons_append, readText]
      rintro ds h
      exact hq (List.cons.inj h).1
    have hs : skip ['N', 'U', 'L', 'L'] (run.toList ++ rest) = none := by
      rw [hcs, List.cons_append, skip, if_neg (Ne.symm hN)]
    simp only [Constant.chars, readConstant, ht, hs, htake, hdrop, String.ofList_toList, bare,
      dite_true]

/-- One item and as many more as follow, each after a separator. An item of no characters ends the
list, so the reader always gets on. -/
def readSeparated {α : Type u} (sep : List Char) (item : Reader α) (cs : List Char) :
    Option (List α × List Char) :=
  match item cs with
  | none => none
  | some (a, rest) =>
    match skip sep rest with
    | none => some ([a], rest)
    | some more =>
      if more.length < cs.length then
        (readSeparated sep item more).map fun p => (a :: p.1, p.2)
      else none
  termination_by cs.length

section
universe v
variable {α : Type u} {β : Type v} (sep : List Char) {item : Reader β} {print : α → List Char}
  {value : α → β}

/-- If every item reads back before whatever `Ends` it, and separators do, so does the list. -/
theorem readSeparated_intercalate (Ends : List Char → Prop) (hne : sep ≠ [])
    (hsep : ∀ rest, Ends (sep ++ rest)) {as : List α} (has : as ≠ [])
    (hitem : ∀ a ∈ as, ∀ rest, Ends rest → item (print a ++ rest) = some (value a, rest))
    {rest : List Char} (hrest : Ends rest) (hstop : skip sep rest = none) :
    readSeparated sep item (sep.intercalate (as.map print) ++ rest) =
      some (as.map value, rest) := by
  induction as with
  | nil => exact absurd rfl has
  | cons a as ih =>
    cases as with
    | nil =>
      rw [readSeparated]
      simp [hitem a (by simp) rest hrest, hstop]
    | cons b as =>
      have hb := ih (by simp) (fun c hc => hitem c (List.mem_cons_of_mem _ hc))
      have hpos : 0 < sep.length := List.length_pos_iff.2 hne
      -- `more` is what the recursive call reads, shorter by the separator at least
      set more := sep.intercalate ((b :: as).map print) ++ rest with hmore
      have e : sep.intercalate ((a :: b :: as).map print) ++ rest =
          print a ++ (sep ++ more) := by
        simp [List.intercalate_cons_cons, hmore]
      have hlt : more.length < (print a ++ (sep ++ more)).length := by
        simp only [List.length_append]; omega
      rw [e, readSeparated, hitem a (by simp) _ (hsep more)]
      simp only [skip_append, hlt, if_true, hb, Option.map_some, List.map_cons]

end

end OneTable.Sql
