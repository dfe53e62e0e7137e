import OneTable.Proofs.Registry.ConnectionId
import OneTable.Settings.Expansion

/-!
# Texts with references

A text falls into literals and references in exactly one way, read from left to right: a literal
goes up to the first `$` with a brace behind it, a name up to the first closing brace behind that,
and the last name may have no end (`Template`, `existsUnique_text`). Replacing the references
follows these parts: the result is the literals with the values between them, and the first
reference that cannot be replaced is the fault (`expandText_text`). Main statement:
`expands_template`.
-/

namespace OneTable.Settings

/-- No reference begins in the text. -/
def IsLiteral (cs : List Char) : Prop := ¬ ['$', '\x7b'] <:+: cs

instance (cs : List Char) : Decidable (IsLiteral cs) :=
  inferInstanceAs (Decidable (¬ ['$', '\x7b'] <:+: cs))

/-- A text between references. -/
abbrev Literal := { cs : List Char // IsLiteral cs }

/-- The name in a reference, which the first closing brace ends. -/
abbrev RefName := { key : List Char // '\x7d' ∉ key }

/-- The parts of a text from left to right. -/
structure Template where
  /-- Literals, each with the name of the reference behind it. -/
  references : List (Literal × RefName)
  last : Literal
  /-- The name of a reference behind the last literal that has no end. -/
  unclosed : Option RefName := none

namespace Template

/-- A reference begins. -/
def opened (key : List Char) : List Char := '$' :: '\x7b' :: key

def characters (t : Template) : List Char :=
  t.references.flatMap (fun (cs, key) => cs.1 ++ opened (key.1 ++ ['\x7d'])) ++ t.last.1 ++
    (t.unclosed.map fun key => opened key.1).getD []

def text (t : Template) : String := String.ofList t.characters

variable (lookup : String → Option String)

/-- What is wrong with a reference of this name. -/
def nameFault? (key : RefName) : Option Fault :=
  if key.1 = [] then some .emptyReference
  else if lookup (String.ofList key.1) = none then some (.unset (String.ofList key.1))
  else none

/-- The first reference that cannot be replaced, by what is wrong with it. -/
def fault? (t : Template) : Option Fault :=
  (t.references.findSome? fun part => nameFault? lookup part.2).or
    (t.unclosed.map fun key => .unterminated (String.ofList key.1))

/-- The literals with the values of the references between them. -/
def filled (t : Template) : List Char :=
  t.references.flatMap (fun (cs, key) =>
    cs.1 ++ ((lookup (String.ofList key.1)).getD "").toList) ++ t.last.1

end Template

/-! ### Literals -/

section

variable {c : Char} {cs cs' rest rest' : List Char}

theorem isLiteral_nil : IsLiteral [] := by decide

theorem isLiteral_cons_iff :
    IsLiteral (c :: cs) ↔ ¬ (c = '$' ∧ cs.head? = some '\x7b') ∧ IsLiteral cs := by
  have hprefix : ['$', '\x7b'] <+: c :: cs ↔ c = '$' ∧ cs.head? = some '\x7b' := by
    rw [List.cons_prefix_cons, eq_comm]
    cases cs <;> simp [eq_comm]
  rw [IsLiteral, IsLiteral, List.infix_cons_iff, hprefix, not_or]

/-- A text is a literal, or one is cut off before its first reference. -/
theorem exists_literal (cs : List Char) :
    IsLiteral cs ∨ ∃ (l : Literal) (rest : List Char), cs = l.1 ++ Template.opened rest := by
  induction cs with
  | nil => exact .inl isLiteral_nil
  | cons c cs ih =>
    by_cases hopens : c = '$' ∧ cs.head? = some '\x7b'
    · obtain ⟨rfl, hbrace⟩ := hopens
      obtain ⟨rest, rfl⟩ := List.head?_eq_some_iff.1 hbrace
      exact .inr ⟨⟨[], isLiteral_nil⟩, rest, rfl⟩
    · rcases ih with hcs | ⟨l, rest, rfl⟩
      · exact .inl (isLiteral_cons_iff.2 ⟨hopens, hcs⟩)
      · refine .inr ⟨⟨c :: l.1, isLiteral_cons_iff.2 ⟨?_, l.2⟩⟩, rest, rfl⟩
        rintro ⟨rfl, hbrace⟩
        refine hopens ⟨rfl, ?_⟩
        rw [List.head?_append, hbrace, Option.some_or]

theorem not_isLiteral_opened (cs rest : List Char) : ¬ IsLiteral (cs ++ Template.opened rest) :=
  not_not_intro ⟨cs, rest, by simp [Template.opened]⟩

/-- What may come behind a literal: nothing, or a reference that begins. -/
def behind (reference : Option (List Char)) : List Char := (reference.map Template.opened).getD []

theorem eq_nil_of_behind {ref ref' : Option (List Char)} (h : IsLiteral (cs ++ cs'))
    (hbehind : behind ref = cs' ++ behind ref') : cs' = [] := by
  rcases ref with _ | key
  · exact (List.append_eq_nil_iff.1 hbehind.symm).1
  · rcases cs' with _ | ⟨c, _ | ⟨d, ds⟩⟩
    · rfl
    · -- the brace would be the first character behind the second literal
      rcases ref' <;> simp [behind, Template.opened] at hbehind
    · obtain ⟨rfl, hcs⟩ := List.cons.inj hbehind
      obtain ⟨rfl, -⟩ := List.cons.inj hcs
      exact absurd h (not_isLiteral_opened cs ds)

/-- A literal goes up to the first reference. -/
theorem literal_behind_inj {ref ref' : Option (List Char)} (hcs : IsLiteral cs)
    (hcs' : IsLiteral cs') (h : cs ++ behind ref = cs' ++ behind ref') : cs = cs' ∧ ref = ref' := by
  have hsame : cs = cs' := by
    rcases List.append_eq_append_iff.1 h with ⟨more, rfl, hbehind⟩ | ⟨more, rfl, hbehind⟩
    · rw [eq_nil_of_behind hcs' hbehind, List.append_nil]
    · rw [eq_nil_of_behind hcs hbehind, List.append_nil]
  subst hsame
  have hbehind := List.append_cancel_left h
  refine ⟨rfl, ?_⟩
  cases ref <;> cases ref' <;> simp_all [behind, Template.opened]

end

namespace Template

theorem characters_nil (last : Literal) (unclosed : Option RefName) :
    characters ⟨[], last, unclosed⟩ = last.1 ++ behind (unclosed.map Subtype.val) := by
  cases unclosed <;> rfl

theorem characters_cons (cs : Literal) (key : RefName) (references : List (Literal × RefName))
    (last : Literal) (unclosed : Option RefName) :
    characters ⟨(cs, key) :: references, last, unclosed⟩ =
      cs.1 ++ behind (some (key.1 ++ '\x7d' :: characters ⟨references, last, unclosed⟩)) := by
  simp [characters, behind, opened]

/-- The parts of a text are not to be had in another way. -/
theorem characters_inj {t t' : Template} (h : t.characters = t'.characters) : t = t' := by
  obtain ⟨references, last, unclosed⟩ := t
  obtain ⟨references', last', unclosed'⟩ := t'
  induction references generalizing references' with
  | nil =>
    rcases references' with _ | ⟨⟨cs', key'⟩, references'⟩
    · rw [characters_nil, characters_nil] at h
      obtain ⟨hlast, hunclosed⟩ := literal_behind_inj last.2 last'.2 h
      rw [Subtype.ext hlast, Option.map_injective Subtype.val_injective hunclosed]
    · rw [characters_nil, characters_cons] at h
      obtain ⟨key, -, hkey⟩ := Option.map_eq_some_iff.1 (literal_behind_inj last.2 cs'.2 h).2
      exact absurd (hkey ▸ List.mem_append_right _ List.mem_cons_self) key.2
  | cons part references ih =>
    obtain ⟨cs, key⟩ := part
    rcases references' with _ | ⟨⟨cs', key'⟩, references'⟩
    · rw [characters_nil, characters_cons] at h
      obtain ⟨key', -, hkey⟩ := Option.map_eq_some_iff.1 (literal_behind_inj cs.2 last'.2 h).2.symm
      exact absurd (hkey ▸ List.mem_append_right _ List.mem_cons_self) key'.2
    · rw [characters_cons, characters_cons] at h
      obtain ⟨hcs, hbehind⟩ := literal_behind_inj cs.2 cs'.2 h
      obtain ⟨hkey, hrest⟩ := append_cons_inj key.2 key'.2 (Option.some_inj.1 hbehind)
      obtain ⟨rfl, rfl, rfl⟩ := mk.inj (ih _ hrest)
      rw [Subtype.ext hcs, Subtype.ext hkey]

theorem exists_characters (cs : List Char) : ∃ t : Template, t.characters = cs := by
  induction hlength : cs.length using Nat.strongRecOn generalizing cs with
  | ind n ih =>
    rcases exists_literal cs with hcs | ⟨l, rest, rfl⟩
    · exact ⟨⟨[], ⟨cs, hcs⟩, none⟩, by rw [characters_nil]; exact List.append_nil cs⟩
    · by_cases hend : '\x7d' ∈ rest
      · obtain ⟨key, more, rfl, hkey⟩ := List.eq_append_cons_of_mem hend
        have hshorter : more.length < n := by
          rw [← hlength]
          simp only [opened, List.length_append, List.length_cons]
          omega
        obtain ⟨⟨references, last, unclosed⟩, rfl⟩ := ih _ hshorter more rfl
        exact ⟨⟨(l, ⟨key, hkey⟩) :: references, last, unclosed⟩, characters_cons ..⟩
      · exact ⟨⟨[], l, some ⟨rest, hend⟩⟩, characters_nil ..⟩

end Template

/-! ### Replacing the references -/

section

variable (lookup : String → Option String) {cs rest : List Char}

theorem expandFrom_cons {c : Char} (h : ¬ (c = '$' ∧ cs.head? = some '\x7b')) :
    expandFrom lookup none (c :: cs) = (expandFrom lookup none cs).map (c :: ·) := by
  rw [expandFrom]
  intro rest hc hcs
  exact h ⟨hc, by rw [hcs, List.head?_cons]⟩

theorem expandFrom_literal (h : IsLiteral cs) (hrest : rest.head? ≠ some '\x7b') :
    expandFrom lookup none (cs ++ rest) = (expandFrom lookup none rest).map (cs ++ ·) := by
  induction cs with
  | nil =>
    rw [List.nil_append]
    cases expandFrom lookup none rest <;> rfl
  | cons c cs ih =>
    obtain ⟨hc, hcs⟩ := isLiteral_cons_iff.1 h
    have hnext : ¬ (c = '$' ∧ (cs ++ rest).head? = some '\x7b') := by
      cases cs with
      | nil => exact fun hopens => hrest hopens.2
      | cons d ds => exact hc
    rw [List.cons_append, expandFrom_cons lookup hnext, ih hcs]
    cases expandFrom lookup none rest <;> rfl

theorem expandFrom_behind (h : IsLiteral cs) (ref : Option (List Char)) :
    expandFrom lookup none (cs ++ behind ref) = (match ref with
      | some rest => expandFrom lookup (some []) rest
      | none => .ok []).map (cs ++ ·) := by
  cases ref with
  | none => exact expandFrom_literal lookup h (by simp [behind])
  | some rest => exact expandFrom_literal lookup h (by simp [behind, Template.opened])

theorem expandFrom_name {key : List Char} (h : '\x7d' ∉ cs) :
    expandFrom lookup (some key) (cs ++ '\x7d' :: rest) = (do
      let value ← resolve lookup (String.ofList (key.reverse ++ cs))
      (expandFrom lookup none rest).map (value.toList ++ ·)) := by
  induction cs generalizing key with
  | nil => rw [List.nil_append, expandFrom, if_pos rfl, List.append_nil]
  | cons c cs ih =>
    rw [List.mem_cons, not_or] at h
    rw [List.cons_append, expandFrom, if_neg (Ne.symm h.1), ih h.2, List.reverse_cons,
      List.append_assoc, List.singleton_append]

theorem expandFrom_unclosed {key : List Char} (h : '\x7d' ∉ cs) :
    expandFrom lookup (some key) cs =
      .error (.unterminated (String.ofList (key.reverse ++ cs))) := by
  induction cs generalizing key with
  | nil => rw [expandFrom, List.append_nil]
  | cons c cs ih =>
    rw [List.mem_cons, not_or] at h
    rw [expandFrom, if_neg (Ne.symm h.1), ih h.2, List.reverse_cons, List.append_assoc,
      List.singleton_append]

theorem resolve_eq (key : RefName) :
    resolve lookup (String.ofList key.1) = match Template.nameFault? lookup key with
      | some f => .error f
      | none => .ok ((lookup (String.ofList key.1)).getD "") := by
  rw [resolve, Template.nameFault?, String.toList_ofList]
  by_cases hempty : key.1 = []
  · rw [if_pos (List.isEmpty_iff.2 hempty), if_pos hempty]
  · rw [if_neg (mt List.isEmpty_iff.1 hempty), if_neg hempty]
    cases lookup (String.ofList key.1) <;> rfl

theorem Template.fault?_cons (cs : Literal) (key : RefName) (references : List (Literal × RefName))
    (last : Literal) (unclosed : Option RefName) :
    fault? lookup ⟨(cs, key) :: references, last, unclosed⟩ =
      (nameFault? lookup key).or (fault? lookup ⟨references, last, unclosed⟩) := by
  simp only [fault?, List.findSome?_cons]
  cases nameFault? lookup key <;> rfl

theorem Template.filled_cons (cs : Literal) (key : RefName) (references : List (Literal × RefName))
    (last : Literal) (unclosed : Option RefName) :
    filled lookup ⟨(cs, key) :: references, last, unclosed⟩ =
      cs.1 ++ (((lookup (String.ofList key.1)).getD "").toList ++
        filled lookup ⟨references, last, unclosed⟩) := by
  simp [filled]

/-- A text is replaced part by part. -/
theorem expandFrom_characters (t : Template) :
    expandFrom lookup none t.characters = match t.fault? lookup with
      | some f => .error f
      | none => .ok (t.filled lookup) := by
  obtain ⟨references, last, unclosed⟩ := t
  induction references with
  | nil =>
    rw [Template.characters_nil, expandFrom_behind lookup last.2]
    cases unclosed with
    | none => simp [Template.fault?, Template.filled, Except.map]
    | some key => simp [Template.fault?, expandFrom_unclosed lookup key.2, Except.map]
  | cons part references ih =>
    obtain ⟨cs, key⟩ := part
    rw [Template.characters_cons, expandFrom_behind lookup cs.2, Template.fault?_cons,
      Template.filled_cons]
    dsimp only
    rw [expandFrom_name lookup key.2, ih, List.reverse_nil, List.nil_append, resolve_eq]
    cases Template.nameFault? lookup key with
    | some f => rfl
    | none => cases Template.fault? lookup ⟨references, last, unclosed⟩ <;> rfl

theorem expandText_text (t : Template) :
    expandText lookup t.text = match t.fault? lookup with
      | some f => .error f
      | none => .ok (String.ofList (t.filled lookup)) := by
  rw [expandText, Template.text, String.toList_ofList, expandFrom_characters]
  cases t.fault? lookup <;> rfl

end

theorem Template.text_eq_iff {t : Template} {s : String} :
    t.text = s ↔ t.characters = s.toList := by
  rw [← String.toList_inj, text, String.toList_ofList]

theorem existsUnique_text (s : String) : ∃! t : Template, t.text = s := by
  obtain ⟨t, ht⟩ := Template.exists_characters s.toList
  refine ⟨t, Template.text_eq_iff.2 ht, fun t' ht' => Template.characters_inj ?_⟩
  rw [ht, Template.text_eq_iff.1 ht']

theorem Template.fault?_eq_none {lookup : String → Option String} {t : Template}
    (hset : ∀ part ∈ t.references,
      part.2.1 ≠ [] ∧ (lookup (String.ofList part.2.1)).isSome = true)
    (hclosed : t.unclosed = none) : t.fault? lookup = none := by
  rw [fault?, hclosed, Option.map_none, Option.or_none, List.findSome?_eq_none_iff]
  intro part hpart
  obtain ⟨hname, hvalue⟩ := hset part hpart
  rw [nameFault?, if_neg hname, if_neg (Option.isSome_iff_ne_none.1 hvalue)]

/-- Every text falls into literals and references in exactly one way. If all references are closed
and name variables that are set, the result is the literals with the values between them; it is a
fault exactly if a reference cannot be replaced, and then that of the first such. A literal is
returned as it is. -/
theorem expands_template (lookup : String → Option String) :
    (∀ s, ∃! t : Template, t.text = s) ∧
    (∀ t : Template, (∀ part ∈ t.references,
        part.2.1 ≠ [] ∧ (lookup (String.ofList part.2.1)).isSome = true) → t.unclosed = none →
      expandText lookup t.text = .ok (String.ofList (t.filled lookup))) ∧
    (∀ (t : Template) (f : Fault),
      expandText lookup t.text = .error f ↔ t.fault? lookup = some f) ∧
    ∀ s : String, IsLiteral s.toList → expandText lookup s = .ok s := by
  refine ⟨existsUnique_text, fun t hset hclosed => ?_, fun t f => ?_, fun s hs => ?_⟩
  · rw [expandText_text, Template.fault?_eq_none hset hclosed]
  · rw [expandText_text]
    cases t.fault? lookup <;> simp
  · have htext : (⟨[], ⟨s.toList, hs⟩, none⟩ : Template).text = s := by
      rw [Template.text, Template.characters_nil]
      simp [behind]
    rw [← htext, expandText_text]
    simp [Template.fault?, Template.filled, Template.text, Template.characters]

/-- Values that look like references, a `$` before a reference and braces around it. The fault is
the first of two. -/
theorem expands_template_hostile :
    let lookup (name : String) : Option String :=
      if name = "A" then some "$\x7bB\x7d$" else if name = "B" then some "\x7b" else none
    expandText lookup "$$\x7bA\x7d\x7b$\x7bB\x7d\x7d" = .ok "$$\x7bB\x7d$\x7b\x7b\x7d" ∧
      expandText lookup "$\x7bA\x7d$\x7b\x7d$\x7bC" = .error .emptyReference ∧
      expandText lookup "$\x7d\x7b$" = .ok "$\x7d\x7b$" := by
  intro lookup
  obtain ⟨-, hfilled, hfault, hliteral⟩ := expands_template lookup
  let valued : Template :=
    ⟨[(⟨['$'], by decide⟩, ⟨['A'], by decide⟩), (⟨['\x7b'], by decide⟩, ⟨['B'], by decide⟩)],
      ⟨['\x7d'], by decide⟩, none⟩
  let faulty : Template :=
    ⟨[(⟨[], by decide⟩, ⟨['A'], by decide⟩), (⟨[], by decide⟩, ⟨[], by decide⟩)],
      ⟨[], by decide⟩, some ⟨['C'], by decide⟩⟩
  have hvalued : valued.text = "$$\x7bA\x7d\x7b$\x7bB\x7d\x7d" := by decide +kernel
  have hfaulty : faulty.text = "$\x7bA\x7d$\x7b\x7d$\x7bC" := by decide +kernel
  rw [← hvalued, ← hfaulty]
  refine ⟨(hfilled valued (by decide) rfl).trans ?_, (hfault faulty _).2 (by decide),
    hliteral _ (by decide)⟩
  exact congrArg Except.ok (by decide +kernel)

end OneTable.Settings
