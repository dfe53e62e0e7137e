import OneTable.Proofs.Options.Cut
import OneTable.Proofs.Text.Case

/-!
# Order lists as they are written

An item of an order list is `Settled` if it is written as it is: a column that stands bare, alone or
with a direction in upper case behind one space. Compiling gives settled items with `, ` between
them and leaves exactly such lists alone (`Order.compile_eq_self_iff`), so compiling a second time
changes nothing (`Order.compile_compile`).
-/

namespace OneTable

namespace Text

theorem isBlank_of_isAlpha {c : Char} (h : c.isAlpha = true) : isBlank c = false := by
  rw [isAlpha_iff] at h
  simp only [isBlank, Bool.or_eq_false_iff, Bool.and_eq_false_iff, decide_eq_false_iff_not,
    beq_eq_false_iff_ne]
  omega

end Text

namespace Order

open Text

variable {cs ds item name word before : List Char} {b : Char}

/-! ### Directions -/

theorem isDirection_iff : isDirection word = true ↔
    word.map Char.toUpper = ['A', 'S', 'C'] ∨ word.map Char.toUpper = ['D', 'E', 'S', 'C'] := by
  simp [isDirection]

theorem isAlpha_of_isDirection (h : isDirection word = true) : ∀ c ∈ word, c.isAlpha = true := by
  intro c hc
  by_contra hletter
  rw [Bool.not_eq_true] at hletter
  -- what is no letter has no other case, and the directions hold letters only
  have hmem : c ∈ word.map Char.toUpper := List.mem_map.2 ⟨c, hc, (toUpper_eq_iff hletter).2 rfl⟩
  have hletters : ∀ d ∈ word.map Char.toUpper, d.isAlpha = true := by
    rcases isDirection_iff.1 h with h | h <;> rw [h] <;> exact List.all_eq_true.1 (by decide)
  rw [hletters c hmem] at hletter
  exact absurd hletter (by decide)

theorem isDirection_upper (h : isDirection word = true) :
    isDirection (word.map Char.toUpper) = true ∧
      (word.map Char.toUpper).map Char.toUpper = word.map Char.toUpper := by
  rcases isDirection_iff.1 h with h | h <;> rw [h] <;> decide

/-- What ends in a direction ends in a letter. -/
theorem getLast?_direction (h : isDirection word = true) (before : List Char) (b : Char) :
    ∃ c, (before ++ b :: word).getLast? = some c ∧ c.isAlpha = true := by
  cases hlast : word.getLast? with
  | none =>
    rw [List.getLast?_eq_none_iff.1 hlast] at h
    exact absurd h (by decide)
  | some c =>
    refine ⟨c, ?_, isAlpha_of_isDirection h c (List.mem_of_mem_getLast? hlast)⟩
    simp [List.getLast?_append, List.getLast?_cons, hlast]

/-- The last of several words is a direction. -/
def EndsInDirection (cs : List Char) : Prop :=
  ∃ before b word, cs = before ++ b :: word ∧ isBlank b = true ∧ isDirection word = true

theorem column_of_direction (hb : isBlank b = true) (hw : isDirection word = true) :
    column (before ++ b :: word) = (trim before, some (word.map Char.toUpper)) := by
  have hword : ∀ c ∈ word, isBlank c = false := fun c hc =>
    isBlank_of_isAlpha (isAlpha_of_isDirection hw c hc)
  rw [column, splitLast?_append hb hword]
  simp [hw]

theorem column_of_not (h : ¬ EndsInDirection item) : column item = (item, none) := by
  rw [column]
  split
  · rename_i before word hsplit
    obtain ⟨b, hb, hitem, -⟩ := eq_of_splitLast? hsplit
    rw [if_neg fun hw => h ⟨before, b, word, hitem, hb, hw⟩]
  · rfl

theorem not_endsInDirection (h : cs.getLast? = some Ident.quote) : ¬ EndsInDirection cs := by
  rintro ⟨before, b, word, rfl, -, hw⟩
  obtain ⟨c, hlast, hletter⟩ := getLast?_direction hw before b
  obtain rfl : c = Ident.quote := Option.some_inj.1 (hlast.symm.trans h)
  exact absurd hletter (by decide)

/-! ### Items -/

/-- What is left of a part of a list: it is not empty, it holds no comma and neither end is
blank. -/
structure Tight (cs : List Char) : Prop where
  ne_nil : cs ≠ []
  head : ∀ c, cs.head? = some c → isBlank c = false
  last : ∀ c, cs.getLast? = some c → isBlank c = false
  comma : ',' ∉ cs

theorem Tight.trim_eq (h : Tight cs) : trim cs = cs := trim_eq_self h.head h.last

/-- What stands before a blank is not all blank. -/
theorem Tight.trim_ne_nil (h : Tight (before ++ b :: word)) (hb : isBlank b = true) :
    trim before ≠ [] := by
  intro hnil
  rcases before with _ | ⟨d, ds⟩
  · exact absurd hb (by simp [h.head b rfl])
  · have hd := trim_eq_nil_iff.1 hnil d List.mem_cons_self
    exact absurd hd (by simp [h.head d rfl])

theorem tight_trim (hne : trim cs ≠ []) (hcomma : ',' ∉ cs) : Tight (trim cs) where
  ne_nil := hne
  head _ h := head?_trim h
  last _ h := getLast?_trimEnd h
  comma h := hcomma (mem_of_mem_trim h)

theorem tight_of_mem_items (h : item ∈ items cs) : Tight item := by
  obtain ⟨hmap, hne⟩ := List.mem_filter.1 h
  obtain ⟨part, hpart, rfl⟩ := List.mem_map.1 hmap
  exact tight_trim (by simpa using hne) (notMem_of_mem_pieces hpart (by decide))

/-- A direction and the space before it bring in letters and a space only. -/
theorem notMem_directed {c : Char} (hletter : c.isAlpha = false) (hspace : c ≠ ' ') (hcs : c ∉ cs)
    (hw : isDirection word = true) : c ∉ cs ++ ' ' :: word := by
  intro hc
  rcases List.mem_append.1 hc with hc | hc
  · exact hcs hc
  · rcases List.mem_cons.1 hc with hc | hc
    · exact hspace hc
    · exact absurd (isAlpha_of_isDirection hw c hc) (by simp [hletter])

theorem Tight.directed (h : Tight cs) (hw : isDirection word = true) :
    Tight (cs ++ ' ' :: word) where
  ne_nil := by simp
  head c hc := by
    obtain ⟨d, ds, rfl⟩ := List.exists_cons_of_ne_nil h.ne_nil
    exact h.head c hc
  last c hc := by
    obtain ⟨d, hlast, hletter⟩ := getLast?_direction hw cs ' '
    obtain rfl : d = c := Option.some_inj.1 (hlast.symm.trans hc)
    exact isBlank_of_isAlpha hletter
  comma := notMem_directed (by decide) (by decide) h.comma hw

/-! ### What is written for an item -/

/-- The column as it is written, with quotes around it or without. -/
def spelled (name : List Char) : List Char :=
  if standsBare name then name else Ident.quote :: name ++ [Ident.quote]

theorem compileItem_of_column (h : column item = (name, none)) :
    compileItem item = spelled name := by
  rw [compileItem, h]
  rfl

theorem compileItem_of_directed (h : column item = (name, some word)) :
    compileItem item = spelled name ++ ' ' :: word := by
  rw [compileItem, h]
  rfl

theorem standsBare_of_mem (h : Ident.quote ∈ cs) : standsBare cs = true := by
  rw [standsBare, Bool.or_eq_true]
  exact .inr (List.contains_iff_mem.2 h)

theorem standsBare_spelled (name : List Char) : standsBare (spelled name) = true := by
  rw [spelled]
  split
  · assumption
  · exact standsBare_of_mem (by simp)

theorem tight_quoted (h : ',' ∉ cs) : Tight (Ident.quote :: cs ++ [Ident.quote]) where
  ne_nil := by simp
  head c hc := by
    cases hc
    decide
  last c hc := by
    rw [List.getLast?_concat] at hc
    cases hc
    decide
  comma := by simpa using ⟨by decide, h, by decide⟩

theorem Tight.spelled (h : Tight name) : Tight (spelled name) := by
  rw [Order.spelled]
  split
  · exact h
  · exact tight_quoted h.comma

/-- An item that is written as it is. -/
inductive Settled : List Char → Prop
  | column {cs : List Char} (h : Tight cs) (hbare : standsBare cs = true)
      (hdir : ¬ EndsInDirection cs) : Settled cs
  | directed {cs word : List Char} (h : Tight cs) (hbare : standsBare cs = true)
      (hw : isDirection word = true) (hupper : word.map Char.toUpper = word) :
      Settled (cs ++ ' ' :: word)

theorem Settled.tight (h : Settled item) : Tight item := by
  rcases h with ⟨h, -, -⟩ | ⟨h, -, hw, -⟩
  · exact h
  · exact h.directed hw

theorem compileItem_of_settled (h : Settled item) : compileItem item = item := by
  rcases h with ⟨-, hbare, hdir⟩ | ⟨h, hbare, hw, hupper⟩
  · rw [compileItem_of_column (column_of_not hdir), spelled, if_pos hbare]
  · rw [compileItem_of_directed (column_of_direction (by decide) hw), h.trim_eq, hupper, spelled,
      if_pos hbare]

theorem settled_compileItem (h : Tight item) : Settled (compileItem item) := by
  by_cases hdir : EndsInDirection item
  · obtain ⟨before, b, word, rfl, hb, hw⟩ := hdir
    obtain ⟨hw', hupper⟩ := isDirection_upper hw
    rw [compileItem_of_directed (column_of_direction hb hw)]
    have htight : Tight (trim before) :=
      tight_trim (h.trim_ne_nil hb) fun hc => h.comma (List.mem_append_left _ hc)
    exact .directed htight.spelled (standsBare_spelled _) hw' hupper
  · rw [compileItem_of_column (column_of_not hdir)]
    refine .column h.spelled (standsBare_spelled _) ?_
    rw [spelled]
    split
    · exact hdir
    · exact not_endsInDirection List.getLast?_concat

/-! ### Lists -/

/-- A list is cut at its commas. -/
theorem items_append (cs ds : List Char) : items (cs ++ ',' :: ds) = items cs ++ items ds := by
  rw [items, pieces_append (by decide), List.map_append, List.filter_append, items, items]

theorem items_of_notMem (h : ',' ∉ cs) (hne : trim cs ≠ []) : items cs = [trim cs] := by
  have hpieces : pieces (· == ',') cs = [cs] :=
    pieces_of_forall fun c hc => beq_false_of_ne (ne_of_mem_of_not_mem hc h)
  simp [items, hpieces, hne]

/-- A blank at the front belongs to no item. -/
theorem items_cons_space (cs : List Char) : items (' ' :: cs) = items cs := by
  obtain ⟨part, parts, h⟩ := List.exists_cons_of_ne_nil (pieces_ne_nil (· == ',') cs)
  have hspace : pieces (· == ',') (' ' :: cs) = (' ' :: part) :: parts := by
    rw [pieces, h]
    rfl
  have htrim : trim (' ' :: part) = trim part := rfl
  rw [items, hspace, items, h, List.map_cons, htrim, List.map_cons]

theorem items_intercalate_tight {l : List (List Char)} (h : ∀ item ∈ l, Tight item) :
    items ([',', ' '].intercalate l) = l := by
  induction l with
  | nil => rfl
  | cons item l ih =>
    obtain ⟨hitem, hl⟩ := List.forall_mem_cons.1 h
    have hitems : items item = [item] := by
      rw [items_of_notMem hitem.comma (by rw [hitem.trim_eq]; exact hitem.ne_nil), hitem.trim_eq]
    by_cases hnil : l = []
    · rw [hnil, List.intercalate_singleton, hitems]
    · have happend : [',', ' '].intercalate (item :: l) =
          item ++ ',' :: (' ' :: [',', ' '].intercalate l) := by
        rw [List.intercalate_cons_of_ne_nil hnil]
        simp
      rw [happend, items_append, items_cons_space, ih hl, hitems, List.singleton_append]

/-- What compiling leaves alone: settled items with `, ` between them. -/
def SettledList (cs : List Char) : Prop :=
  ∃ l, cs = [',', ' '].intercalate l ∧ ∀ item ∈ l, Settled item

theorem settledList_compileChars (cs : List Char) : SettledList (compileChars cs) := by
  refine ⟨(items cs).map compileItem, rfl, ?_⟩
  intro _ hmem
  obtain ⟨item, hitem, rfl⟩ := List.mem_map.1 hmem
  exact settled_compileItem (tight_of_mem_items hitem)

theorem compileChars_eq_self_iff : compileChars cs = cs ↔ SettledList cs := by
  constructor
  · intro h
    rw [← h]
    exact settledList_compileChars cs
  · rintro ⟨l, rfl, hl⟩
    rw [compileChars, items_intercalate_tight fun item hitem => (hl item hitem).tight,
      List.map_congr_left fun item hitem => compileItem_of_settled (hl item hitem), List.map_id']

theorem toList_compile (s : String) : (compile s).toList = compileChars s.toList :=
  String.toList_ofList

theorem compile_eq_self_iff {s : String} : compile s = s ↔ SettledList s.toList := by
  rw [← String.toList_inj, toList_compile, compileChars_eq_self_iff]

example : compile "RAND(), `posts`.`id` DESC, `a``b` ASC" =
    "RAND(), `posts`.`id` DESC, `a``b` ASC" := by
  decide +kernel

/-- Compiling a second time changes nothing. -/
theorem compile_compile (s : String) : compile (compile s) = compile s := by
  rw [compile_eq_self_iff, toList_compile]
  exact settledList_compileChars s.toList

theorem SettledList.trim_eq (h : SettledList cs) : trim cs = cs := by
  obtain ⟨l, rfl, hl⟩ := h
  refine trim_eq_self ?_ ?_
  · intro c hc
    cases l with
    | nil => cases hc
    | cons item l =>
      have htight := (hl item List.mem_cons_self).tight
      rw [head?_intercalate htight.ne_nil] at hc
      exact htight.head c hc
  · intro c hc
    rcases List.eq_nil_or_concat l with rfl | ⟨l, item, rfl⟩
    · cases hc
    · rw [List.concat_eq_append] at hl hc
      have htight := (hl item List.mem_concat_self).tight
      rw [getLast?_intercalate htight.ne_nil] at hc
      exact htight.last c hc

/-- A compiled list has no blanks around it. -/
theorem trimmed_compile (s : String) : trimmed (compile s) = compile s := by
  have hsettled : SettledList (compile s).toList := compile_eq_self_iff.1 (compile_compile s)
  rw [trimmed, hsettled.trim_eq, String.ofList_toList]

end Order

end OneTable
