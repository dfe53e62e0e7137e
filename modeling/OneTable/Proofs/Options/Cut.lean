import Mathlib.Data.List.TakeWhile
import OneTable.Proofs.Options.Agreement

/-!
# Option texts and the `;`

A text is cut at its first `;` when it is looked up, so no text among options brings a `;` into a
statement (`semicolon_notMem_of_first?`). The name of an option without a place of its own is
written as it is; it is the only way for a `;` to get through (`semicolon_mem_compile_iff`).

What stands behind the first `;` is not looked at either. Options that differ only there are
`Alike`, and so agree in whatever a statement uses of them.
-/

namespace OneTable

/-! ### Order lists -/

namespace Order

variable {cs item : List Char}

theorem mem_of_mem_items {c : Char} (hi : item ∈ items cs) (hc : c ∈ item) : c ∈ cs := by
  obtain ⟨hi, -⟩ := List.mem_filter.1 hi
  obtain ⟨part, hpart, rfl⟩ := List.mem_map.1 hi
  exact Text.mem_of_mem_pieces hpart (Text.mem_of_mem_trim hc)

/-- The column of an item is part of it, and a direction is `ASC` or `DESC`. -/
theorem column_parts (item : List Char) :
    (∀ c ∈ (column item).1, c ∈ item) ∧
      ∀ word ∈ (column item).2, word = ['A', 'S', 'C'] ∨ word = ['D', 'E', 'S', 'C'] := by
  unfold column
  split
  · rename_i before word hsplit
    obtain ⟨d, -, hitem, -⟩ := Text.eq_of_splitLast? hsplit
    split
    · rename_i hdir
      refine ⟨fun c hc => ?_, ?_⟩
      · rw [hitem]
        exact List.mem_append_left _ (Text.mem_of_mem_trim hc)
      · rintro _ ⟨⟩
        simpa [isDirection] using hdir
    · exact ⟨fun _ hc => hc, fun _ h => nomatch h⟩
  · exact ⟨fun _ hc => hc, fun _ h => nomatch h⟩

/-- Besides the characters of an item only quotes, a space and the letters of a direction are
written. -/
theorem notMem_compileItem {c : Char} (hc : c ∉ "\x60 ASCDE".toList) (h : c ∉ item) :
    c ∉ compileItem item := by
  obtain ⟨hname, hword⟩ := column_parts item
  have hcolumn : c ∉ (column item).1 := fun hmem => h (hname _ hmem)
  have hquoted : c ∉ (if standsBare (column item).1 then (column item).1
      else '\x60' :: (column item).1 ++ ['\x60']) := by
    split
    · exact hcolumn
    · have hquote : c ≠ '\x60' := by
        rintro rfl
        exact hc (by decide)
      simp [hcolumn, hquote]
  simp only [compileItem]
  cases hdir : (column item).2 with
  | none => exact hquoted
  | some word =>
    have hplain : ∀ d ∈ ' ' :: word, d ∈ "\x60 ASCDE".toList := by
      rcases hword word hdir with rfl | rfl <;> simp
    intro hmem
    rcases List.mem_append.1 hmem with hmem | hmem
    · exact hquoted hmem
    · exact hc (hplain c hmem)

theorem semicolon_notMem_compile {order : String} (h : ';' ∉ order.toList) :
    ';' ∉ (compile order).toList := by
  rw [compile, String.toList_ofList, compileChars, Text.mem_intercalate_iff (by decide)]
  rintro ⟨_, hmem, hc⟩
  obtain ⟨item, hitem, rfl⟩ := List.mem_map.1 hmem
  exact notMem_compileItem (by decide) (fun hi => h (mem_of_mem_items hitem hi)) hc

end Order

namespace Options

variable {o o' : Options} {name s : String} {names : List String}

/-! ### Texts are cut -/

theorem semicolon_notMem_cut (s : String) : ';' ∉ (cut s).toList := by
  rw [cut, String.toList_ofList]
  intro h
  exact absurd (List.mem_takeWhile_imp h) (by decide)

theorem cut_eq_self (h : ';' ∉ s.toList) : cut s = s := by
  have hall : ∀ c ∈ s.toList, decide (c ≠ ';') = true := fun c hc =>
    decide_eq_true (ne_of_mem_of_not_mem hc h)
  rw [cut, List.takeWhile_eq_self_iff.2 hall, String.ofList_toList]

theorem cut_cut (s : String) : cut (cut s) = cut s := cut_eq_self (semicolon_notMem_cut s)

theorem semicolon_notMem_of_get? (h : o.get? name = some s) : ';' ∉ s.toList := by
  cases o with
  | entries e =>
    obtain ⟨value, -, rfl⟩ := Option.map_eq_some_iff.1 h
    exact semicolon_notMem_cut value
  | raw clause => cases h

/-- No text that is looked up among options holds a `;`. -/
theorem semicolon_notMem_of_first? (h : o.first? names = some s) : ';' ∉ s.toList := by
  obtain ⟨value, hvalue, rfl⟩ := List.mem_map.1 (List.mem_of_find?_eq_some h)
  obtain ⟨name, -, hget⟩ := List.mem_filterMap.1 hvalue
  rw [Text.toList_trimmed]
  exact fun hc => semicolon_notMem_of_get? hget (Text.mem_of_mem_trim hc)

theorem semicolon_notMem_projection (o : Options) : ';' ∉ o.projection.toList := by
  rw [projection, selected?]
  cases h : o.first? ["select"] with
  | none => decide
  | some s => exact semicolon_notMem_of_first? h

theorem semicolon_notMem_operator (o : Options) : ';' ∉ o.operator.toList := by
  rw [operator]
  cases h : o.first? ["operator"] with
  | none => decide
  | some s => exact semicolon_notMem_of_first? h

theorem semicolon_mem_clause_iff (word s : String) :
    ';' ∈ (clause word (some s)).toList ↔ ';' ∈ word.toList ∨ ';' ∈ s.toList := by
  simp [clause]

theorem semicolon_notMem_clause {word : String} (hword : ';' ∉ word.toList) {text : Option String}
    (h : ∀ s ∈ text, ';' ∉ s.toList) : ';' ∉ (clause word text).toList := by
  cases text with
  | none => exact List.not_mem_nil
  | some s =>
    rw [semicolon_mem_clause_iff, not_or]
    exact ⟨hword, h s rfl⟩

theorem semicolon_notMem_limitClause (o : Options) : ';' ∉ o.limitClause.toList :=
  semicolon_notMem_clause (by decide) fun _ => semicolon_notMem_of_first?

/-! ### Names that are passed on -/

/-- The names of the options that are passed on with a text behind them. -/
def passedNames : Options → List String
  | .entries e =>
    (e.toList.filter fun p =>
      !placed.contains p.1 && !(Text.trimmed (cut p.2)).toList.isEmpty).map Prod.fst
  | .raw _ => []

/-- No option is passed on under a name with a `;`. -/
def PlainlyNamed (o : Options) : Prop := ∀ name ∈ o.passedNames, ';' ∉ name.toList

instance (o : Options) : Decidable o.PlainlyNamed :=
  inferInstanceAs (Decidable (∀ name ∈ o.passedNames, ';' ∉ name.toList))

theorem semicolon_mem_passed_iff (name value : String) :
    ';' ∈ (passed name value).toList ↔ (!placed.contains name &&
      !(Text.trimmed (cut value)).toList.isEmpty) = true ∧ ';' ∈ name.toList := by
  have hvalue : ';' ∉ (Text.trimmed (cut value)).toList := by
    rw [Text.toList_trimmed]
    exact fun hc => semicolon_notMem_cut value (Text.mem_of_mem_trim hc)
  rw [passed]
  split
  · rename_i h
    rw [← Bool.not_or, h]
    simp
  · rename_i h
    rw [← Bool.not_or, eq_false_of_ne_true h, semicolon_mem_clause_iff,
      Text.mem_upper_iff (by decide), or_iff_left hvalue]
    simp

/-- A `;` gets behind the condition of a statement in the name of an option alone. -/
theorem semicolon_mem_compile_iff (o : Options) :
    ';' ∈ o.compile.toList ↔ ∃ name ∈ o.passedNames, ';' ∈ name.toList := by
  cases o with
  | raw s =>
    have hraw : ';' ∉ (compile (.raw s)).toList := by
      rw [compile]
      split
      · exact List.not_mem_nil
      · simp [semicolon_notMem_cut]
    simp [hraw, passedNames]
  | entries e =>
    have hgroup : ';' ∉ (clause "GROUP BY"
        (first? (.entries e) ["group", "group_by"])).toList :=
      semicolon_notMem_clause (by decide) fun _ => semicolon_notMem_of_first?
    have horder : ';' ∉ (clause "ORDER BY"
        ((first? (.entries e) ["order", "order_by"]).map Order.compile)).toList := by
      refine semicolon_notMem_clause (by decide) fun s hs => ?_
      obtain ⟨order, horder, rfl⟩ := Option.map_eq_some_iff.1 hs
      exact Order.semicolon_notMem_compile (semicolon_notMem_of_first? horder)
    have hoffset : ';' ∉ (clause "OFFSET" (first? (.entries e) ["offset"])).toList :=
      semicolon_notMem_clause (by decide) fun _ => semicolon_notMem_of_first?
    have hlimit := semicolon_notMem_limitClause (.entries e)
    simp only [compile, passedNames, String.toList_append, List.mem_append, hgroup, horder, hlimit,
      hoffset, false_or, or_false, String.toList_intercalate, List.map_map, List.mem_map,
      List.mem_filter]
    rw [Text.mem_intercalate_iff (by decide)]
    constructor
    · rintro ⟨_, hmem, hc⟩
      obtain ⟨p, hp, rfl⟩ := List.mem_map.1 hmem
      obtain ⟨hpassed, hname⟩ := (semicolon_mem_passed_iff p.1 p.2).1 hc
      exact ⟨p.1, ⟨p, ⟨hp, hpassed⟩, rfl⟩, hname⟩
    · rintro ⟨_, ⟨p, ⟨hp, hpassed⟩, rfl⟩, hname⟩
      exact ⟨_, List.mem_map.2 ⟨p, hp, rfl⟩, (semicolon_mem_passed_iff p.1 p.2).2 ⟨hpassed, hname⟩⟩

theorem PlainlyNamed.semicolon_notMem_compile (h : o.PlainlyNamed) : ';' ∉ o.compile.toList := by
  rw [semicolon_mem_compile_iff]
  rintro ⟨name, hname, hc⟩
  exact h name hname hc

/-- Behind the condition of a statement that changes rows nothing is passed on. -/
theorem semicolon_notMem_updateTail (o : Options) : ';' ∉ o.updateTail.toList := by
  cases o with
  | entries e => exact semicolon_notMem_limitClause (.entries e)
  | raw s =>
    show ';' ∉ (compile (.raw s)).toList
    rw [semicolon_mem_compile_iff]
    simp [passedNames]

/-! ### What stands behind a `;` -/

/-- The entries with their texts cut. -/
def cutEntries (e : Fields String) : List (String × String) := e.toList.map fun p => (p.1, cut p.2)

/-- Both are raw clauses, or both have the same names in the same order, and the texts are the same
up to their first `;`. -/
inductive Alike : Options → Options → Prop
  | entries {e e' : Fields String} (h : cutEntries e = cutEntries e') :
    Alike (.entries e) (.entries e')
  | raw {s s' : String} (h : cut s = cut s') : Alike (.raw s) (.raw s')

theorem get?_entries (e : Fields String) (name : String) :
    get? (.entries e) name =
      ((cutEntries e).find? fun p => p.1 == Text.lower name).map Prod.snd := by
  rw [cutEntries, List.find?_map, Option.map_map, get?, Fields.get?, Option.map_map]
  rfl

theorem contains_entries (e : Fields String) (name : String) :
    contains (.entries e) name = (cutEntries e).any fun p => p.1 == Text.lower name := by
  rw [cutEntries, List.any_map]
  rfl

theorem cutEntries_insert (e : Fields String) (name value : String) :
    cutEntries (e.insert name value) = upsert Prod.fst (name, cut value) (cutEntries e) :=
  map_upsert Prod.fst Prod.fst (fun p => (p.1, cut p.2)) (fun _ => rfl) (name, value) e.toList

theorem passed_cut (name value : String) : passed name (cut value) = passed name value := by
  rw [passed, cut_cut, passed]

namespace Alike

theorem get?_eq (h : o.Alike o') (name : String) : o.get? name = o'.get? name := by
  cases h with
  | entries h => rw [get?_entries, get?_entries, h]
  | raw h => rfl

theorem contains_eq (h : o.Alike o') (name : String) : o.contains name = o'.contains name := by
  cases h with
  | entries h => rw [contains_entries, contains_entries, h]
  | raw h => rfl

/-- A statement makes no difference between them. -/
theorem agree (h : o.Alike o') : o.Agree o' := by
  have hget := h.get?_eq
  cases h with
  | @raw s s' h =>
    have hcompile : compile (.raw s) = compile (.raw s') := by rw [compile, compile, h]
    exact ⟨hget, hcompile, hcompile⟩
  | @entries e e' h =>
    have hpassed : ∀ e : Fields String, (e.toList.map fun p => passed p.1 p.2) =
        (cutEntries e).map fun p => passed p.1 p.2 := fun e => by
      rw [cutEntries, List.map_map]
      exact List.map_congr_left fun p _ => (passed_cut p.1 p.2).symm
    refine agree_entries hget ?_
    rw [hpassed, hpassed, h]

/-- A default goes to both or to neither. -/
theorem setDefault (h : o.Alike o') (name value : String) :
    (o.setDefault name value).Alike (o'.setDefault name value) := by
  have hcontains := h.contains_eq name
  cases h with
  | raw h => exact .raw h
  | @entries e e' h =>
    have hcontains : e.contains (Text.lower name) = e'.contains (Text.lower name) := hcontains
    rw [Options.setDefault, Options.setDefault, hcontains]
    split
    · exact .entries h
    · exact .entries (by rw [cutEntries_insert, cutEntries_insert, h])

end Alike

end Options

end OneTable
