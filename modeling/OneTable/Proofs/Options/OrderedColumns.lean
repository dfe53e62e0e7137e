import OneTable.Proofs.Options.OrderLists

/-!
# Quoted columns in an order list

A list is cut at every comma, also at those inside of a quoted name. So a list of quoted names
orders by these names exactly if the quoted form of each is itself a list of settled items
(`Options.order_keeps_names_iff`). That of a name without a comma always is.
-/

namespace OneTable

namespace Order

open Text

variable {cs word : List Char}

/-! ### Joined lists -/

theorem items_intercalate {l : List (List Char)} :
    items ([','].intercalate l) = l.flatMap items := by
  induction l with
  | nil => rfl
  | cons cs l ih =>
    by_cases hnil : l = []
    · simp [hnil]
    · rw [List.intercalate_cons_of_ne_nil hnil, List.append_assoc, List.singleton_append,
        items_append, ih, List.flatMap_cons]

/-- Lists that are joined by commas are compiled one by one. -/
theorem compileChars_intercalate {l : List (List Char)} (h : ∀ cs ∈ l, items cs ≠ []) :
    compileChars ([','].intercalate l) = [',', ' '].intercalate (l.map compileChars) := by
  have hne : ∀ cs ∈ l, (items cs).map compileItem ≠ [] := fun cs hcs => by simpa using h cs hcs
  rw [compileChars, items_intercalate, List.map_flatMap, ← intercalate_flatMap hne]
  rfl

/-- A part without commas that ends in a quote is one item, also with a direction behind it. -/
theorem items_directed (hcomma : ',' ∉ cs) (hlast : cs.getLast? = some Ident.quote)
    (hw : isDirection word = true) :
    items cs = [trim cs] ∧ (trim cs).getLast? = some Ident.quote ∧
      items (cs ++ ' ' :: word) = [trim cs ++ ' ' :: word] := by
  have hquote : isBlank Ident.quote = false := by decide
  have hquoted : (trim cs).getLast? = some Ident.quote := by
    rw [trim_of_getLast? hlast hquote]
    exact getLast?_trimStart hlast hquote
  have hne : trim cs ≠ [] := by
    intro hnil
    rw [hnil] at hquoted
    cases hquoted
  obtain ⟨c, hword, hletter⟩ := getLast?_direction hw [] ' '
  have htrim : trim (cs ++ ' ' :: word) = trim cs ++ ' ' :: word :=
    trim_append hlast hquote hword (isBlank_of_isAlpha hletter)
  refine ⟨items_of_notMem hcomma hne, hquoted, ?_⟩
  rw [items_of_notMem (notMem_directed (by decide) (by decide) hcomma hw) (by simp [htrim]), htrim]

theorem compileChars_directed (h : cs.getLast? = some Ident.quote) (hw : isDirection word = true) :
    compileChars (cs ++ ' ' :: word) = compileChars cs ++ ' ' :: word.map Char.toUpper := by
  have hpart : ∀ ds, ',' ∉ ds → ds.getLast? = some Ident.quote →
      ∃ item, items ds = [item] ∧ items (ds ++ ' ' :: word) = [item ++ ' ' :: word] ∧
        compileItem (item ++ ' ' :: word) = compileItem item ++ ' ' :: word.map Char.toUpper := by
    intro ds hcomma hlast
    obtain ⟨hitems, hquote, hdirected⟩ := items_directed hcomma hlast hw
    have htight : Tight (trim ds) := tight_of_mem_items (by rw [hitems]; exact List.mem_cons_self)
    refine ⟨trim ds, hitems, hdirected, ?_⟩
    rw [compileItem_of_column (column_of_not (not_endsInDirection hquote)),
      compileItem_of_directed (column_of_direction (by decide) hw), htight.trim_eq]
  cases hsplit : splitLast? (· == ',') cs with
  | none =>
    have hcomma : ',' ∉ cs := fun hc => absurd (splitLast?_eq_none_iff.1 hsplit _ hc) (by decide)
    obtain ⟨item, hitems, hdirected, hcompile⟩ := hpart cs hcomma h
    rw [compileChars, compileChars, hitems, hdirected]
    simpa using hcompile
  | some parts =>
    obtain ⟨init, ds⟩ := parts
    obtain ⟨c, hc, rfl, hds⟩ := eq_of_splitLast? hsplit
    obtain rfl : c = ',' := by simpa using hc
    have hcomma : ',' ∉ ds := fun hc => absurd (hds _ hc) (by decide)
    have hlast : ds.getLast? = some Ident.quote := by
      rw [List.getLast?_append, List.getLast?_cons, Option.some_or] at h
      cases hlast : ds.getLast? with
      | none =>
        rw [hlast] at h
        exact absurd (Option.some_inj.1 h) (by decide)
      | some d => rwa [hlast] at h
    obtain ⟨item, hitems, hdirected, hcompile⟩ := hpart ds hcomma hlast
    rw [compileChars, List.append_assoc, List.cons_append, items_append, hdirected, compileChars,
      items_append, hitems, List.map_append, List.map_append, List.map_singleton,
      List.map_singleton, hcompile, intercalate_concat_append]

/-! ### Counting commas -/

theorem count_intercalate {l : List (List Char)} (h : ∀ cs ∈ l, ',' ∉ cs) :
    ([',', ' '].intercalate l).count ',' = l.length - 1 := by
  induction l with
  | nil => rfl
  | cons cs l ih =>
    obtain ⟨hcs, hl⟩ := List.forall_mem_cons.1 h
    by_cases hnil : l = []
    · simp [hnil, List.count_eq_zero.2 hcs]
    · have hpos := List.length_pos_iff.2 hnil
      rw [List.intercalate_cons_of_ne_nil hnil, List.count_append, List.count_append, ih hl,
        List.count_eq_zero.2 hcs]
      simp
      omega

/-- Compiling makes no commas. -/
theorem count_compileChars_le (cs : List Char) : (compileChars cs).count ',' ≤ cs.count ',' := by
  have hcomma : ∀ ds ∈ (items cs).map compileItem, ',' ∉ ds := by
    intro _ hmem
    obtain ⟨item, hitem, rfl⟩ := List.mem_map.1 hmem
    exact notMem_compileItem (by decide) (tight_of_mem_items hitem).comma
  have hlength : (items cs).length ≤ cs.count ',' + 1 := by
    have hpieces := List.length_filter_le (fun item : List Char => !item.isEmpty)
      ((pieces (· == ',') cs).map trim)
    rwa [List.length_map, length_pieces] at hpieces
  rw [compileChars, count_intercalate hcomma, List.length_map]
  omega

/-- Texts with the same number of commas before the same text are the same. -/
theorem append_inj_of_count {cs ds cs' ds' : List Char} (h : cs ++ ',' :: ds = cs' ++ ',' :: ds')
    (hcount : cs.count ',' = cs'.count ',') : cs = cs' ∧ ds = ds' := by
  induction cs generalizing cs' with
  | nil =>
    rcases cs' with _ | ⟨c, cs'⟩
    · exact ⟨rfl, (List.cons.inj h).2⟩
    · rw [← (List.cons.inj h).1] at hcount
      simp at hcount
  | cons c cs ih =>
    rcases cs' with _ | ⟨c', cs'⟩
    · rw [(List.cons.inj h).1] at hcount
      simp at hcount
    · obtain ⟨rfl, htail⟩ := List.cons.inj h
      rw [List.count_cons, List.count_cons, Nat.add_right_cancel_iff] at hcount
      obtain ⟨rfl, hds⟩ := ih htail hcount
      exact ⟨rfl, hds⟩

theorem count_intercalate_map_le {α : Type} {l : List α} {f g : α → List Char}
    (hle : ∀ a ∈ l, (f a).count ',' ≤ (g a).count ',') :
    ([',', ' '].intercalate (l.map f)).count ',' ≤
      ([',', ' '].intercalate (l.map g)).count ',' := by
  induction l with
  | nil => exact Nat.le_refl _
  | cons a l ih =>
    obtain ⟨ha, hl⟩ := List.forall_mem_cons.1 hle
    rcases l with _ | ⟨b, l⟩
    · simpa using ha
    · have htail := ih hl
      simp only [List.map_cons, List.intercalate_cons_cons, List.count_append] at htail ⊢
      omega

/-- Joined texts are the same only if each of them is, where none gains a comma. -/
theorem map_eq_of_intercalate_eq {α : Type} {l : List α} {f g : α → List Char}
    (hle : ∀ a ∈ l, (f a).count ',' ≤ (g a).count ',')
    (h : [',', ' '].intercalate (l.map f) = [',', ' '].intercalate (l.map g)) :
    ∀ a ∈ l, f a = g a := by
  induction l with
  | nil => simp
  | cons a l ih =>
    obtain ⟨ha, hl⟩ := List.forall_mem_cons.1 hle
    rcases l with _ | ⟨b, l⟩
    · simpa using h
    · have htail := count_intercalate_map_le hl
      have hcount := congrArg (List.count ',') h
      simp only [List.map_cons, List.intercalate_cons_cons, List.count_append] at htail hcount
      simp only [List.map_cons, List.intercalate_cons_cons, List.append_assoc, List.cons_append,
        List.nil_append] at h
      obtain ⟨hfirst, hrest⟩ := append_inj_of_count h (by omega)
      have hall := ih hl (List.cons.inj hrest).2
      exact List.forall_mem_cons.2 ⟨hfirst, hall⟩

/-! ### Quoted names -/

/-- A column to sort by as it is given: its name, and a direction in any case if there is one. -/
structure Key where
  name : String
  direction : Option String := none
  plain : ';' ∉ name.toList
  directed : ∀ word ∈ direction, isDirection word.toList = true

namespace Key

def given (k : Key) : String :=
  Ident.quoted k.name ++ match k.direction with
    | some word => " " ++ word
    | none => ""

/-- The column as it is sorted by, with its direction in upper case. -/
def sorted (k : Key) : String :=
  Ident.quoted k.name ++ match k.direction with
    | some word => " " ++ upper word
    | none => ""

/-- The name is kept: between quotes it is a list of settled items, the commas in it included. -/
def Kept (k : Key) : Prop := SettledList (Ident.encode k.name.toList)

theorem toList_cases (k : Key) :
    (k.given.toList = Ident.encode k.name.toList ∧ k.sorted.toList = Ident.encode k.name.toList) ∨
      ∃ word, isDirection word = true ∧
        k.given.toList = Ident.encode k.name.toList ++ ' ' :: word ∧
        k.sorted.toList = Ident.encode k.name.toList ++ ' ' :: word.map Char.toUpper := by
  rw [given, sorted]
  cases hword : k.direction with
  | none => exact .inl (by simp [Ident.toList_quoted])
  | some word =>
    refine .inr ⟨word.toList, k.directed word hword, ?_, ?_⟩
    · simp [Ident.toList_quoted]
    · simp [Ident.toList_quoted, toList_upper]

theorem compileChars_given_iff (k : Key) :
    compileChars k.given.toList = k.sorted.toList ↔ k.Kept := by
  have hlast : (Ident.encode k.name.toList).getLast? = some Ident.quote := List.getLast?_concat
  rw [Kept, ← compileChars_eq_self_iff]
  rcases k.toList_cases with ⟨hgiven, hsorted⟩ | ⟨word, hw, hgiven, hsorted⟩
  · rw [hgiven, hsorted]
  · rw [hgiven, hsorted, compileChars_directed hlast hw, List.append_left_inj]

theorem count_compileChars_given_le (k : Key) :
    (compileChars k.given.toList).count ',' ≤ k.sorted.toList.count ',' := by
  refine Nat.le_trans (count_compileChars_le _) ?_
  rcases k.toList_cases with ⟨hgiven, hsorted⟩ | ⟨word, hw, hgiven, hsorted⟩
  · rw [hgiven, hsorted]
  · have hcomma := notMem_directed (c := ',') (by decide) (by decide) List.not_mem_nil hw
    rw [List.nil_append] at hcomma
    rw [hgiven, hsorted, List.count_append, List.count_append, List.count_eq_zero.2 hcomma]
    exact Nat.le_add_right _ _

theorem exists_given_cons (k : Key) : ∃ cs, k.given.toList = Ident.quote :: cs := by
  rcases k.toList_cases with ⟨hgiven, -⟩ | ⟨word, -, hgiven, -⟩
  · exact ⟨_, hgiven⟩
  · exact ⟨_, hgiven⟩

theorem items_given_ne_nil (k : Key) : items k.given.toList ≠ [] := by
  obtain ⟨cs, hcs⟩ := k.exists_given_cons
  obtain ⟨part, parts, hparts⟩ := List.exists_cons_of_ne_nil (pieces_ne_nil (· == ',') cs)
  have hpieces : pieces (· == ',') (Ident.quote :: cs) = (Ident.quote :: part) :: parts := by
    rw [pieces, hparts]
    rfl
  have hne : trim (Ident.quote :: part) ≠ [] := by
    intro hnil
    exact absurd (trim_eq_nil_iff.1 hnil _ List.mem_cons_self) (by decide)
  rw [hcs, items, hpieces, List.map_cons, List.filter_cons_of_pos (by simpa using hne)]
  exact List.cons_ne_nil _ _

theorem isBlank_getLast?_given (k : Key) {c : Char} (h : k.given.toList.getLast? = some c) :
    isBlank c = false := by
  rcases k.toList_cases with ⟨hgiven, -⟩ | ⟨word, hw, hgiven, -⟩
  · rw [hgiven, Ident.encode, List.getLast?_concat] at h
    cases h
    decide
  · obtain ⟨d, hlast, hletter⟩ := getLast?_direction hw (Ident.encode k.name.toList) ' '
    rw [hgiven, hlast] at h
    cases h
    exact isBlank_of_isAlpha hletter

theorem semicolon_notMem_given (k : Key) : ';' ∉ k.given.toList := by
  have hname : ';' ∉ Ident.encode k.name.toList := by
    rw [← Ident.toList_quoted, Ident.mem_quoted_iff (by decide)]
    exact k.plain
  rcases k.toList_cases with ⟨hgiven, -⟩ | ⟨word, hw, hgiven, -⟩
  · rwa [hgiven]
  · rw [hgiven]
    exact notMem_directed (by decide) (by decide) hname hw

/-- A name without a comma is kept. -/
theorem kept_of_no_comma (k : Key) (h : ',' ∉ k.name.toList) : k.Kept := by
  have hlast : (Ident.encode k.name.toList).getLast? = some Ident.quote := List.getLast?_concat
  have htight : Tight (Ident.encode k.name.toList) := by
    rw [← Ident.mem_quoted_iff (by decide), Ident.toList_quoted] at h
    exact tight_quoted fun hc => h (by simp [Ident.encode, hc])
  refine ⟨[Ident.encode k.name.toList], List.intercalate_singleton.symm, ?_⟩
  intro _ hmem
  rw [List.mem_singleton.1 hmem]
  exact .column htight (standsBare_of_mem List.mem_cons_self) (not_endsInDirection hlast)

end Key

variable {keys : List Key}

theorem compileChars_given_eq_iff :
    compileChars ([','].intercalate (keys.map fun k => k.given.toList)) =
        [',', ' '].intercalate (keys.map fun k => k.sorted.toList) ↔ ∀ k ∈ keys, k.Kept := by
  have hitems : ∀ cs ∈ keys.map fun k => k.given.toList, items cs ≠ [] := by
    intro _ hmem
    obtain ⟨k, -, rfl⟩ := List.mem_map.1 hmem
    exact k.items_given_ne_nil
  have hcompile : compileChars ([','].intercalate (keys.map fun k => k.given.toList)) =
      [',', ' '].intercalate (keys.map fun k => compileChars k.given.toList) := by
    rw [compileChars_intercalate hitems, List.map_map, Function.comp_def]
  rw [hcompile]
  constructor
  · intro h k hk
    have hall := map_eq_of_intercalate_eq (fun k _ => k.count_compileChars_given_le) h
    exact k.compileChars_given_iff.1 (hall k hk)
  · intro h
    have hmap : keys.map (fun k => compileChars k.given.toList) =
        keys.map fun k => k.sorted.toList :=
      List.map_congr_left fun k hk => k.compileChars_given_iff.2 (h k hk)
    rw [hmap]

/-- The columns as they are given, with commas between them. -/
def joined (keys : List Key) : String := ",".intercalate (keys.map Key.given)

theorem toList_joined (keys : List Key) :
    (joined keys).toList = [','].intercalate (keys.map fun k => k.given.toList) := by
  rw [joined, String.toList_intercalate, List.map_map]
  rfl

theorem semicolon_notMem_joined (keys : List Key) : ';' ∉ (joined keys).toList := by
  rw [toList_joined, mem_intercalate_iff (by decide)]
  rintro ⟨_, hmem, hc⟩
  obtain ⟨k, -, rfl⟩ := List.mem_map.1 hmem
  exact k.semicolon_notMem_given hc

theorem exists_joined_cons (hne : keys ≠ []) :
    ∃ cs, (joined keys).toList = Ident.quote :: cs := by
  obtain ⟨k, ks, rfl⟩ := List.exists_cons_of_ne_nil hne
  obtain ⟨cs, hcs⟩ := k.exists_given_cons
  rw [toList_joined, List.map_cons, hcs]
  rcases ks with _ | ⟨k', ks⟩
  · exact ⟨cs, List.intercalate_singleton⟩
  · rw [List.map_cons, List.intercalate_cons_cons]
    exact ⟨_, rfl⟩

theorem trimmed_joined (hne : keys ≠ []) : trimmed (joined keys) = joined keys := by
  have hhead : ∀ c, (joined keys).toList.head? = some c → isBlank c = false := by
    intro c hc
    obtain ⟨cs, hcs⟩ := exists_joined_cons hne
    rw [hcs] at hc
    cases hc
    decide
  have hlast : ∀ c, (joined keys).toList.getLast? = some c → isBlank c = false := by
    intro c hc
    obtain ⟨ks, k, rfl⟩ := (List.eq_nil_or_concat keys).resolve_left hne
    have hgiven : k.given.toList ≠ [] := by
      obtain ⟨cs, hcs⟩ := k.exists_given_cons
      rw [hcs]
      exact List.cons_ne_nil _ _
    rw [toList_joined, List.concat_eq_append, List.map_append, List.map_singleton,
      getLast?_intercalate hgiven] at hc
    exact k.isBlank_getLast?_given hc
  rw [trimmed, trim_eq_self hhead hlast, String.ofList_toList]

end Order

namespace Options

open OneTable.Order

variable {s : String}

/-- The clauses behind ORDER BY. -/
def afterOrder : Options → String
  | .raw _ => ""
  | .entries e =>
    "".intercalate (e.toList.map fun (name, value) => passed name value) ++
      limitClause (.entries e) ++ clause "OFFSET" (first? (.entries e) ["offset"])

theorem first?_set_order (e : Fields String) (hs : s ≠ "") (hcut : ';' ∉ s.toList)
    (htrim : Text.trimmed s = s) :
    (set (.entries e) "order" s).first? ["order", "order_by"] = some s := by
  have hget : (set (.entries e) "order" s).get? "order" = some s := by
    rw [set, get?, Fields.get?_insert, if_pos rfl, Option.map_some, cut_eq_self hcut]
  have hne : s.toList ≠ [] := mt String.toList_eq_nil_iff.1 hs
  rw [first?, List.filterMap_cons_some hget, List.map_cons, htrim, List.find?_cons_of_pos]
  simp [hne]

/-- The ORDER BY clause in its place. -/
theorem compile_of_order {e : Fields String}
    (h : first? (.entries e) ["order", "order_by"] = some s) :
    compile (.entries e) = clause "GROUP BY" (first? (.entries e) ["group", "group_by"]) ++
      (" ORDER BY " ++ Order.compile s) ++ afterOrder (.entries e) := by
  have hclause : clause "ORDER BY" (some (Order.compile s)) = " ORDER BY " ++ Order.compile s := rfl
  rw [compile, h, afterOrder, Option.map_some, hclause]
  simp only [String.append_assoc]

theorem compile_set_order (e : Fields String) (hs : s ≠ "") (hcut : ';' ∉ s.toList)
    (htrim : Text.trimmed s = s) :
    (set (.entries e) "order" s).compile =
      clause "GROUP BY" ((set (.entries e) "order" s).first? ["group", "group_by"]) ++
        (" ORDER BY " ++ Order.compile s) ++ afterOrder (set (.entries e) "order" s) :=
  compile_of_order (first?_set_order e hs hcut htrim)

/-- Whatever the other options are, a list of quoted columns with a direction behind each or none,
joined by commas, orders by these columns in their order, with the directions in upper case, exactly
if every name is kept; and a name without a comma is. -/
theorem order_keeps_names_iff (e : Fields String) {keys : List Key} (hne : keys ≠ []) :
    let o := set (.entries e) "order" (joined keys)
    (o.compile = clause "GROUP BY" (o.first? ["group", "group_by"]) ++
          (" ORDER BY " ++ ", ".intercalate (keys.map Key.sorted)) ++ o.afterOrder ↔
        ∀ k ∈ keys, k.Kept) ∧
      ∀ k ∈ keys, ',' ∉ k.name.toList → k.Kept := by
  have hjoined : joined keys ≠ "" := by
    intro hnil
    obtain ⟨cs, hcs⟩ := exists_joined_cons hne
    rw [hnil] at hcs
    cases hcs
  have hsorted : (", ".intercalate (keys.map Key.sorted)).toList =
      [',', ' '].intercalate (keys.map fun k => k.sorted.toList) := by
    rw [String.toList_intercalate, List.map_map]
    rfl
  refine ⟨?_, fun k _ h => k.kept_of_no_comma h⟩
  rw [compile_set_order e hjoined (semicolon_notMem_joined keys) (trimmed_joined hne),
    ← compileChars_given_eq_iff, ← toList_joined, ← hsorted, ← String.toList_inj]
  simp only [String.toList_append, List.append_cancel_right_eq, List.append_cancel_left_eq,
    Order.compile, String.toList_ofList]

/-- Names that hold a quote and a comma, blanks at both ends and a direction. -/
theorem order_keeps_names_odd :
    (set .empty "order" "`a``, b` dEsC,` c `,`d desc` asc").compile =
      " ORDER BY `a``, b` DESC, ` c `, `d desc` ASC" := by
  let keys : List Key := [⟨"a\x60, b", some "dEsC", by decide, by simp; decide⟩,
    ⟨" c ", none, by decide, by simp⟩, ⟨"d desc", some "asc", by decide, by simp; decide⟩]
  have hkept : ∀ k ∈ keys, k.Kept := by
    intro k hk
    exact compileChars_eq_self_iff.1 (by revert k; decide)
  have hne : keys ≠ [] := List.cons_ne_nil _ _
  have h := (order_keeps_names_iff {} hne).1.2 hkept
  exact h.trans (by decide +kernel)

/-- A quoted name with a comma in it is taken for several items: a space is put behind the comma,
and quotes around what stands between two. -/
theorem order_splits_quoted_name :
    (set .empty "order" (Ident.quoted "a,b")).compile = " ORDER BY `a, b`" ∧
      (set .empty "order" (Ident.quoted "x,id,y")).compile = " ORDER BY `x, `id`, y`" ∧
      (set .empty "order" (Ident.quoted "a,b")).compile ≠ " ORDER BY " ++ Ident.quoted "a,b" := by
  decide +kernel

end Options

end OneTable
