import OneTable.Fields
import OneTable.Toml.Reader

/-!
# Keys of a TOML document

No table that the reader returns has a key twice, whether it has a header, is made of dotted keys or
stands in braces (`distinctKeys_of_parse?`). Tables grow by one key at a time, and a key that is
there already is changed in its place or refused (`names_alter?`).
-/

namespace OneTable.Toml

/-- No table in the value has a key twice. -/
inductive DistinctKeys : Toml → Prop
  | scalar {v : Toml} (harray : ∀ items, v ≠ .array items) (htable : ∀ entries, v ≠ .table entries) :
    DistinctKeys v
  | array {items : List Toml} (values : ∀ v ∈ items, DistinctKeys v) : DistinctKeys (.array items)
  | table {entries : List (String × Toml)} (names : (entries.map Prod.fst).Nodup)
    (values : ∀ e ∈ entries, DistinctKeys e.2) : DistinctKeys (.table entries)

theorem distinctKeys_table_iff {entries : List (String × Toml)} :
    DistinctKeys (.table entries) ↔
      (entries.map Prod.fst).Nodup ∧ ∀ e ∈ entries, DistinctKeys e.2 := by
  constructor
  · rintro (⟨-, htable⟩ | _ | ⟨names, values⟩)
    · exact absurd rfl (htable entries)
    · exact ⟨names, values⟩
  · rintro ⟨names, values⟩
    exact .table names values

namespace Node

/-- No table at the node or below it has a key twice. -/
inductive DistinctKeys : Node → Prop
  | value {v : Toml} (h : v.DistinctKeys) : DistinctKeys (.value v)
  | table {origin : Origin} {entries : Entries} (names : (entries.map Prod.fst).Nodup)
    (nodes : ∀ e ∈ entries, DistinctKeys e.2) : DistinctKeys (.table origin entries)
  | tables {items : List Entries} (names : ∀ es ∈ items, (es.map Prod.fst).Nodup)
    (nodes : ∀ es ∈ items, ∀ e ∈ es, DistinctKeys e.2) : DistinctKeys (.tables items)

/-- The entries of a table without a key twice, at any depth. -/
structure Entries.DistinctKeys (es : Entries) : Prop where
  names : (es.map Prod.fst).Nodup
  nodes : ∀ e ∈ es, Node.DistinctKeys e.2

variable {f : Option Node → Option Node} {key : String} {es es' : Entries} {v : Toml}

theorem Entries.distinctKeys_nil : Entries.DistinctKeys [] := ⟨List.nodup_nil, nofun⟩

theorem Entries.DistinctKeys.toTable (h : es.DistinctKeys) (origin : Origin) :
    Node.DistinctKeys (.table origin es) :=
  .table h.names h.nodes

theorem DistinctKeys.ofTable {origin : Origin} (h : DistinctKeys (.table origin es)) :
    es.DistinctKeys := by
  cases h with
  | table names nodes => exact ⟨names, nodes⟩

theorem distinctKeys_tables_cons_iff {items : List Entries} :
    DistinctKeys (.tables (es :: items)) ↔ es.DistinctKeys ∧ DistinctKeys (.tables items) := by
  constructor
  · rintro (_ | _ | ⟨names, nodes⟩)
    rw [List.forall_mem_cons] at names nodes
    exact ⟨⟨names.1, nodes.1⟩, .tables names.2 nodes.2⟩
  · rintro ⟨⟨name, node⟩, _ | _ | ⟨names, nodes⟩⟩
    exact .tables (List.forall_mem_cons.2 ⟨name, names⟩) (List.forall_mem_cons.2 ⟨node, nodes⟩)

/-! ### Growing a table -/

/-- A key that is there keeps its place, and a new one goes to the end. -/
theorem names_alter? (h : alter? key f es = some es') :
    es'.map Prod.fst =
      if key ∈ es.map Prod.fst then es.map Prod.fst else es.map Prod.fst ++ [key] := by
  induction es generalizing es' with
  | nil =>
    obtain ⟨n, -, rfl⟩ := Option.map_eq_some_iff.1 h
    rfl
  | cons e es ih =>
    rw [alter?] at h
    split at h
    · rename_i hkey
      obtain ⟨n, -, rfl⟩ := Option.map_eq_some_iff.1 h
      simp [beq_iff_eq.1 hkey]
    · rename_i hkey
      obtain ⟨es', hes', rfl⟩ := Option.map_eq_some_iff.1 h
      have hne : ¬ key = e.1 := fun heq => hkey (beq_iff_eq.2 heq.symm)
      rw [List.map_cons, ih hes', List.map_cons]
      by_cases hmem : key ∈ es.map Prod.fst <;> simp [hmem, hne]

theorem nodup_alter? (h : alter? key f es = some es') (hes : (es.map Prod.fst).Nodup) :
    (es'.map Prod.fst).Nodup := by
  rw [names_alter? h]
  exact nodup_append_new _ hes

/-- What changes a node, or makes one, without giving a table a key twice. -/
def KeepsDistinct (f : Option Node → Option Node) : Prop :=
  ∀ o n, (∀ m, o = some m → m.DistinctKeys) → f o = some n → n.DistinctKeys

theorem KeepsDistinct.alter? (hf : KeepsDistinct f) (hes : es.DistinctKeys)
    (h : alter? key f es = some es') : es'.DistinctKeys := by
  refine ⟨nodup_alter? h hes.names, ?_⟩
  replace hes := hes.nodes
  induction es generalizing es' with
  | nil =>
    obtain ⟨n, hn, rfl⟩ := Option.map_eq_some_iff.1 h
    exact List.forall_mem_singleton.2 (hf none n (fun _ => nofun) hn)
  | cons e es ih =>
    rw [List.forall_mem_cons] at hes
    rw [Node.alter?] at h
    split at h
    · obtain ⟨n, hn, rfl⟩ := Option.map_eq_some_iff.1 h
      refine List.forall_mem_cons.2 ⟨hf _ n ?_ hn, hes.2⟩
      rintro m ⟨⟩
      exact hes.1
    · obtain ⟨es', hes', rfl⟩ := Option.map_eq_some_iff.1 h
      exact List.forall_mem_cons.2 ⟨hes.1, ih hes' hes.2⟩

theorem keepsDistinct_fresh? (hv : v.DistinctKeys) : KeepsDistinct (fresh? v) := by
  rintro (_ | m) n - hn
  · cases hn
    exact .value hv
  · cases hn

theorem distinctKeys_put? (hv : v.DistinctKeys) {path : List String} (hes : es.DistinctKeys)
    (h : put? v path es = some es') : es'.DistinctKeys := by
  induction path generalizing es es' with
  | nil => cases h
  | cons key path ih =>
    rcases path with _ | ⟨next, path⟩
    · exact (keepsDistinct_fresh? hv).alter? hes h
    · refine KeepsDistinct.alter? (fun o n ho hn => ?_) hes h
      rcases o with _ | (v | ⟨origin, inner⟩ | (_ | ⟨inner, earlier⟩))
      · obtain ⟨inner', hput, rfl⟩ := Option.map_eq_some_iff.1 hn
        exact (ih Entries.distinctKeys_nil hput).toTable .dotted
      · cases hn
      · dsimp only at hn
        split at hn
        · obtain ⟨inner', hput, rfl⟩ := Option.map_eq_some_iff.1 hn
          exact (ih (ho _ rfl).ofTable hput).toTable origin
        · cases hn
      · cases hn
      · dsimp only at hn
        split at hn
        · obtain ⟨inner', hput, rfl⟩ := Option.map_eq_some_iff.1 hn
          obtain ⟨hinner, hearlier⟩ := distinctKeys_tables_cons_iff.1 (ho _ rfl)
          exact distinctKeys_tables_cons_iff.2 ⟨ih hinner hput, hearlier⟩
        · cases hn

theorem distinctKeys_along? {last : Option Node → Option Node} (hlast : KeepsDistinct last)
    {path : List String} (hes : es.DistinctKeys) (h : along? last path es = some es') :
    es'.DistinctKeys := by
  induction path generalizing es es' with
  | nil => cases h
  | cons key path ih =>
    rcases path with _ | ⟨next, path⟩
    · exact hlast.alter? hes h
    · refine KeepsDistinct.alter? (fun o n ho hn => ?_) hes h
      rcases o with _ | (v | ⟨origin, inner⟩ | (_ | ⟨inner, earlier⟩))
      · obtain ⟨inner', halong, rfl⟩ := Option.map_eq_some_iff.1 hn
        exact (ih Entries.distinctKeys_nil halong).toTable .implied
      · cases hn
      · obtain ⟨inner', halong, rfl⟩ := Option.map_eq_some_iff.1 hn
        exact (ih (ho _ rfl).ofTable halong).toTable origin
      · cases hn
      · obtain ⟨inner', halong, rfl⟩ := Option.map_eq_some_iff.1 hn
        obtain ⟨hinner, hearlier⟩ := distinctKeys_tables_cons_iff.1 (ho _ rfl)
        exact distinctKeys_tables_cons_iff.2 ⟨ih hinner halong, hearlier⟩

theorem keepsDistinct_opened? : KeepsDistinct opened? := by
  rintro (_ | v | ⟨_ | _ | _, inner⟩ | items) n ho hn
  · cases hn
    exact Entries.distinctKeys_nil.toTable .header
  all_goals cases hn
  exact (ho _ rfl).ofTable.toTable .header

theorem keepsDistinct_extended? : KeepsDistinct extended? := by
  rintro (_ | v | ⟨origin, inner⟩ | items) n ho hn
  · cases hn
    exact distinctKeys_tables_cons_iff.2 ⟨Entries.distinctKeys_nil, .tables nofun nofun⟩
  all_goals cases hn
  exact distinctKeys_tables_cons_iff.2 ⟨Entries.distinctKeys_nil, ho _ rfl⟩

theorem keepsDistinct_within? {f : Entries → Option Entries}
    (hf : ∀ es es', es.DistinctKeys → f es = some es' → es'.DistinctKeys) :
    KeepsDistinct (within? f) := by
  rintro (_ | v | ⟨origin, inner⟩ | (_ | ⟨inner, earlier⟩)) n ho hn
  · cases hn
  · cases hn
  · obtain ⟨inner', hinner, rfl⟩ := Option.map_eq_some_iff.1 hn
    exact (hf _ _ (ho _ rfl).ofTable hinner).toTable origin
  · cases hn
  · obtain ⟨inner', hinner', rfl⟩ := Option.map_eq_some_iff.1 hn
    obtain ⟨hinner, hearlier⟩ := distinctKeys_tables_cons_iff.1 (ho _ rfl)
    exact distinctKeys_tables_cons_iff.2 ⟨hf _ _ hinner hinner', hearlier⟩

theorem entriesToToml_eq_map (es : Entries) :
    entriesToToml es = es.map fun e => (e.1, e.2.toToml) := by
  induction es with
  | nil => rfl
  | cons e es ih => rw [entriesToToml, ih, List.map_cons]

theorem itemsToToml_eq_map (items : List Entries) :
    itemsToToml items = items.map fun es => .table (entriesToToml es) := by
  induction items with
  | nil => rfl
  | cons es items ih => rw [itemsToToml, ih, List.map_cons]

theorem names_entriesToToml (es : Entries) :
    (entriesToToml es).map Prod.fst = es.map Prod.fst := by
  rw [entriesToToml_eq_map, List.map_map]
  rfl

theorem distinctKeys_entriesToToml (names : (es.map Prod.fst).Nodup)
    (values : ∀ e ∈ es, e.2.toToml.DistinctKeys) :
    Toml.DistinctKeys (.table (entriesToToml es)) := by
  refine .table (by rwa [names_entriesToToml]) ?_
  rw [entriesToToml_eq_map, List.forall_mem_map]
  exact values

theorem DistinctKeys.toToml {n : Node} (h : n.DistinctKeys) : n.toToml.DistinctKeys := by
  induction h with
  | value h => exact h
  | table names _ ih => exact distinctKeys_entriesToToml names ih
  | tables names _ ih =>
    refine .array fun v hv => ?_
    rw [itemsToToml_eq_map, List.mem_reverse, List.mem_map] at hv
    obtain ⟨es, hes, rfl⟩ := hv
    exact distinctKeys_entriesToToml (names es hes) (ih es hes)

theorem Entries.DistinctKeys.toToml (h : es.DistinctKeys) :
    Toml.DistinctKeys (.table (entriesToToml es)) :=
  distinctKeys_entriesToToml h.names fun e he => (h.nodes e he).toToml

end Node

/-! ### Reading -/

/-- What every step keeps holds after the last. -/
theorem of_foldlM {α β : Type} {p : β → Prop} {step : β → α → Option β} {l : List α}
    (hstep : ∀ a ∈ l, ∀ b b', p b → step b a = some b' → p b') {b b' : β} (hb : p b)
    (h : l.foldlM step b = some b') : p b' := by
  induction l generalizing b with
  | nil =>
    cases h
    exact hb
  | cons a l ih =>
    rw [List.foldlM_cons, Option.bind_eq_bind, Option.bind_eq_some_iff] at h
    obtain ⟨c, hc, h⟩ := h
    rw [List.forall_mem_cons] at hstep
    exact ih hstep.2 (hstep.1 b c hb hc) h

theorem distinctKeys_ofAssignments? {assignments : List (List String × Toml)} {v : Toml}
    (hvalues : ∀ a ∈ assignments, a.2.DistinctKeys) (h : ofAssignments? assignments = some v) :
    v.DistinctKeys := by
  rw [ofAssignments?, Option.bind_eq_bind, Option.bind_eq_some_iff] at h
  obtain ⟨es, hes, hv⟩ := h
  cases hv
  refine Node.Entries.DistinctKeys.toToml ?_
  refine of_foldlM (fun a ha es es' hes hput => ?_) Node.Entries.distinctKeys_nil hes
  exact Node.distinctKeys_put? (hvalues a ha) hes hput

theorem distinctKeys_ofWord? {cs : List Char} {v : Toml} (h : ofWord? cs = some v) :
    v.DistinctKeys := by
  unfold ofWord? at h
  split at h
  · cases h
    exact .scalar nofun nofun
  split at h
  · cases h
    exact .scalar nofun nofun
  split at h
  · cases h
    exact .scalar nofun nofun
  split at h
  · cases h
    exact .scalar nofun nofun
  · obtain ⟨x, -, rfl⟩ := Option.map_eq_some_iff.1 h
    exact .scalar nofun nofun

theorem distinctKeys_scalar? {cs rest : List Char} {v : Toml} (h : scalar? cs = some (v, rest)) :
    v.DistinctKeys := by
  have hword : ∀ {word rest' : List Char},
      (ofWord? word).map (fun v => (v, rest')) = some (v, rest) → v.DistinctKeys := by
    intro word rest' hmap
    obtain ⟨v, hv, hpair⟩ := Option.map_eq_some_iff.1 hmap
    cases hpair
    exact distinctKeys_ofWord? hv
  unfold scalar? at h
  dsimp only at h
  split at h
  · split at h
    · exact hword h
    · exact hword h
  · exact hword h

theorem distinctKeys_string? {cs : List Char} {v : Toml} {rest : List Char}
    (h : (string? cs).map (fun (s, rest) => (Toml.string s, rest)) = some (v, rest)) :
    v.DistinctKeys := by
  obtain ⟨⟨s, rest⟩, -, h⟩ := Option.map_eq_some_iff.1 h
  cases h
  exact .scalar nofun nofun

/-- Of what the reader of values returns, no table has a key twice. -/
theorem distinctKeys_value? (fuel : Nat) :
    (∀ {depth cs v rest}, value? fuel depth cs = some (v, rest) → v.DistinctKeys) ∧
    (∀ {depth cs items rest}, items? fuel depth cs = some (items, rest) →
      ∀ v ∈ items, v.DistinctKeys) ∧
    ∀ {depth cs assignments rest}, assignments? fuel depth cs = some (assignments, rest) →
      ∀ a ∈ assignments, a.2.DistinctKeys := by
  induction fuel with
  | zero => exact ⟨nofun, nofun, nofun⟩
  | succ fuel ih =>
    obtain ⟨hvalue, hitems, hassignments⟩ := ih
    refine ⟨fun h => ?_, fun h => ?_, fun h => ?_⟩
    · unfold value? at h
      split at h
      · cases h
      · obtain ⟨⟨items, rest⟩, hread, h⟩ := Option.map_eq_some_iff.1 h
        cases h
        exact .array (hitems hread)
      · cases h
      · obtain ⟨⟨assignments, rest⟩, hread, h⟩ := Option.bind_eq_some_iff.1 h
        obtain ⟨v, hv, h⟩ := Option.bind_eq_some_iff.1 h
        cases h
        exact distinctKeys_ofAssignments? (hassignments hread) hv
      · exact distinctKeys_string? h
      · exact distinctKeys_string? h
      · exact distinctKeys_scalar? h
    · unfold items? at h
      obtain ⟨cs, -, h⟩ := Option.bind_eq_some_iff.1 h
      split at h
      · cases h
        exact nofun
      · obtain ⟨⟨v, rest⟩, hread, h⟩ := Option.bind_eq_some_iff.1 h
        obtain ⟨cs, -, h⟩ := Option.bind_eq_some_iff.1 h
        split at h
        · obtain ⟨⟨items, rest⟩, hmore, h⟩ := Option.map_eq_some_iff.1 h
          cases h
          exact List.forall_mem_cons.2 ⟨hvalue hread, hitems hmore⟩
        · cases h
          exact List.forall_mem_singleton.2 (hvalue hread)
        · cases h
    · unfold assignments? at h
      obtain ⟨cs, -, h⟩ := Option.bind_eq_some_iff.1 h
      split at h
      · cases h
        exact nofun
      · obtain ⟨⟨path, rest⟩, -, h⟩ := Option.bind_eq_some_iff.1 h
        obtain ⟨cs, -, h⟩ := Option.bind_eq_some_iff.1 h
        split at h
        · obtain ⟨cs, -, h⟩ := Option.bind_eq_some_iff.1 h
          obtain ⟨⟨v, rest⟩, hread, h⟩ := Option.bind_eq_some_iff.1 h
          obtain ⟨cs, -, h⟩ := Option.bind_eq_some_iff.1 h
          split at h
          · obtain ⟨⟨more, rest⟩, hmore, h⟩ := Option.map_eq_some_iff.1 h
            cases h
            exact List.forall_mem_cons.2 ⟨hvalue hread, hassignments hmore⟩
          · cases h
            exact List.forall_mem_singleton.2 (hvalue hread)
          · cases h
        · cases h

/-- What a line assigns has no table with a key twice. -/
def Line.DistinctKeys : Line → Prop
  | .assignment _ v => v.DistinctKeys
  | _ => True

theorem distinctKeys_line? {cs rest : List Char} {line : Line} (h : line? cs = some (line, rest)) :
    line.DistinctKeys := by
  unfold line? at h
  split at h
  · split at h
    · cases h
      trivial
    · cases h
  · split at h
    · cases h
      trivial
    · cases h
  · split at h
    · obtain ⟨⟨v, rest⟩, hread, h⟩ := Option.map_eq_some_iff.1 h
      cases h
      exact (distinctKeys_value? _).1 hread
    · cases h

theorem distinctKeys_document? {fuel : Nat} {cs : List Char} {lines : List Line}
    (h : document? fuel cs = some lines) : ∀ line ∈ lines, line.DistinctKeys := by
  induction fuel generalizing cs lines with
  | zero => cases h
  | succ fuel ih =>
    unfold document? at h
    obtain ⟨cs, -, h⟩ := Option.bind_eq_some_iff.1 h
    split at h
    · cases h
      exact nofun
    · obtain ⟨⟨line, rest⟩, hline, h⟩ := Option.bind_eq_some_iff.1 h
      obtain ⟨rest, -, h⟩ := Option.bind_eq_some_iff.1 h
      obtain ⟨more, hmore, rfl⟩ := Option.map_eq_some_iff.1 h
      exact List.forall_mem_cons.2 ⟨distinctKeys_line? hline, ih hmore⟩

theorem distinctKeys_add? {line : Line} (hline : line.DistinctKeys) {o o' : Outline}
    (ho : o.root.DistinctKeys) (h : o.add? line = some o') : o'.root.DistinctKeys := by
  cases line with
  | header path =>
    obtain ⟨root, hroot, rfl⟩ := Option.map_eq_some_iff.1 h
    exact Node.distinctKeys_along? Node.keepsDistinct_opened? ho hroot
  | item path =>
    obtain ⟨root, hroot, rfl⟩ := Option.map_eq_some_iff.1 h
    exact Node.distinctKeys_along? Node.keepsDistinct_extended? ho hroot
  | assignment path v =>
    obtain ⟨root, hroot, rfl⟩ := Option.map_eq_some_iff.1 h
    have hput : ∀ es es', Node.Entries.DistinctKeys es → Node.put? v path es = some es' →
        Node.Entries.DistinctKeys es' := fun _ _ => Node.distinctKeys_put? hline
    split at hroot
    · exact hput _ _ ho hroot
    · exact Node.distinctKeys_along? (Node.keepsDistinct_within? hput) ho hroot

theorem distinctKeys_ofLines? {lines : List Line} {entries : List (String × Toml)}
    (hlines : ∀ line ∈ lines, line.DistinctKeys) (h : ofLines? lines = some entries) :
    DistinctKeys (.table entries) := by
  obtain ⟨o, ho, rfl⟩ := Option.map_eq_some_iff.1 h
  refine Node.Entries.DistinctKeys.toToml ?_
  exact of_foldlM (p := fun o : Outline => o.root.DistinctKeys)
    (fun line hline _ _ => distinctKeys_add? (hlines line hline)) Node.Entries.distinctKeys_nil ho

/-! ### Moments spelled as tables -/

theorem mem_settledItems? {items items' : List Toml} (h : settledItems? items = some items') :
    ∀ v' ∈ items', ∃ v ∈ items, settled? v = some v' := by
  induction items generalizing items' with
  | nil =>
    cases h
    exact nofun
  | cons v items ih =>
    obtain ⟨w, hw, h⟩ := Option.bind_eq_some_iff.1 h
    obtain ⟨more, hmore, h⟩ := Option.bind_eq_some_iff.1 h
    cases h
    refine List.forall_mem_cons.2 ⟨⟨v, List.mem_cons_self, hw⟩, fun v' hv' => ?_⟩
    obtain ⟨u, hu, hsettled⟩ := ih hmore v' hv'
    exact ⟨u, List.mem_cons_of_mem _ hu, hsettled⟩

theorem settledEntries?_cons_eq_some {e : String × Toml} {entries entries' : List (String × Toml)}
    (h : settledEntries? (e :: entries) = some entries') :
    ∃ v more, entries' = (e.1, v) :: more ∧ settled? e.2 = some v ∧
      settledEntries? entries = some more := by
  obtain ⟨v, hv, h⟩ := Option.bind_eq_some_iff.1 h
  obtain ⟨more, hmore, h⟩ := Option.bind_eq_some_iff.1 h
  cases h
  exact ⟨v, more, rfl, hv, hmore⟩

theorem names_settledEntries? {entries entries' : List (String × Toml)}
    (h : settledEntries? entries = some entries') :
    entries'.map Prod.fst = entries.map Prod.fst := by
  induction entries generalizing entries' with
  | nil =>
    cases h
    rfl
  | cons e entries ih =>
    obtain ⟨v, more, rfl, -, hmore⟩ := settledEntries?_cons_eq_some h
    rw [List.map_cons, List.map_cons, ih hmore]

theorem mem_settledEntries? {entries entries' : List (String × Toml)}
    (h : settledEntries? entries = some entries') :
    ∀ e' ∈ entries', ∃ e ∈ entries, settled? e.2 = some e'.2 := by
  induction entries generalizing entries' with
  | nil =>
    cases h
    exact nofun
  | cons e entries ih =>
    obtain ⟨v, more, rfl, hv, hmore⟩ := settledEntries?_cons_eq_some h
    refine List.forall_mem_cons.2 ⟨⟨e, List.mem_cons_self, hv⟩, fun e' he' => ?_⟩
    obtain ⟨u, hu, hsettled⟩ := ih hmore e' he'
    exact ⟨u, List.mem_cons_of_mem _ hu, hsettled⟩

theorem distinctKeys_settledEntries? {entries entries' : List (String × Toml)}
    (names : (entries.map Prod.fst).Nodup)
    (values : ∀ e ∈ entries, ∀ {v}, settled? e.2 = some v → v.DistinctKeys)
    (h : settledEntries? entries = some entries') : DistinctKeys (.table entries') := by
  refine .table (by rwa [names_settledEntries? h]) fun e' he' => ?_
  obtain ⟨e, he, hsettled⟩ := mem_settledEntries? h e' he'
  exact values e he hsettled

theorem DistinctKeys.settled? {v v' : Toml} (h : v.DistinctKeys) (hv : settled? v = some v') :
    v'.DistinctKeys := by
  induction h generalizing v' with
  | @scalar v harray htable =>
    cases v with
    | array items => exact absurd rfl (harray items)
    | table entries => exact absurd rfl (htable entries)
    | _ =>
      cases hv
      exact .scalar nofun nofun
  | array _ ih =>
    obtain ⟨items', hitems, rfl⟩ := Option.map_eq_some_iff.1 hv
    refine .array fun v' hv' => ?_
    obtain ⟨v, hv, hsettled⟩ := mem_settledItems? hitems v' hv'
    exact ih v hv hsettled
  | table names _ ih =>
    rw [Toml.settled?] at hv
    split at hv
    · obtain ⟨m, -, rfl⟩ := Option.map_eq_some_iff.1 hv
      exact .scalar nofun nofun
    · obtain ⟨entries', hentries, rfl⟩ := Option.map_eq_some_iff.1 hv
      exact distinctKeys_settledEntries? names ih hentries

/-- No table in a document has a key twice. -/
theorem distinctKeys_of_parse? {s : String} {entries : List (String × Toml)}
    (h : parse? s = some entries) : DistinctKeys (.table entries) := by
  obtain ⟨lines, hlines, h⟩ := Option.bind_eq_some_iff.1 h
  obtain ⟨raw, hraw, h⟩ := Option.bind_eq_some_iff.1 h
  obtain ⟨names, values⟩ :=
    distinctKeys_table_iff.1 (distinctKeys_ofLines? (distinctKeys_document? hlines) hraw)
  exact distinctKeys_settledEntries? names (fun e he _ => (values e he).settled?) h

end OneTable.Toml
