import OneTable.Proofs.Number.Reading
import OneTable.Proofs.Registry.Opening
import OneTable.Proofs.Toml.Keys
import OneTable.Settings.Document

/-!
# What a document says

A document holds settings in its table `database`, or at its top level if it has no such table
(`IsSettingsPart`). Of the part that holds them nothing is passed over: a document is read exactly
if every key of the part names a setting, its value says what that setting is once its references
are replaced, and the settings pass their check; the rest have their defaults (`SaidBy`,
`document_read_iff`). What stands beside the table is not looked at (`unknown_key_is_passed_over`).

`setting?` is the view of settings by key through which all of this is said. Assigning changes one
key of the view (`assign_eq_ok_iff`), and replacing references changes every key on its own
(`expand_eq_ok_iff`), so one induction on the entries goes through both.
-/

namespace OneTable.Settings

/-- What settings hold under the key of one of them. -/
inductive Setting
  | text (s : Option String)
  | port (p : Option UInt16)
  | flag (b : Bool)

/-- The setting that a key names. -/
def setting? (s : Settings) : (key : String) → Option Setting
  | "host" => some (.text s.host)
  | "port" => some (.port s.port)
  | "username" => some (.text s.username)
  | "password" => some (.text s.password)
  | "database" => some (.text s.database)
  | "table" => some (.text s.table)
  | "primary_key" => some (.text s.primaryKey)
  | "persistent" => some (.flag s.persistent)
  | "logging" => some (.flag s.logging)
  | _ => none

/-- What a value in a document says that a setting is, its texts being read by `read`. -/
inductive Says (read : String → Except Fault String) : Toml → Setting → Prop
  | string {t value : String} (h : read t = .ok value) : Says read (.string t) (.text (some value))
  | moment {m : Moment} {value : String} (h : read m.text = .ok value) :
    Says read (.moment m) (.text (some value))
  | integer {n : Int64} {p : UInt16} (h : n.toInt = p.toNat) :
    Says read (.integer n) (.port (some p))
  | boolean (b : Bool) : Says read (.boolean b) (.flag b)

variable {s s' : Settings} {key : String} {v : Toml}

theorem Says.exists_text {read : String → Except Fault String} {o : Option String}
    (h : Says read v (.text o)) : ∃ t, Setting.text o = .text (some t) := by
  cases h <;> exact ⟨_, rfl⟩

theorem Says.exists_port {read : String → Except Fault String} {o : Option UInt16}
    (h : Says read v (.port o)) : ∃ p, Setting.port o = .port (some p) := by
  cases h
  exact ⟨_, rfl⟩

/-- Settings that hold the same under every key are the same. -/
theorem ext_setting? (h : ∀ key, s.setting? key = s'.setting? key) : s = s' := by
  have hhost := h "host"
  have hport := h "port"
  have husername := h "username"
  have hpassword := h "password"
  have hdatabase := h "database"
  have htable := h "table"
  have hprimaryKey := h "primary_key"
  have hpersistent := h "persistent"
  have hlogging := h "logging"
  simp only [setting?, Option.some.injEq, Setting.text.injEq, Setting.port.injEq,
    Setting.flag.injEq] at *
  cases s
  cases s'
  simp_all

/-! ### Assigning one setting -/

theorem textOf_eq_ok_iff {t : String} : textOf v = .ok t ↔ Says .ok v (.text (some t)) := by
  constructor
  · intro h
    cases v <;> cases h
    · exact .string rfl
    · exact .moment rfl
  · rintro (h | h)
    · exact h
    · exact h

theorem portOf_eq_ok_iff {p : UInt16} : portOf v = .ok p ↔ Says .ok v (.port (some p)) := by
  have hlt := p.toNat_lt_size
  have hsize : UInt16.size = 2 ^ 16 := rfl
  constructor
  · intro h
    cases v with
    | integer n =>
      rw [portOf] at h
      split at h
      · rename_i hrange
        cases h
        refine .integer ?_
        rw [UInt16.toNat_ofNat', Nat.mod_eq_of_lt (by omega), Int.toNat_of_nonneg hrange.1]
      · cases h
    | _ => cases h
  · rintro (_ | _ | h)
    rw [portOf, if_pos (by omega), h, Int.toNat_natCast, UInt16.ofNat_toNat]

theorem flagOf_eq_ok_iff {b : Bool} : flagOf v = .ok b ↔ Says .ok v (.flag b) := by
  constructor
  · intro h
    cases v <;> cases h
    exact .boolean b
  · rintro ⟨⟩
    rfl

/-- Reading a setting goes through exactly if the value says what the setting becomes. -/
theorem map_eq_ok_iff_says {α : Type} {value : Except Fault α} {wrap : α → Setting}
    {change : α → Settings} (hvalue : ∀ a, value = .ok a ↔ Says .ok v (wrap a))
    (hkey : ∀ a, (change a).setting? key = some (wrap a))
    (hother : ∀ a other, other ≠ key → (change a).setting? other = s.setting? other)
    (hkind : ∀ x, Says .ok v x → s'.setting? key = some x → ∃ a, x = wrap a) :
    value.map change = .ok s' ↔ (∃ x, Says .ok v x ∧ s'.setting? key = some x) ∧
      ∀ other, other ≠ key → s'.setting? other = s.setting? other := by
  rw [Number.map_eq_ok_iff]
  constructor
  · rintro ⟨a, ha, rfl⟩
    exact ⟨⟨wrap a, (hvalue a).1 ha, hkey a⟩, hother a⟩
  · rintro ⟨⟨x, hsays, hx⟩, hrest⟩
    obtain ⟨a, rfl⟩ := hkind x hsays hx
    refine ⟨a, (hvalue a).2 hsays, ext_setting? fun other => ?_⟩
    by_cases hother' : other = key
    · rw [hother', hkey, hx]
    · rw [hother a other hother', hrest other hother']

/-- Assigning changes the setting that the key names into what the value says, and no other. -/
theorem assign_eq_ok_iff : s.assign key v = .ok s' ↔
    (∃ x, Says .ok v x ∧ s'.setting? key = some x) ∧
      ∀ other, other ≠ key → s'.setting? other = s.setting? other := by
  unfold assign
  split
  case h_2 =>
    refine map_eq_ok_iff_says (fun _ => portOf_eq_ok_iff) (fun _ => rfl) ?_ ?_
    · intro p other hne
      unfold setting?
      split <;> first | rfl | exact absurd rfl hne
    · rintro x hsays ⟨⟩
      exact hsays.exists_port
  case h_8 | h_9 =>
    refine map_eq_ok_iff_says (fun _ => flagOf_eq_ok_iff) (fun _ => rfl) ?_ ?_
    · intro b other hne
      unfold setting?
      split <;> first | rfl | exact absurd rfl hne
    · rintro x - ⟨⟩
      exact ⟨_, rfl⟩
  case h_10 =>
    have hnone : s'.setting? key = none := by
      unfold setting?
      split <;> first | rfl | contradiction
    simp [hnone]
  -- the six settings that are texts
  all_goals
    refine map_eq_ok_iff_says (fun _ => textOf_eq_ok_iff) (fun _ => rfl) ?_ ?_
    · intro t other hne
      unfold setting?
      split <;> first | rfl | exact absurd rfl hne
    · rintro x hsays ⟨⟩
      exact hsays.exists_text

/-- Puts a value where the settings hold one of its kind. -/
def put (s : Settings) : (key : String) → Setting → Settings
  | "host", .text o => { s with host := o }
  | "port", .port p => { s with port := p }
  | "username", .text o => { s with username := o }
  | "password", .text o => { s with password := o }
  | "database", .text o => { s with database := o }
  | "table", .text o => { s with table := o }
  | "primary_key", .text o => { s with primaryKey := o }
  | "persistent", .flag b => { s with persistent := b }
  | "logging", .flag b => { s with logging := b }
  | _, _ => s

def Setting.sameKind : Setting → Setting → Bool
  | .text _, .text _ | .port _, .port _ | .flag _, .flag _ => true
  | _, _ => false

theorem setting?_put {x y : Setting} (hy : s'.setting? key = some y) (hkind : y.sameKind x = true) :
    (s.put key x).setting? key = some x := by
  unfold setting? at hy
  split at hy
  all_goals cases hy
  all_goals cases x <;> first | rfl | cases hkind

theorem setting?_put_of_ne {x : Setting} {other : String} (h : other ≠ key) :
    (s.put key x).setting? other = s.setting? other := by
  unfold put
  split
  all_goals
    unfold setting?
    split <;> first | rfl | exact absurd rfl h

/-! ### Replacing the references in settings -/

/-- Replaces the references in a text. -/
def Setting.expand (lookup : String → Option String) : Setting → Except Fault Setting
  | .text o => (o.mapM (expandText lookup)).map .text
  | x => .ok x

/-- What `s'` holds under the key is what `s` holds there, with its references replaced. -/
def ExpandedAt (lookup : String → Option String) (s s' : Settings) (key : String) : Prop :=
  ∀ x, s.setting? key = some x → ∃ y, x.expand lookup = .ok y ∧ s'.setting? key = some y

variable {lookup : String → Option String} {x y : Setting}

theorem Setting.sameKind_of_expand (h : x.expand lookup = .ok y) : y.sameKind x = true := by
  cases x with
  | text o =>
    obtain ⟨o', -, rfl⟩ := Number.map_eq_ok_iff.1 h
    rfl
  | port p =>
    cases h
    rfl
  | flag b =>
    cases h
    rfl

/-- What a value says is what it says as it is written, with its references replaced. -/
theorem says_expandText_iff :
    Says (expandText lookup) v y ↔ ∃ x, Says .ok v x ∧ x.expand lookup = .ok y := by
  have htext : ∀ t : String, (Setting.text (some t)).expand lookup = .ok y ↔
      ∃ value, expandText lookup t = .ok value ∧ .text (some value) = y := by
    intro t
    cases ht : expandText lookup t <;> simp [Setting.expand, Except.map, ht]
  constructor
  · rintro (h | h | h | b)
    · exact ⟨_, .string rfl, (htext _).2 ⟨_, h, rfl⟩⟩
    · exact ⟨_, .moment rfl, (htext _).2 ⟨_, h, rfl⟩⟩
    · exact ⟨_, .integer h, rfl⟩
    · exact ⟨_, .boolean b, rfl⟩
  · rintro ⟨x, h | h | h | b, hy⟩
    · cases h
      obtain ⟨value, hvalue, rfl⟩ := (htext _).1 hy
      exact .string hvalue
    · cases h
      obtain ⟨value, hvalue, rfl⟩ := (htext _).1 hy
      exact .moment hvalue
    · cases hy
      exact .integer h
    · cases hy
      exact .boolean b

theorem mapM_of_expand {o o' : Option String}
    (h : ∃ y, (Setting.text o).expand lookup = .ok y ∧ some (Setting.text o') = some y) :
    o.mapM (expandText lookup) = .ok o' := by
  obtain ⟨y, hy, ho'⟩ := h
  obtain ⟨value, hvalue, rfl⟩ := Number.map_eq_ok_iff.1 hy
  cases ho'
  exact hvalue

/-- The references are replaced in one setting after the other. -/
theorem expand_eq_ok_iff : s.expand lookup = .ok s' ↔ ∀ key, ExpandedAt lookup s s' key := by
  constructor
  · intro h
    obtain ⟨host, hhost, h⟩ := exists_of_bind_eq_ok h
    obtain ⟨username, husername, h⟩ := exists_of_bind_eq_ok h
    obtain ⟨password, hpassword, h⟩ := exists_of_bind_eq_ok h
    obtain ⟨database, hdatabase, h⟩ := exists_of_bind_eq_ok h
    obtain ⟨table, htable, h⟩ := exists_of_bind_eq_ok h
    obtain ⟨primaryKey, hprimaryKey, h⟩ := exists_of_bind_eq_ok h
    cases h
    intro key x hx
    unfold setting? at hx ⊢
    split at hx
    all_goals cases hx
    case h_2 | h_8 | h_9 => exact ⟨_, rfl, rfl⟩
    all_goals exact ⟨_, Number.map_eq_ok_iff.2 ⟨_, by assumption, rfl⟩, rfl⟩
  · intro h
    have hhost := mapM_of_expand (h "host" _ rfl)
    have husername := mapM_of_expand (h "username" _ rfl)
    have hpassword := mapM_of_expand (h "password" _ rfl)
    have hdatabase := mapM_of_expand (h "database" _ rfl)
    have htable := mapM_of_expand (h "table" _ rfl)
    have hprimaryKey := mapM_of_expand (h "primary_key" _ rfl)
    obtain ⟨_, ⟨⟩, hport⟩ := h "port" _ rfl
    obtain ⟨_, ⟨⟩, hpersistent⟩ := h "persistent" _ rfl
    obtain ⟨_, ⟨⟩, hlogging⟩ := h "logging" _ rfl
    simp only [setting?, Option.some.injEq, Setting.port.injEq, Setting.flag.injEq] at *
    rw [expand, hhost, husername, hpassword, hdatabase, htable, hprimaryKey]
    simp only [bind, Except.bind, pure, Except.pure]
    cases s'
    simp_all

/-! ### Assigning what a document says -/

/-- Assigning every entry of a part and then replacing the references leads to the settings that
hold, under the keys of the part, what the part says, and under every other key what was there. -/
theorem foldlM_assign_expand_iff {part : List (String × Toml)} (hpart : (part.map Prod.fst).Nodup) :
    (∃ t, part.foldlM (fun s e => s.assign e.1 e.2) s = .ok t ∧ t.expand lookup = .ok s') ↔
      (∀ e ∈ part, ∃ y, Says (expandText lookup) e.2 y ∧ s'.setting? e.1 = some y) ∧
        ∀ key, key ∉ part.map Prod.fst → ExpandedAt lookup s s' key := by
  induction part generalizing s with
  | nil =>
    simp only [List.foldlM_nil, pure, Except.pure, Except.ok.injEq, exists_eq_left',
      expand_eq_ok_iff]
    simp
  | cons e part ih =>
    obtain ⟨hfresh, hpart⟩ := List.nodup_cons.1 hpart
    rw [List.foldlM_cons]
    constructor
    · rintro ⟨t, hfold, ht⟩
      obtain ⟨u, hassign, hfold⟩ := exists_of_bind_eq_ok hfold
      obtain ⟨⟨x, hsays, hx⟩, hother⟩ := assign_eq_ok_iff.1 hassign
      obtain ⟨hrest, hkept⟩ := (ih hpart).1 ⟨t, hfold, ht⟩
      refine ⟨List.forall_mem_cons.2 ⟨?_, hrest⟩, fun key hkey => ?_⟩
      · obtain ⟨y, hy, hsetting⟩ := hkept e.1 hfresh x hx
        exact ⟨y, says_expandText_iff.2 ⟨x, hsays, hy⟩, hsetting⟩
      · rw [List.map_cons, List.mem_cons, not_or] at hkey
        rw [ExpandedAt, ← hother key hkey.1]
        exact hkept key hkey.2
    · rintro ⟨hall, hkept⟩
      obtain ⟨⟨y, hsays, hy⟩, hrest⟩ := List.forall_mem_cons.1 hall
      obtain ⟨x, hraw, hx⟩ := says_expandText_iff.1 hsays
      have hput : (s.put e.1 x).setting? e.1 = some x :=
        setting?_put hy (Setting.sameKind_of_expand hx)
      have hassign : s.assign e.1 e.2 = .ok (s.put e.1 x) :=
        assign_eq_ok_iff.2 ⟨⟨x, hraw, hput⟩, fun _ => setting?_put_of_ne⟩
      rw [hassign]
      refine (ih hpart).2 ⟨hrest, fun key hkey z hz => ?_⟩
      by_cases hsame : key = e.1
      · rw [hsame] at hz ⊢
        cases hput.symm.trans hz
        exact ⟨y, hx, hy⟩
      · rw [setting?_put_of_ne hsame] at hz
        exact hkept key (by simp [hsame, hkey]) z hz

/-! ### Entries that cannot be read -/

/-- The key of the entry names a setting, and its value says one of that kind. -/
def Fits (e : String × Toml) : Prop :=
  ∃ x, Says .ok e.2 x ∧ ∃ s : Settings, s.setting? e.1 = some x

variable {f : Fault}

theorem error_of_map {α β : Type} {value : Except Fault α} {change : α → β}
    (hvalue : ∀ f, value = .error f → f = .document) (h : value.map change = .error f) :
    f = .document := by
  cases value with
  | error f' =>
    cases h
    exact hvalue f rfl
  | ok a => cases h

theorem error_of_assign (h : s.assign key v = .error f) : f = .document := by
  have htext : ∀ f, textOf v = .error f → f = .document := by
    cases v <;> rintro f ⟨⟩ <;> rfl
  have hport : ∀ f, portOf v = .error f → f = .document := by
    intro f hf
    unfold portOf at hf
    split at hf
    · split at hf
      · cases hf
      · cases hf
        rfl
    · cases hf
      rfl
  have hflag : ∀ f, flagOf v = .error f → f = .document := by
    cases v <;> rintro f ⟨⟩ <;> rfl
  unfold assign at h
  split at h
  case h_2 => exact error_of_map hport h
  case h_8 | h_9 => exact error_of_map hflag h
  case h_10 =>
    cases h
    rfl
  all_goals exact error_of_map htext h

/-- One entry that does not fit keeps a part of a document from being read. -/
theorem foldlM_assign_of_not_fits {part : List (String × Toml)} {e : String × Toml} (he : e ∈ part)
    (hfits : ¬ Fits e) : part.foldlM (fun s e => s.assign e.1 e.2) s = .error .document := by
  induction part generalizing s with
  | nil => cases he
  | cons e' part ih =>
    rw [List.foldlM_cons]
    cases hassign : s.assign e'.1 e'.2 with
    | error f =>
      rw [error_of_assign hassign]
      rfl
    | ok t =>
      obtain ⟨⟨x, hsays, hx⟩, -⟩ := assign_eq_ok_iff.1 hassign
      rcases List.mem_cons.1 he with rfl | he
      · exact absurd ⟨x, hsays, t, hx⟩ hfits
      · exact ih he

/-! ### The part that holds the settings -/

/-- The part of a document that holds the settings is the table `database`, or the whole document if
there is no such table. -/
inductive IsSettingsPart (entries : List (String × Toml)) : List (String × Toml) → Prop
  | nested {inner : List (String × Toml)} (h : ("database", .table inner) ∈ entries) :
    IsSettingsPart entries inner
  | whole (h : ∀ inner, ("database", .table inner) ∉ entries) : IsSettingsPart entries entries

variable {entries part : List (String × Toml)}

theorem isSettingsPart_iff (hnames : (entries.map Prod.fst).Nodup) :
    IsSettingsPart entries part ↔ settingsSection entries = part := by
  constructor
  · rintro (hmem | hnone)
    · rw [settingsSection, find?_of_mem hnames hmem]
    · unfold settingsSection
      split
      · rename_i name inner hfind
        have hname := List.find?_some hfind
        obtain rfl : name = "database" := beq_iff_eq.1 hname
        exact absurd (List.mem_of_find?_eq_some hfind) (hnone inner)
      · rfl
  · rintro rfl
    unfold settingsSection
    split
    · rename_i name inner hfind
      have hname := List.find?_some hfind
      obtain rfl : name = "database" := beq_iff_eq.1 hname
      exact .nested (List.mem_of_find?_eq_some hfind)
    · rename_i hfind
      exact .whole fun inner hmem => hfind _ inner (find?_of_mem hnames hmem)

theorem IsSettingsPart.names (h : IsSettingsPart entries part)
    (hentries : Toml.DistinctKeys (.table entries)) : (part.map Prod.fst).Nodup := by
  obtain ⟨hnames, hvalues⟩ := Toml.distinctKeys_table_iff.1 hentries
  cases h with
  | whole => exact hnames
  | nested hmem => exact (Toml.distinctKeys_table_iff.1 (hvalues _ hmem)).1

/-! ### Reading a document -/

/-- The settings are those of a part of a document: what it says, with the defaults for the rest,
and they pass the check. -/
structure SaidBy (lookup : String → Option String) (part : List (String × Toml)) (s : Settings) :
    Prop where
  said : ∀ e ∈ part, ∃ x, Says (expandText lookup) e.2 x ∧ s.setting? e.1 = some x
  unsaid : ∀ key, key ∉ part.map Prod.fst → s.setting? key = ({} : Settings).setting? key
  passes : s.check = .ok s

theorem check_eq_ok_iff : s.check = .ok s' ↔ s = s' ∧ s'.check = .ok s' := by
  have hsame : s.check = .ok s' → s = s' := by
    unfold check
    repeat' split
    all_goals
      rintro ⟨⟩
    rfl
  constructor
  · intro h
    obtain rfl := hsame h
    exact ⟨rfl, h⟩
  · rintro ⟨rfl, h⟩
    exact h

/-- There is nothing to replace in a default. -/
theorem expandedAt_default_iff :
    ExpandedAt lookup {} s key ↔ s.setting? key = ({} : Settings).setting? key := by
  unfold ExpandedAt setting?
  split
  all_goals simp [Setting.expand, pure, Except.pure, Except.map, @eq_comm _ none]

theorem ofDocument_of_parse? {text : String} (h : Toml.parse? text = some entries) :
    ofDocument lookup text =
      ofEntries entries >>= fun t => t.expand lookup >>= fun t => t.check := by
  rw [ofDocument, h]

theorem ofDocument_eq_ok_iff {text : String} (hparse : Toml.parse? text = some entries)
    (hpart : IsSettingsPart entries part) :
    ofDocument lookup text = .ok s ↔ SaidBy lookup part s := by
  have hentries := Toml.distinctKeys_of_parse? hparse
  have hnames := hpart.names hentries
  rw [ofDocument_of_parse? hparse]
  obtain rfl := (isSettingsPart_iff (Toml.distinctKeys_table_iff.1 hentries).1).1 hpart
  constructor
  · intro h
    obtain ⟨t, ht, h⟩ := exists_of_bind_eq_ok h
    obtain ⟨u, hu, h⟩ := exists_of_bind_eq_ok h
    obtain ⟨rfl, hpasses⟩ := check_eq_ok_iff.1 h
    obtain ⟨hsaid, hunsaid⟩ := (foldlM_assign_expand_iff hnames).1 ⟨t, ht, hu⟩
    exact ⟨hsaid, fun key hkey => expandedAt_default_iff.1 (hunsaid key hkey), hpasses⟩
  · rintro ⟨hsaid, hunsaid, hpasses⟩
    obtain ⟨t, ht, hu⟩ := (foldlM_assign_expand_iff hnames).2
      ⟨hsaid, fun key hkey => expandedAt_default_iff.2 (hunsaid key hkey)⟩
    rw [ofEntries, ht]
    show t.expand lookup >>= _ = _
    rw [hu]
    exact hpasses

theorem exists_isSettingsPart (entries : List (String × Toml)) :
    ∃ part, IsSettingsPart entries part := by
  by_cases h : ∃ inner, ("database", .table inner) ∈ entries
  · exact h.imp fun _ => .nested
  · exact ⟨entries, .whole (not_exists.1 h)⟩

/-- A document is read only through the part of it that holds the settings. The settings are those
that the part says, and there are none if it holds an entry that does not fit. -/
theorem document_read_iff (lookup : String → Option String) (text : String) :
    (∀ s, ofDocument lookup text = .ok s ↔ ∃ entries part, Toml.parse? text = some entries ∧
      IsSettingsPart entries part ∧ SaidBy lookup part s) ∧
    (∀ entries part, Toml.parse? text = some entries → IsSettingsPart entries part →
      (∃ e ∈ part, ¬ Fits e) → ofDocument lookup text = .error .document) := by
  refine ⟨fun s => ⟨fun h => ?_, ?_⟩, ?_⟩
  · cases hparse : Toml.parse? text with
    | none =>
      rw [ofDocument, hparse] at h
      cases h
    | some entries =>
      obtain ⟨part, hpart⟩ := exists_isSettingsPart entries
      exact ⟨entries, part, rfl, hpart, (ofDocument_eq_ok_iff hparse hpart).1 h⟩
  · rintro ⟨entries, part, hparse, hpart, hsaid⟩
    exact (ofDocument_eq_ok_iff hparse hpart).2 hsaid
  · rintro entries part hparse hpart ⟨e, he, hfits⟩
    have hnames := (Toml.distinctKeys_table_iff.1 (Toml.distinctKeys_of_parse? hparse)).1
    rw [ofDocument_of_parse? hparse, ofEntries, (isSettingsPart_iff hnames).1 hpart,
      foldlM_assign_of_not_fits he hfits]
    rfl

/-- A key that is no setting is refused where there is no table `database`. -/
theorem unknown_key_is_refused :
    ofDocument (fun _ => none) "hots = \"typo\"\n" = .error .document := by
  have hkeys : (Toml.parse? "hots = \"typo\"\n").map (List.map Prod.fst) = some ["hots"] := by
    decide +kernel
  obtain ⟨entries, hparse, hnames⟩ := Option.map_eq_some_iff.1 hkeys
  have hwhole : IsSettingsPart entries entries := by
    refine .whole fun inner hmem => ?_
    have hname : "database" ∈ entries.map Prod.fst := List.mem_map_of_mem hmem
    rw [hnames] at hname
    exact absurd hname (by decide)
  obtain ⟨e, he, hname⟩ : ∃ e ∈ entries, e.1 = "hots" :=
    List.mem_map.1 (hnames ▸ List.mem_singleton_self "hots")
  refine (document_read_iff _ _).2 entries entries hparse hwhole ⟨e, he, ?_⟩
  rintro ⟨x, -, s, hx⟩
  rw [hname] at hx
  cases hx

/-- A key that is no setting is passed over beside the table `database`. -/
theorem unknown_key_is_passed_over :
    let text := "hots = \"typo\"\n[database]\nhost = \"h\"\n"
    (Toml.parse? text).map (List.map Prod.fst) = some ["hots", "database"] ∧
      (∀ s : Settings, s.setting? "hots" = none) ∧
      ofDocument (fun _ => none) text = .ok { host := some "h" } := by
  intro text
  refine ⟨by decide +kernel, fun s => rfl, ?_⟩
  have hread : (ofDocument (fun _ => none) text).toOption = some { host := some "h" } := by
    decide +kernel
  cases h : ofDocument (fun _ => none) text with
  | error f => simp [h, Except.toOption] at hread
  | ok s => simpa [h, Except.toOption] using hread

end OneTable.Settings
