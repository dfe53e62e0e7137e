import OneTable.Proofs.Session.Contacts

/-!
# When a session introspects

An operation does one of three things to the cache (`CacheStep`): it leaves the cache and the table
alone, it drops the cache, or it has the active table described and keeps what the answer tells.
From that follow, along every run (`cache_recalls_last_introspection`), what the cache holds and
when the client is asked again. What is cached is the answer of the last introspection, about the
active table and with at least one column; so nothing is cached after a failed or an empty one. And
once columns are cached, no operation introspects until one drops them (`DropsCache`).
-/

namespace OneTable

variable {σ : Type}

/-- A table that was described, and what the client said of it. -/
abbrev Introspection := String × Except Error (List Column)

def Contact.introspection? : Contact → Option Introspection
  | .described table answer => some (table, answer)
  | .executed .. => none

def introspections (cs : List Contact) : List Introspection := cs.filterMap Contact.introspection?

@[simp] theorem introspections_append (cs ds : List Contact) :
    introspections (cs ++ ds) = introspections cs ++ introspections ds :=
  List.filterMap_append

/-! ### Answers -/

theorem upsert_ne_nil {α : Type} (name : α → String) (a : α) (l : List α) :
    upsert name a l ≠ [] := by
  cases l with
  | nil => exact List.cons_ne_nil _ _
  | cons b bs =>
    rw [upsert]
    split
    · exact List.cons_ne_nil _ _
    · exact List.cons_ne_nil _ _

namespace Columns

theorem isEmpty_insert (cs : Columns) (c : Column) : (cs.insert c).isEmpty = false := by
  rw [isEmpty, List.isEmpty_eq_false_iff]
  exact upsert_ne_nil _ _ _

theorem isEmpty_ofList (l : List Column) : (ofList l).isEmpty = l.isEmpty := by
  rcases List.eq_nil_or_concat l with rfl | ⟨l, c, rfl⟩
  · rfl
  · rw [List.concat_eq_append, ofList, List.foldl_append, List.foldl_cons, List.foldl_nil,
      isEmpty_insert]
    simp

end Columns

/-- The error of a row of SHOW COLUMNS that names no column. -/
def Column.unnamed : Error := .decode "Field" "missing column name in SHOW COLUMNS row"

theorem Column.mapM_ofRow {rows : List Row} (h : ∃ row ∈ rows, row.text? "Field" = none) :
    rows.mapM ofRow = .error unnamed := by
  induction rows with
  | nil => simp at h
  | cons r rows ih =>
    rw [List.mapM_cons]
    cases hr : r.text? "Field" with
    | none =>
      have hrow : ofRow r = .error unnamed := by rw [ofRow, hr]; rfl
      rw [hrow]
      rfl
    | some name =>
      obtain ⟨row, hmem, hrow⟩ := h
      have hrest : ∃ row ∈ rows, row.text? "Field" = none := by
        rcases List.mem_cons.1 hmem with rfl | hmem
        · rw [hr] at hrow; cases hrow
        · exact ⟨row, hmem, hrow⟩
      obtain ⟨c, hc⟩ : ∃ c, ofRow r = .ok c := by rw [ofRow, hr]; exact ⟨_, rfl⟩
      rw [hc, ih hrest]
      rfl

/-- A row without a name makes a description fail, whatever the other rows say. -/
theorem Client.describeBy_unnamed {execute : String → σ → Except Error Answer × σ} {table : String}
    {server : σ} {a : Answer} (ha : (execute (describeSql table) server).1 = .ok a)
    (h : ∃ row ∈ a.toRows, row.text? "Field" = none) :
    (describeBy execute table server).1 = .error Column.unnamed := by
  show (execute (describeSql table) server).1.bind (fun a => a.toRows.mapM Column.ofRow) = _
  rw [ha]
  exact Column.mapM_ofRow h

/-! ### One operation -/

namespace Session

/-- What an operation does to the cache of a session, with the introspections that it makes. -/
inductive CacheStep (s s' : Session) : List Introspection → Prop
  | kept (table : s'.table = s.table) (cache : s'.cache = s.cache) : CacheStep s s' []
  | dropped (cache : s'.cache = {}) : CacheStep s s' []
  | asked {name : String} {answer : Except Error (List Column)} (table : s'.table = some name)
      (cache : s'.cache = .kept name answer) : CacheStep s s' [(name, answer)]

namespace CacheStep

variable {s s' s'' : Session} {is : List Introspection}

theorem congr (h : CacheStep s s' is) (htable : s''.table = s'.table)
    (hcache : s''.cache = s'.cache) : CacheStep s s'' is := by
  cases h with
  | kept table cache => exact .kept (htable.trans table) (hcache.trans cache)
  | dropped cache => exact .dropped (hcache.trans cache)
  | asked table cache => exact .asked (htable.trans table) (hcache.trans cache)

/-- What is left of a dropped cache is nothing or something new. -/
theorem of_dropped (hs : s'.cache = {}) (h : CacheStep s' s'' is) : CacheStep s s'' is := by
  cases h with
  | kept table cache => exact .dropped (cache.trans hs)
  | dropped cache => exact .dropped cache
  | asked table cache => exact .asked table cache

end CacheStep

/-- The columns of the active table are cached. -/
def Loaded (s : Session) : Prop :=
  ∃ table columns, s.table = some table ∧ s.cache.entry = some (table, columns)

end Session

namespace Work

variable (client : Client σ) (w : Work σ)

theorem session_prepared (make : Table → Except Rejection Statement) :
    (w.prepared client make).2.session =
      if w.session.table = none then w.session else (w.learned client).session := by
  unfold prepared
  cases w.session.table with
  | none => rfl
  | some name =>
    dsimp only
    cases w.columns client with
    | error e => rfl
    | ok columns =>
      dsimp only
      cases make { name, primaryKey := w.session.primaryKey, columns } <;> rfl

/-- Sending the statement changes the log alone. -/
theorem session_asked (make : Table → Except Rejection Statement) :
    ∃ log, (w.asked client make).2.session =
      { (w.prepared client make).2.session with log } := by
  unfold asked
  rcases w.prepared client make with ⟨_ | s, l⟩
  · exact ⟨_, rfl⟩
  · exact ⟨_, rfl⟩

theorem introspections_inquiry (make : Table → Except Rejection Statement) :
    introspections (w.inquiry client make) = introspections (w.introspection client) := by
  rw [inquiry, introspections_append]
  rcases w.prepared client make with ⟨_ | s, l⟩
  · exact List.append_nil _
  · exact List.append_nil _

theorem cacheStep_learned :
    w.session.CacheStep (w.learned client).session (introspections (w.introspection client)) := by
  have hcache : (w.learned client).session.cache =
      (w.session.cache.load client w.session.table w.server).cache := rfl
  have htable : (w.learned client).session.table = w.session.table := rfl
  unfold introspection
  cases ht : w.session.table with
  | none =>
    rw [ht] at hcache
    exact .dropped hcache
  | some name =>
    rw [ht] at hcache htable
    by_cases hl : w.session.cache.isLoadedFor name = true
    · obtain ⟨columns, he⟩ := (SchemaCache.isLoadedFor_iff name).1 hl
      rw [SchemaCache.load_of_entry _ _ _ he] at hcache
      dsimp only
      rw [if_pos hl]
      exact .kept (htable.trans ht.symm) hcache
    · dsimp only
      rw [if_neg hl]
      rw [Bool.not_eq_true] at hl
      rw [SchemaCache.load_of_not_isLoadedFor _ _ _ hl, SchemaCache.introspect_eq] at hcache
      exact .asked htable hcache

theorem cacheStep_asked (make : Table → Except Rejection Statement) :
    w.session.CacheStep (w.asked client make).2.session
      (introspections (w.inquiry client make)) := by
  obtain ⟨log, hasked⟩ := w.session_asked client make
  rw [introspections_inquiry, hasked, session_prepared]
  by_cases ht : w.session.table = none
  · have hnone : introspections (w.introspection client) = [] := by rw [introspection, ht]; rfl
    rw [if_pos ht, hnone]
    exact .kept rfl rfl
  · rw [if_neg ht]
    exact (w.cacheStep_learned client).congr rfl rfl

theorem cacheStep_sent (sql : String) (answer : Except Error Answer) (database : Option String) :
    w.session.CacheStep ((w.sent client sql).moved answer database).session [] := by
  rcases answer with e | a
  · exact .kept rfl rfl
  · cases database with
    | none => exact .kept rfl rfl
    | some db => exact .dropped rfl

variable {w}

theorem learned_of_loaded (h : w.session.Loaded) :
    (w.learned client).session = w.session ∧ w.introspection client = [] := by
  obtain ⟨table, columns, ht, he⟩ := h
  have hl := (SchemaCache.isLoadedFor_iff table).2 ⟨columns, he⟩
  constructor
  · show { w.session with
      cache := (w.session.cache.load client w.session.table w.server).cache } = _
    rw [ht, SchemaCache.load_of_entry _ _ _ he]
  · rw [introspection, ht]
    exact if_pos hl

end Work

namespace Session

variable {client : Client σ} {w : Work σ}

theorem cacheStep_perform (client : Client σ) (r : Request) (w : Work σ) :
    w.session.CacheStep ((perform client r).run w).2.session
      (introspections (contacts client r w)) := by
  rw [perform_run, contacts_eq]
  cases hp : w.session.plan r with
  | settle reply s events =>
    rcases settle_cases hp with hs | ⟨_, hs⟩ | ⟨_, hs⟩ | ⟨_, hs⟩ | ⟨_, hs⟩ | ⟨-, hs⟩
    · rw [hs]; exact .kept rfl rfl
    · rw [hs]; exact .dropped rfl
    · rw [hs]; exact .kept rfl rfl
    · rw [hs]; exact .kept rfl rfl
    · rw [hs]; exact .kept rfl rfl
    · rw [hs]; exact .kept rfl rfl
  | learn fresh read =>
    cases fresh with
    | false => exact w.cacheStep_learned client
    | true => exact .of_dropped rfl (w.dropped.cacheStep_learned client)
  | build make read => exact w.cacheStep_asked client make
  | send sql read database => exact w.cacheStep_sent client sql _ database

/-! ### Runs -/

/-- All contacts of a run, in order. -/
def allContacts (client : Client σ) : List Request → Work σ → List Contact
  | [], _ => []
  | r :: rs, w => contacts client r w ++ allContacts client rs ((perform client r).run w).2

/-- What is cached is what the given introspection told of the active table, and not nothing. -/
def Recalls (last : Option Introspection) (s : Session) : Prop :=
  ∀ table columns, s.cache.entry = some (table, columns) →
    s.table = some table ∧ columns.isEmpty = false ∧
      ∃ list, last = some (table, .ok list) ∧ columns = Columns.ofList list

theorem recalls_of_cache_eq {s : Session} (h : s.cache = {}) (last : Option Introspection) :
    s.Recalls last := by
  intro table columns he
  rw [h] at he
  cases he

theorem recalls_kept {s : Session} {name : String} {answer : Except Error (List Column)}
    (htable : s.table = some name) (hcache : s.cache = .kept name answer) :
    s.Recalls (some (name, answer)) := by
  intro table columns he
  rw [hcache] at he
  cases answer with
  | error e => cases he
  | ok list =>
    rw [SchemaCache.kept] at he
    dsimp only at he
    split at he
    · cases he
    · rename_i hne
      cases he
      exact ⟨htable, by simpa using hne, list, rfl, rfl⟩

theorem CacheStep.recalls {s s' : Session} {is : List Introspection} (h : s.CacheStep s' is)
    {last : Option Introspection} (hs : s.Recalls last) : s'.Recalls (is.getLast?.or last) := by
  cases h with
  | kept table cache =>
    intro name columns he
    rw [cache] at he
    rw [table]
    exact hs name columns he
  | dropped cache => exact recalls_of_cache_eq cache _
  | asked table cache => exact recalls_kept table cache

/-- Along a run the cache recalls the last introspection so far. -/
theorem recalls_performAll (client : Client σ) (rs : List Request) {w : Work σ}
    {last : Option Introspection} (hw : w.session.Recalls last) :
    (performAll client rs w).2.session.Recalls
      ((introspections (allContacts client rs w)).getLast?.or last) := by
  induction rs generalizing w last with
  | nil => exact hw
  | cons r rs ih =>
    have h := ih ((cacheStep_perform client r w).recalls hw)
    rw [allContacts, introspections_append, List.getLast?_append, Option.or_assoc]
    exact h

/-! ### Until the cache is dropped -/

/-- The operation drops what is cached: it takes another table, moves to a database or asks for
fresh columns. -/
def DropsCache (client : Client σ) (r : Request) (w : Work σ) : Prop :=
  match r with
  | .withTable _ | .refreshColumns => True
  | .selectTable _ => ((perform client r).run w).2.session.table ≠ w.session.table
  | .selectDatabase _ => ((perform client r).run w).1 = .ok (.flag true)
  | _ => False

/-- No operation of a run drops what is cached. -/
def Undisturbed (client : Client σ) : List Request → Work σ → Prop
  | [], _ => True
  | r :: rs, w => ¬ DropsCache client r w ∧ Undisturbed client rs ((perform client r).run w).2

end Session

/-- The plan leaves the active table and its columns alone. -/
def Plan.Keeps (client : Client σ) (w : Work σ) : Plan → Prop
  | .settle _ s _ => s.table = w.session.table ∧ s.cache = w.session.cache
  | .learn fresh _ => fresh = false
  | .build .. => True
  | .send sql _ database => database = none ∨ ∃ e, (client.execute sql w.server).1 = .error e

theorem Plan.loaded_carry {client : Client σ} {w : Work σ} (h : w.session.Loaded) {p : Plan}
    (hp : p.Keeps client w) :
    (p.carry client w).2.session.Loaded ∧ introspections (p.contacts client w) = [] := by
  obtain ⟨hlearned, hnone⟩ := Work.learned_of_loaded client h
  obtain ⟨table, columns, ht, he⟩ := h
  have hloaded : ∀ {s : Session}, s.table = w.session.table → s.cache = w.session.cache →
      s.Loaded := fun htable hcache => ⟨table, columns, htable ▸ ht, hcache ▸ he⟩
  cases p with
  | settle reply s events => exact ⟨hloaded hp.1 hp.2, rfl⟩
  | learn fresh read =>
    cases hp
    exact ⟨hloaded (congrArg _ hlearned) (congrArg _ hlearned), congrArg introspections hnone⟩
  | build make read =>
    obtain ⟨log, hasked⟩ := w.session_asked client make
    have hne : w.session.table ≠ none := by rw [ht]; exact Option.some_ne_none _
    rw [w.session_prepared, if_neg hne, hlearned] at hasked
    refine ⟨?_, ?_⟩
    · show (w.asked client make).2.session.Loaded
      rw [hasked]
      exact hloaded rfl rfl
    · rw [contacts, w.introspections_inquiry, hnone]
      rfl
  | send sql read database =>
    refine ⟨?_, rfl⟩
    rw [carry]
    dsimp only
    rcases hp with rfl | ⟨e, herror⟩
    · cases (client.execute sql w.server).1 <;> exact hloaded rfl rfl
    · rw [herror]
      exact hloaded rfl rfl

namespace Session

theorem keeps_sendNamed (client : Client σ) (w : Work σ) (sql : String → String)
    (read : Answer → Reply) : (w.session.sendNamed sql read).Keeps client w := by
  unfold sendNamed
  split
  · exact .inl rfl
  · exact ⟨rfl, rfl⟩

/-- An operation that drops nothing plans so. -/
theorem keeps_plan {client : Client σ} {r : Request} {w : Work σ} (h : ¬ DropsCache client r w) :
    (w.session.plan r).Keeps client w := by
  unfold DropsCache at h
  rw [perform_run] at h
  cases r with
  | withTable table => exact absurd trivial h
  | refreshColumns => exact absurd trivial h
  | selectTable table =>
    dsimp only at h
    rcases w.session.selectTable_cases table with ⟨f, -, hp⟩ | ⟨-, hp⟩ | ⟨hne, hp⟩
    · rw [hp]; exact ⟨rfl, rfl⟩
    · rw [hp]; exact ⟨rfl, rfl⟩
    · rw [hp] at h
      exact absurd (fun heq => hne heq.symm) h
  | selectDatabase database =>
    dsimp only at h
    rcases w.session.selectDatabase_cases database with ⟨f, -, hp⟩ | ⟨-, -, hp⟩ | ⟨-, hp⟩
    · rw [hp]; exact ⟨rfl, rfl⟩
    · rw [hp]; exact ⟨rfl, rfl⟩
    · rw [hp, Plan.carry] at h
      rw [hp]
      dsimp only at h
      cases ha : (client.execute ("USE " ++ Ident.quoted database ++ ";") w.server).1 with
      | error e => exact .inr ⟨e, ha⟩
      | ok a =>
        rw [ha] at h
        exact absurd rfl h
  | columns => exact rfl
  | columnType column => exact rfl
  | countGrouped c o =>
    rw [plan]
    split
    · exact ⟨rfl, rfl⟩
    · exact trivial
  | query sql =>
    rw [plan]
    split
    · exact ⟨rfl, rfl⟩
    · exact .inl rfl
  | optimize unlogged =>
    rw [plan]
    exact keeps_sendNamed client w _ _
  | truncate sure =>
    rw [plan]
    split
    · exact keeps_sendNamed client w _ _
    · exact ⟨rfl, rfl⟩
  | withPrimaryKey key => exact ⟨rfl, rfl⟩
  | withLog on => exact ⟨rfl, rfl⟩
  | withHook hook => exact ⟨rfl, rfl⟩
  | takeLog => exact ⟨rfl, rfl⟩
  | _ => exact trivial

theorem loaded_perform {client : Client σ} {r : Request} {w : Work σ} (h : w.session.Loaded)
    (hr : ¬ DropsCache client r w) :
    ((perform client r).run w).2.session.Loaded ∧ introspections (contacts client r w) = [] := by
  rw [perform_run, contacts_eq]
  exact Plan.loaded_carry h (keeps_plan hr)

/-- With columns cached, a run in which nothing drops them introspects nothing. -/
theorem introspections_of_undisturbed {client : Client σ} {rs : List Request} {w : Work σ}
    (h : w.session.Loaded) (hrs : Undisturbed client rs w) :
    introspections (allContacts client rs w) = [] := by
  induction rs generalizing w with
  | nil => rfl
  | cons r rs ih =>
    obtain ⟨hloaded, hnone⟩ := loaded_perform h hrs.1
    rw [allContacts, introspections_append, hnone, List.nil_append]
    exact ih hloaded hrs.2

/-- An introspection that tells of columns leaves them cached. -/
theorem CacheStep.loaded {s s' : Session} {is : List Introspection} (h : s.CacheStep s' is)
    {table : String} {list : List Column} (hi : (table, .ok list) ∈ is) (hne : list ≠ []) :
    s'.Loaded := by
  cases h with
  | kept _ _ => cases hi
  | dropped _ => cases hi
  | asked htable hcache =>
    cases List.mem_singleton.1 hi
    have hcolumns : (Columns.ofList list).isEmpty = false := by
      rw [Columns.isEmpty_ofList, List.isEmpty_eq_false_iff]
      exact hne
    refine ⟨table, Columns.ofList list, htable, ?_⟩
    rw [hcache, SchemaCache.kept, hcolumns]
    rfl

/-- What the cache holds after any run that starts with an empty one, and when the client is asked
for columns again. Cached columns are not empty, belong to the active table and are what the last
introspection answered; after one that failed or told of no columns nothing is cached; and after one
that told of some there is no other until an operation drops the cache. Where tables are described
by SHOW COLUMNS, a row that names no column makes the introspection fail. -/
theorem cache_recalls_last_introspection (client : Client σ) (rs : List Request) {w : Work σ}
    (hw : w.session.cache = {}) :
    let v := (performAll client rs w).2
    let last := (introspections (allContacts client rs w)).getLast?
    (∀ table columns, v.session.cache.entry = some (table, columns) →
      columns.isEmpty = false ∧ v.session.table = some table ∧
        ∃ list, last = some (table, .ok list) ∧ columns = Columns.ofList list) ∧
    (∀ table answer, last = some (table, answer) → ((∃ e, answer = .error e) ∨ answer = .ok []) →
      v.session.cache = {}) ∧
    (∀ r table list rs', (table, .ok list) ∈ introspections (contacts client r v) → list ≠ [] →
      Undisturbed client rs' ((perform client r).run v).2 →
        introspections (allContacts client rs' ((perform client r).run v).2) = []) ∧
    ∀ (execute : String → σ → Except Error Answer × σ) table server a,
      (execute (Client.describeSql table) server).1 = .ok a →
        (∃ row ∈ a.toRows, row.text? "Field" = none) →
          (Client.describeBy execute table server).1 = .error Column.unnamed := by
  intro v last
  have hrecalls : v.session.Recalls last := by
    have h := recalls_performAll client rs (recalls_of_cache_eq hw none)
    rwa [Option.or_none] at h
  refine ⟨?_, ?_, ?_, fun _ _ _ _ => Client.describeBy_unnamed⟩
  · intro table columns he
    obtain ⟨htable, hne, hlist⟩ := hrecalls table columns he
    exact ⟨hne, htable, hlist⟩
  · intro table answer hlast hanswer
    cases hc : v.session.cache with
    | mk entry =>
      cases entry with
      | none => rfl
      | some e =>
        -- an entry would be the columns of an answer that has some
        obtain ⟨-, hne, list, hlist, hcolumns⟩ := hrecalls e.1 e.2 (by rw [hc])
        rw [hlast] at hlist
        cases hlist
        rcases hanswer with ⟨e', he'⟩ | hempty
        · cases he'
        · cases hempty
          rw [hcolumns] at hne
          cases hne
  · intro r table list rs' hi hne hrs'
    exact introspections_of_undisturbed ((cacheStep_perform client r v).loaded hi hne) hrs'

/-- A server of one table with one column. The session takes the table, asks for its columns, reads
rows, asks again and selects the table that it has. -/
theorem cache_recalls_one_column :
    let client : Client Nat :=
      .ofExecute fun _ n => (.ok (.rows [⟨[("Field", .text "a")], by decide⟩]), n + 1)
    let v := (performAll client [.withTable "t"] ⟨{}, 0, []⟩).2
    let v' := ((perform client .columns).run v).2
    (∃ columns list, v'.session.cache.entry = some ("t", columns) ∧ columns.isEmpty = false ∧
      v'.session.table = some "t" ∧ columns = Columns.ofList list) ∧
    introspections (allContacts client [.findAll .all .empty, .columns, .selectTable "t"] v') =
      [] := by
  intro client v v'
  have hcolumns := (cache_recalls_last_introspection client [.withTable "t", .columns]
    (w := ⟨{}, 0, []⟩) rfl).1 "t" _ rfl
  have hquiet := (cache_recalls_last_introspection client [.withTable "t"]
    (w := ⟨{}, 0, []⟩) rfl).2.2.1 .columns "t" [⟨"a", "", false, false⟩]
    [.findAll .all .empty, .columns, .selectTable "t"] List.mem_cons_self (List.cons_ne_nil _ _)
    ⟨id, id, fun h => h rfl, trivial⟩
  obtain ⟨hne, htable, list, -, hlist⟩ := hcolumns
  exact ⟨⟨_, list, rfl, hne, htable, hlist⟩, hquiet⟩

end Session

end OneTable
