import OneTable.Proofs.Session.Contacts

/-!
# The cache cannot be seen

`cache_unobservable`: take a client that answers no differently for having described tables
(`Silent`), and whose tables keep their columns except where the session asks for them again or
moves to another database (`Steady`). Then a session replies the same, has the same statements run
and ends up with the same table, database and log as one that drops its cache before every
operation.

The runs are related state by state (`Mirrors`): the sessions differ in their caches alone, nothing
tells the servers apart, and what is cached is what the client would say of the active table
(`Fits`). The last is what each operation has to preserve.
-/

namespace OneTable

variable {σ : Type} {client : Client σ} {alike : σ → σ → Prop}

/-! ### Clients -/

/-- What the client would say of a table. -/
def Client.catalog (client : Client σ) (server : σ) (table : String) :
    Except Error (List Column) :=
  (client.describe table server).1

/-- Describing a table leads from a state of the server to one that nothing tells apart from it. -/
structure Silent (client : Client σ) (alike : σ → σ → Prop) : Prop where
  equivalence : Equivalence alike
  describe (table : String) (s : σ) : alike (client.describe table s).2 s
  catalog {s t : σ} (h : alike s t) : client.catalog s = client.catalog t
  answer {s t : σ} (h : alike s t) (sql : String) :
    (client.execute sql s).1 = (client.execute sql t).1
  execute {s t : σ} (h : alike s t) (sql : String) :
    alike (client.execute sql s).2 (client.execute sql t).2

/-! ### Sessions -/

/-- The session without its cache. -/
def Session.forget (s : Session) : Session := { s with cache := {} }

/-- What is cached is what the catalog says of the active table. -/
def Session.Fits (catalog : String → Except Error (List Column)) (s : Session) : Prop :=
  ∀ table columns, s.cache.entry = some (table, columns) →
    s.table = some table ∧ (catalog table).map Columns.ofList = .ok columns

theorem Session.fits_of_cache_eq {s : Session} (h : s.cache = {})
    (catalog : String → Except Error (List Column)) : s.Fits catalog := by
  intro table columns he
  rw [h] at he
  cases he

/-- The plans of a session and of the one without its cache. -/
inductive Plan.Alike : Plan → Plan → Prop
  | settle (reply : Except Error Reply) (s : Session) (events events' : List Event) :
      Alike (.settle reply s events) (.settle reply s.forget events')
  | refl (p : Plan) : Alike p p

theorem Session.plan_forget (s : Session) (r : Request) :
    Plan.Alike (s.plan r) (s.forget.plan r) := by
  have htable : s.forget.table = s.table := rfl
  have hdatabase : s.forget.database = s.database := rfl
  cases r with
  | withTable table => exact .settle ..
  | withPrimaryKey key => exact .settle ..
  | withLog on => exact .settle ..
  | withHook hook => exact .settle ..
  | takeLog => exact .settle ..
  | selectTable table =>
    rw [plan, plan, htable]
    cases Ident.fault? table with
    | some f => exact .settle ..
    | none =>
      dsimp only
      split
      · exact .settle ..
      · exact .settle ..
  | selectDatabase database =>
    rw [plan, plan, hdatabase]
    cases Ident.fault? database with
    | some f => exact .settle ..
    | none =>
      dsimp only
      split
      · exact .settle ..
      · exact .refl _
  | countGrouped c o =>
    rw [plan, plan]
    split
    · exact .settle ..
    · exact .refl _
  | query sql =>
    rw [plan, plan]
    split
    · exact .settle ..
    · exact .refl _
  | optimize unlogged =>
    rw [plan, plan, sendNamed, sendNamed, htable]
    split
    · exact .refl _
    · exact .settle ..
  | truncate sure =>
    rw [plan, plan, sendNamed, sendNamed, htable]
    split
    · split
      · exact .refl _
      · exact .settle ..
    · exact .settle ..
  | _ => exact .refl _

namespace Work

/-- `v` stands where `w` stands, without a cache. -/
structure Mirrors (client : Client σ) (alike : σ → σ → Prop) (w v : Work σ) : Prop where
  session : v.session = w.session.forget
  server : alike w.server v.server
  fits : w.session.Fits (client.catalog w.server)

/-- The works differ in what is cached at most. -/
structure Agrees (alike : σ → σ → Prop) (w v : Work σ) : Prop where
  session : w.session.forget = v.session.forget
  server : alike w.server v.server

variable {w v : Work σ}

/-! ### Looking up columns -/

theorem Mirrors.columns_eq (hc : Silent client alike) (h : Mirrors client alike w v) :
    w.columns client = v.columns client := by
  have hcatalog := hc.catalog h.server
  unfold columns
  rw [h.session]
  show _ = (SchemaCache.load {} client w.session.table v.server).result
  cases ht : w.session.table with
  | none => rfl
  | some name =>
    have hfresh : (SchemaCache.load {} client (some name) v.server).result =
        (client.catalog w.server name).map Columns.ofList := by
      rw [hcatalog]
      show (SchemaCache.introspect client name v.server).result = _
      rw [SchemaCache.introspect_eq]
      rfl
    -- the catalog's answer either way: from the cache by `fits`, else from the client
    rw [hfresh]
    by_cases hl : w.session.cache.isLoadedFor name = true
    · obtain ⟨columns, he⟩ := (SchemaCache.isLoadedFor_iff name).1 hl
      rw [SchemaCache.load_of_entry _ _ _ he]
      exact (h.fits name columns he).2.symm
    · rw [Bool.not_eq_true] at hl
      rw [SchemaCache.load_of_not_isLoadedFor _ _ _ hl, SchemaCache.introspect_eq]
      rfl

theorem server_learned (hc : Silent client alike) (w : Work σ) :
    alike (w.learned client).server w.server := by
  show alike (w.session.cache.load client w.session.table w.server).server w.server
  cases w.session.table with
  | none => exact hc.equivalence.refl _
  | some name =>
    by_cases hl : w.session.cache.isLoadedFor name = true
    · obtain ⟨columns, he⟩ := (SchemaCache.isLoadedFor_iff name).1 hl
      rw [SchemaCache.load_of_entry _ _ _ he]
      exact hc.equivalence.refl _
    · rw [Bool.not_eq_true] at hl
      rw [SchemaCache.load_of_not_isLoadedFor _ _ _ hl, SchemaCache.introspect_eq]
      exact hc.describe name w.server

theorem fits_learned (h : w.session.Fits (client.catalog w.server)) :
    (w.learned client).session.Fits (client.catalog w.server) := by
  have hcache : (w.learned client).session.cache =
      (w.session.cache.load client w.session.table w.server).cache := rfl
  have htable : (w.learned client).session.table = w.session.table := rfl
  unfold Session.Fits
  rw [hcache, htable]
  cases ht : w.session.table with
  | none =>
    intro table columns he
    cases he
  | some name =>
    by_cases hl : w.session.cache.isLoadedFor name = true
    · obtain ⟨columns, he⟩ := (SchemaCache.isLoadedFor_iff name).1 hl
      rw [SchemaCache.load_of_entry _ _ _ he, ← ht]
      exact h
    · rw [Bool.not_eq_true] at hl
      rw [SchemaCache.load_of_not_isLoadedFor _ _ _ hl, SchemaCache.introspect_eq]
      intro table columns he
      obtain ⟨rfl, hcolumns⟩ := SchemaCache.entry_kept he
      exact ⟨rfl, hcolumns⟩

theorem fits_fresh (w : Work σ) :
    (w.dropped.learned client).session.Fits (client.catalog w.server) := by
  have hdropped : w.dropped.session.Fits (client.catalog w.dropped.server) :=
    Session.fits_of_cache_eq rfl _
  exact fits_learned hdropped

theorem fits_prepared (h : w.session.Fits (client.catalog w.server))
    (make : Table → Except Rejection Statement) :
    (w.prepared client make).2.session.Fits (client.catalog w.server) := by
  have hlearned := fits_learned h
  unfold prepared
  split
  · exact h
  · dsimp only
    split
    · exact hlearned
    · split
      · exact hlearned
      · exact hlearned

theorem fits_asked (h : w.session.Fits (client.catalog w.server))
    (make : Table → Except Rejection Statement) :
    (w.asked client make).2.session.Fits (client.catalog w.server) := by
  have hprepared := fits_prepared h make
  unfold asked
  split
  · rename_i heq
    rw [heq] at hprepared
    exact hprepared
  · rename_i heq
    rw [heq] at hprepared
    exact hprepared

theorem fits_moved {catalog : String → Except Error (List Column)} (h : w.session.Fits catalog)
    (answer : Except Error Answer) (database : Option String) :
    (w.moved answer database).session.Fits catalog := by
  rcases answer with e | a
  · exact h
  · cases database with
    | none => exact h
    | some db => exact Session.fits_of_cache_eq rfl _

theorem Mirrors.learned (hc : Silent client alike) (h : Mirrors client alike w v) :
    Agrees alike (w.learned client) (v.learned client) := by
  constructor
  · show w.session.forget = v.session.forget
    rw [h.session]
    rfl
  · have hw := server_learned hc w
    have hv := hc.equivalence.symm (server_learned hc v)
    exact hc.equivalence.trans hw (hc.equivalence.trans h.server hv)

/-! ### Statements -/

theorem Agrees.sent (hc : Silent client alike) (h : Agrees alike w v) (sql : String) :
    (client.execute sql w.server).1 = (client.execute sql v.server).1 ∧
      Agrees alike (w.sent client sql) (v.sent client sql) := by
  have hanswer := hc.answer h.server sql
  refine ⟨hanswer, ?_, hc.execute h.server sql⟩
  have hrecord : ∀ (u : Work σ), (u.sent client sql).session.forget =
      { u.session.forget with
        log := u.session.forget.log.record sql none (.ofAnswer (client.execute sql u.server).1) } :=
    fun _ => rfl
  rw [hrecord, hrecord, h.session, hanswer]

theorem Mirrors.prepared (hc : Silent client alike) (h : Mirrors client alike w v)
    (make : Table → Except Rejection Statement) :
    (w.prepared client make).1 = (v.prepared client make).1 ∧
      Agrees alike (w.prepared client make).2 (v.prepared client make).2 := by
  have htable : v.session.table = w.session.table := by rw [h.session]; rfl
  have hkey : v.session.primaryKey = w.session.primaryKey := by rw [h.session]; rfl
  have hlearned := h.learned hc
  unfold Work.prepared
  rw [htable, hkey, ← h.columns_eq hc]
  cases w.session.table with
  | none => exact ⟨rfl, by rw [h.session]; rfl, h.server⟩
  | some name =>
    cases w.columns client with
    | error e => exact ⟨rfl, hlearned⟩
    | ok columns =>
      dsimp only
      cases make { name, primaryKey := w.session.primaryKey, columns } with
      | error r => exact ⟨rfl, hlearned.session, hlearned.server⟩
      | ok s => exact ⟨rfl, hlearned⟩

theorem Mirrors.agrees (h : Mirrors client alike w v) : Agrees alike w v := by
  refine ⟨?_, h.server⟩
  rw [h.session]
  rfl

theorem Agrees.dropped (h : Agrees alike w v) : Mirrors client alike w.dropped v.dropped :=
  ⟨h.session.symm, h.server, Session.fits_of_cache_eq rfl _⟩

theorem Agrees.mirrors (h : Agrees alike w v) (hfits : w.session.Fits (client.catalog w.server)) :
    Mirrors client alike w v.dropped :=
  ⟨h.session.symm, h.server, hfits⟩

theorem Mirrors.asked (hc : Silent client alike) (h : Mirrors client alike w v)
    (make : Table → Except Rejection Statement) :
    (w.asked client make).1 = (v.asked client make).1 ∧
      executions (w.inquiry client make) = executions (v.inquiry client make) ∧
      Agrees alike (w.asked client make).2 (v.asked client make).2 := by
  obtain ⟨hmade, hagrees⟩ := h.prepared hc make
  unfold Work.asked Work.inquiry
  rw [Session.executions_introspection_append, Session.executions_introspection_append]
  rcases hw : w.prepared client make with ⟨made, w'⟩
  rcases hv : v.prepared client make with ⟨made', v'⟩
  rw [hw, hv] at hmade hagrees
  dsimp only at hmade hagrees
  subst hmade
  cases made with
  | error e => exact ⟨rfl, rfl, hagrees⟩
  | ok s =>
    obtain ⟨hanswer, hsent⟩ := hagrees.sent hc s.sql
    refine ⟨hanswer, ?_, hsent⟩
    dsimp only
    rw [hanswer]

theorem Agrees.moved (h : Agrees alike w v) (answer : Except Error Answer)
    (database : Option String) :
    Agrees alike (w.moved answer database) (v.moved answer database) := by
  rcases answer with e | a
  · exact h
  · cases database with
    | none => exact h
    | some db =>
      refine ⟨?_, h.server⟩
      show { w.session.forget with database := some db } =
        { v.session.forget with database := some db }
      rw [h.session]

end Work

/-! ### One operation -/

open Work

/-- Fresh columns are the same however the caches differ. -/
theorem Plan.carry_fresh_alike (hc : Silent client alike) {w v : Work σ} (h : Agrees alike w v)
    (read : Columns → Reply) :
    ((Plan.learn true read).carry client w).1 = ((Plan.learn true read).carry client v).1 ∧
      executions ((Plan.learn true read).contacts client w) =
        executions ((Plan.learn true read).contacts client v) ∧
      Agrees alike ((Plan.learn true read).carry client w).2
        ((Plan.learn true read).carry client v).2 := by
  have hdropped : Mirrors client alike w.dropped v.dropped := h.dropped
  refine ⟨congrArg (Except.map read) (hdropped.columns_eq hc), ?_, hdropped.learned hc⟩
  unfold Plan.contacts
  rw [Session.executions_introspection, Session.executions_introspection]

/-- An operation does the same with and without a cache. -/
theorem Plan.carry_alike (hc : Silent client alike) {w v : Work σ} (h : Mirrors client alike w v)
    {p q : Plan} (hpq : Plan.Alike p q) :
    (p.carry client w).1 = (q.carry client v).1 ∧
      executions (p.contacts client w) = executions (q.contacts client v) ∧
      Agrees alike (p.carry client w).2 (q.carry client v).2 := by
  cases hpq with
  | settle reply s events events' => exact ⟨rfl, rfl, rfl, h.server⟩
  | refl p =>
    cases p with
    | settle reply session events => exact ⟨rfl, rfl, rfl, h.server⟩
    | learn fresh read =>
      cases fresh with
      | true => exact Plan.carry_fresh_alike hc h.agrees read
      | false =>
        refine ⟨congrArg (Except.map read) (h.columns_eq hc), ?_, h.learned hc⟩
        unfold Plan.contacts
        rw [Session.executions_introspection, Session.executions_introspection]
    | build make read =>
      obtain ⟨hanswer, hexecutions, hagrees⟩ := h.asked hc make
      exact ⟨congrArg (Except.bind · read) hanswer, hexecutions, hagrees⟩
    | send sql read database =>
      obtain ⟨hanswer, hsent⟩ := h.agrees.sent hc sql
      unfold Plan.carry Plan.contacts
      dsimp only
      rw [hanswer]
      exact ⟨rfl, rfl, hsent.moved _ _⟩

namespace Session

theorem perform_alike (hc : Silent client alike) {w v : Work σ} (h : Mirrors client alike w v)
    (r : Request) :
    ((perform client r).run w).1 = ((perform client r).run v).1 ∧
      executions (contacts client r w) = executions (contacts client r v) ∧
      Agrees alike ((perform client r).run w).2 ((perform client r).run v).2 := by
  rw [perform_run, perform_run, contacts_eq, contacts_eq, h.session]
  exact Plan.carry_alike hc h (w.session.plan_forget r)

/-- What is cached after an operation is what the client said of the active table during it. -/
theorem fits_perform {w : Work σ} (h : w.session.Fits (client.catalog w.server)) (r : Request) :
    ((perform client r).run w).2.session.Fits (client.catalog w.server) := by
  rw [perform_run]
  cases hp : w.session.plan r with
  | settle reply s events =>
    rcases settle_cases hp with hs | ⟨_, hs⟩ | ⟨_, hs⟩ | ⟨_, hs⟩ | ⟨_, hs⟩ | ⟨-, hs⟩
    · rw [hs]
      exact h
    · rw [hs]
      exact fits_of_cache_eq rfl _
    · rw [hs]
      exact h
    · rw [hs]
      exact h
    · rw [hs]
      exact h
    · rw [hs]
      exact h
  | learn fresh read =>
    cases fresh with
    | false => exact fits_learned h
    | true => exact fits_fresh w
  | build make read => exact fits_asked h make
  | send sql read database =>
    have hsent : (w.sent client sql).session.Fits (client.catalog w.server) := h
    exact fits_moved hsent _ _

/-- The request moved the session to another database. -/
def Moves (r : Request) (reply : Except Error Reply) : Prop :=
  ∃ database, r = .selectDatabase database ∧ reply = .ok (.flag true)

theorem cache_of_moves {w : Work σ} {r : Request} (h : Moves r ((perform client r).run w).1) :
    ((perform client r).run w).2.session.cache = {} := by
  obtain ⟨database, rfl, h⟩ := h
  rw [perform_run] at h ⊢
  rw [plan] at h ⊢
  split at h
  · cases h
  · split at h
    · cases h
    · rw [if_neg ‹_›]
      rw [Plan.carry] at h ⊢
      dsimp only at h ⊢
      cases ha : (client.execute ("USE " ++ Ident.quoted database ++ ";") w.server).1 with
      | error e => rw [ha] at h; cases h
      | ok a => rfl

end Session

/-! ### Runs -/

/-- One operation of a run: a request, or a request for fresh columns after something changed the
server. -/
inductive Move (σ : Type)
  | ask (r : Request)
  | refreshAfter (change : σ → σ)

namespace Move

def request : Move σ → Request
  | .ask r => r
  | .refreshAfter _ => .refreshColumns

/-- What happens to the server before the request. -/
def before : Move σ → Work σ → Work σ
  | .ask _, w => w
  | .refreshAfter change, w => { w with server := change w.server }

/-- A change does not tell states apart that nothing else does. -/
def Respects (alike : σ → σ → Prop) : Move σ → Prop
  | .ask _ => True
  | .refreshAfter change => ∀ s t, alike s t → alike (change s) (change t)

end Move

namespace Session

/-- The replies of a run and the statements of each operation, where `start` is done to the work
before every operation. -/
def play (client : Client σ) (start : Work σ → Work σ) : List (Move σ) → Work σ →
    List (Except Error Reply × List String) × Work σ
  | [], w => ([], w)
  | m :: ms, w =>
    let v := m.before (start w)
    let o := (perform client m.request).run v
    let rest := play client start ms o.2
    ((o.1, (executions (contacts client m.request v)).map Prod.fst) :: rest.1, rest.2)

/-- Tables keep their columns in a run, except where an operation moves to another database and
where a change comes before asking for fresh columns. -/
def Steady (client : Client σ) (alike : σ → σ → Prop) : List (Move σ) → Work σ → Prop
  | [], _ => True
  | m :: ms, w =>
    let v := m.before w
    let o := (perform client m.request).run v
    m.Respects alike ∧
      (¬ Moves m.request o.1 → client.catalog o.2.server = client.catalog v.server) ∧
      Steady client alike ms o.2

/-- One operation of a run, and what it leaves behind. -/
theorem move_agrees (hc : Silent client alike) {m : Move σ} (hm : m.Respects alike)
    {w v : Work σ} (h : Work.Agrees alike w v)
    (hfits : w.session.Fits (client.catalog w.server)) :
    let x := (perform client m.request).run (m.before w)
    let y := (perform client m.request).run (m.before v.dropped)
    x.1 = y.1 ∧
      executions (contacts client m.request (m.before w)) =
        executions (contacts client m.request (m.before v.dropped)) ∧
      Work.Agrees alike x.2 y.2 ∧ x.2.session.Fits (client.catalog (m.before w).server) := by
  cases m with
  | ask r =>
    obtain ⟨hreply, hexecutions, hagrees⟩ := perform_alike hc (h.mirrors hfits) r
    exact ⟨hreply, hexecutions, hagrees, fits_perform hfits r⟩
  | refreshAfter change =>
    have hbefore : Work.Agrees alike { w with server := change w.server }
        { v.dropped with server := change v.dropped.server } :=
      ⟨h.session, hm _ _ h.server⟩
    -- what is cached need not fit the changed server, but `refreshColumns` drops it before it looks
    obtain ⟨hreply, hexecutions, hagrees⟩ := Plan.carry_fresh_alike hc hbefore .columns
    dsimp only [Move.request, Move.before]
    rw [perform_run, perform_run, contacts_eq, contacts_eq]
    exact ⟨hreply, hexecutions, hagrees, Work.fits_fresh { w with server := change w.server }⟩

theorem play_agrees (hc : Silent client alike) (ms : List (Move σ)) {w v : Work σ}
    (h : Work.Agrees alike w v) (hfits : w.session.Fits (client.catalog w.server))
    (hs : Steady client alike ms w) :
    (play client id ms w).1 = (play client Work.dropped ms v).1 ∧
      Work.Agrees alike (play client id ms w).2 (play client Work.dropped ms v).2 := by
  induction ms generalizing w v with
  | nil => exact ⟨rfl, h⟩
  | cons m ms ih =>
    obtain ⟨hm, hcatalog, hrest⟩ := hs
    obtain ⟨hreply, hexecutions, hagrees, hfits'⟩ := move_agrees hc hm h hfits
    -- the catalog changes only where the session moves, and then nothing is left in the cache
    have hfits'' : ((perform client m.request).run (m.before w)).2.session.Fits
        (client.catalog ((perform client m.request).run (m.before w)).2.server) := by
      by_cases hmoves : Moves m.request ((perform client m.request).run (m.before w)).1
      · exact fits_of_cache_eq (cache_of_moves hmoves) _
      · rw [hcatalog hmoves]
        exact hfits'
    obtain ⟨hreplies, hlast⟩ := ih hagrees hfits'' hrest
    refine ⟨?_, hlast⟩
    unfold play
    dsimp only [id_eq]
    rw [hreply, hexecutions, hreplies]

/-- With a client that stays silent about introspection, and tables that keep their columns but
where the session notices, a session does the same as one that drops its cache before every
operation. -/
theorem cache_unobservable {client : Client σ} {alike : σ → σ → Prop} (hc : Silent client alike)
    {ms : List (Move σ)} {w : Work σ} (hw : w.session.cache = {}) (hs : Steady client alike ms w) :
    (play client id ms w).1 = (play client Work.dropped ms w).1 ∧
      (play client id ms w).2.session.table = (play client Work.dropped ms w).2.session.table ∧
      (play client id ms w).2.session.database =
        (play client Work.dropped ms w).2.session.database ∧
      (play client id ms w).2.session.log = (play client Work.dropped ms w).2.session.log := by
  have hstart : Work.Agrees alike w w := ⟨rfl, hc.equivalence.refl _⟩
  obtain ⟨hreplies, hlast, -⟩ := play_agrees hc ms hstart (fits_of_cache_eq hw _) hs
  have htable : (play client id ms w).2.session.forget.table =
      (play client Work.dropped ms w).2.session.forget.table := congrArg _ hlast
  have hdatabase : (play client id ms w).2.session.forget.database =
      (play client Work.dropped ms w).2.session.forget.database := congrArg _ hlast
  have hlog : (play client id ms w).2.session.forget.log =
      (play client Work.dropped ms w).2.session.forget.log := congrArg _ hlast
  exact ⟨hreplies, htable, hdatabase, hlog⟩

/-- Tables have one column, named after a version that goes up with every USE. The server counts
the descriptions it is asked for, and nothing depends on the count. -/
def versioned : Client (Nat × Nat) where
  execute sql s :=
    (.ok (.affected { rows := UInt64.ofNat s.2 }), s.1,
      if sql.toList.head? = some 'U' then s.2 + 1 else s.2)
  describe _ s := (.ok [{ name := toString s.2, declared := "int" }], s.1 + 1, s.2)

theorem silent_versioned : Silent versioned fun s t => s.2 = t.2 where
  equivalence := ⟨fun _ => rfl, Eq.symm, Eq.trans⟩
  describe _ _ := rfl
  catalog h := by
    funext table
    simp only [Client.catalog, versioned, h]
  answer h sql := by simp only [versioned, h]
  execute h sql := by simp only [versioned, h]

/-- The columns are asked for before and after another database and before and after a change. -/
theorem cache_unobservable_versioned :
    let ms := [.ask (.withTable "t"), .ask .columns, .ask (.selectDatabase "d"), .ask .columns,
      .ask (.query "DELETE"), .refreshAfter fun s => (s.1, s.2 + 2), .ask (.columnType "3")]
    let w : Work (Nat × Nat) := ⟨{ log := { enabled := true } }, (0, 0), []⟩
    (play versioned id ms w).1 = (play versioned Work.dropped ms w).1 ∧
      (play versioned id ms w).2.session.table =
        (play versioned Work.dropped ms w).2.session.table ∧
      (play versioned id ms w).2.session.database =
        (play versioned Work.dropped ms w).2.session.database ∧
      (play versioned id ms w).2.session.log =
        (play versioned Work.dropped ms w).2.session.log := by
  refine cache_unobservable silent_versioned rfl ?_
  refine ⟨trivial, fun _ => rfl, trivial, fun _ => rfl, trivial, fun h => absurd ⟨"d", rfl, rfl⟩ h,
    trivial, fun _ => rfl, trivial, fun _ => rfl, ?_, fun _ => rfl, trivial, fun _ => rfl, trivial⟩
  intro s t h
  exact congrArg (· + 2) h

end Session

end OneTable
