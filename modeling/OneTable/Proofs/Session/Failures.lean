import OneTable.Proofs.Session.Introspection

/-!
# Failed operations

An operation that fails leaves the session where it was: table, database and primary key are those
before it (`failure_keeps_place`). A failed change of the table or of the database also leaves the
cache alone; any other operation may have introspected before it failed, and then what it learned is
kept. A session moves to a database by exactly one USE that goes through, and only after it.
-/

namespace OneTable

variable {σ : Type} {client : Client σ} {w : Work σ}

namespace Session

/-- Where a session works: its table, its database and the column that identifies a row. -/
def place (s : Session) : Option String × Option String × String :=
  (s.table, s.database, s.primaryKey)

/-- An operation that is refused on the spot changes nothing. -/
theorem eq_of_settle_error {s s' : Session} {r : Request} {e : Error} {events : List Event}
    (h : s.plan r = .settle (.error e) s' events) : s' = s := by
  cases r with
  | selectTable table =>
    rcases s.selectTable_cases table with ⟨f, -, hp⟩ | ⟨-, hp⟩ | ⟨-, hp⟩
    · rw [hp] at h; cases h; rfl
    · rw [hp] at h; cases h
    · rw [hp] at h; cases h
  | selectDatabase database =>
    rcases s.selectDatabase_cases database with ⟨f, -, hp⟩ | ⟨-, -, hp⟩ | ⟨-, hp⟩
    · rw [hp] at h; cases h; rfl
    · rw [hp] at h; cases h
    · rw [hp] at h; cases h
  | countGrouped c o =>
    rw [plan] at h
    split at h
    · cases h; rfl
    · cases h
  | query sql =>
    rw [plan] at h
    split at h
    · cases h; rfl
    · cases h
  | optimize unlogged =>
    rw [plan, sendNamed] at h
    split at h
    · cases h
    · cases h; rfl
  | truncate sure =>
    rw [plan, sendNamed] at h
    split at h
    · split at h
      · cases h
      · cases h; rfl
    · cases h
  | _ => cases h

end Session

namespace Work

theorem place_prepared (make : Table → Except Rejection Statement) :
    (w.prepared client make).2.session.place = w.session.place := by
  rw [session_prepared]
  split
  · rfl
  · rfl

theorem place_asked (make : Table → Except Rejection Statement) :
    (w.asked client make).2.session.place = w.session.place := by
  obtain ⟨log, h⟩ := w.session_asked client make
  rw [h]
  exact place_prepared make

/-- A statement that did not go through moves the session nowhere. -/
theorem moved_error (e : Error) (database : Option String) : w.moved (.error e) database = w := by
  cases database <;> rfl

end Work

namespace Session

theorem place_of_error {r : Request} {e : Error} (h : ((perform client r).run w).1 = .error e) :
    ((perform client r).run w).2.session.place = w.session.place := by
  rw [perform_run] at h ⊢
  cases hp : w.session.plan r with
  | settle reply s events =>
    rw [hp] at h
    dsimp only [Plan.carry] at h ⊢
    subst h
    rw [eq_of_settle_error hp]
  | learn fresh read => cases fresh <;> rfl
  | build make read => exact Work.place_asked make
  | send sql read database =>
    rw [hp] at h
    dsimp only [Plan.carry] at h ⊢
    cases ha : (client.execute sql w.server).1 with
    | error e => rw [Work.moved_error]; rfl
    | ok a => rw [ha] at h; cases h

theorem cache_of_selectTable_error {table : String} {e : Error}
    (h : ((perform client (.selectTable table)).run w).1 = .error e) :
    ((perform client (.selectTable table)).run w).2.session.cache = w.session.cache := by
  rw [perform_run] at h ⊢
  rcases w.session.selectTable_cases table with ⟨f, -, hp⟩ | ⟨-, hp⟩ | ⟨-, hp⟩
  · rw [hp]; rfl
  · rw [hp]; rfl
  · rw [hp] at h; cases h

theorem cache_of_selectDatabase_error {database : String} {e : Error}
    (h : ((perform client (.selectDatabase database)).run w).1 = .error e) :
    ((perform client (.selectDatabase database)).run w).2.session.cache = w.session.cache := by
  rw [perform_run] at h ⊢
  rcases w.session.selectDatabase_cases database with ⟨f, -, hp⟩ | ⟨-, -, hp⟩ | ⟨-, hp⟩
  · rw [hp]; rfl
  · rw [hp]; rfl
  · rw [hp] at h ⊢
    dsimp only [Plan.carry] at h ⊢
    cases ha : (client.execute ("USE " ++ Ident.quoted database ++ ";") w.server).1 with
    | error e => rw [Work.moved_error]; rfl
    | ok a => rw [ha] at h; cases h

/-- The cache is as it was, or empty, or what this operation has learned of the active table. -/
theorem cache_perform (client : Client σ) (r : Request) (w : Work σ) :
    let o := (perform client r).run w
    o.2.session.cache = w.session.cache ∨ o.2.session.cache = {} ∨
      ∃ table list, o.2.session.table = some table ∧
        introspections (contacts client r w) = [(table, .ok list)] ∧
        o.2.session.cache.entry = some (table, .ofList list) := by
  intro o
  have hstep : w.session.CacheStep o.2.session (introspections (contacts client r w)) :=
    cacheStep_perform client r w
  generalize introspections (contacts client r w) = is at hstep ⊢
  cases hstep with
  | kept _ cache => exact .inl cache
  | dropped cache => exact .inr (.inl cache)
  | @asked table answer htable hcache =>
    rw [hcache]
    cases answer with
    | error e => exact .inr (.inl rfl)
    | ok list =>
      cases hne : (Columns.ofList list).isEmpty with
      | true => exact .inr (.inl (by rw [SchemaCache.kept, hne]; rfl))
      | false => exact .inr (.inr ⟨table, list, htable, rfl, by rw [SchemaCache.kept, hne]; rfl⟩)

/-- A session that says it moved has run one USE, which went through, and has nothing cached. -/
theorem selectDatabase_moved {database : String}
    (h : ((perform client (.selectDatabase database)).run w).1 = .ok (.flag true)) :
    (∃ a, contacts client (.selectDatabase database) w =
        [.executed ("USE " ++ Ident.quoted database ++ ";") (.ok a)]) ∧
      ((perform client (.selectDatabase database)).run w).2.session.database = some database ∧
      ((perform client (.selectDatabase database)).run w).2.session.cache = {} := by
  rw [perform_run] at h ⊢
  rw [contacts_eq]
  rcases w.session.selectDatabase_cases database with ⟨f, -, hp⟩ | ⟨-, -, hp⟩ | ⟨-, hp⟩
  · rw [hp] at h; cases h
  · rw [hp] at h; cases h
  · rw [hp] at h ⊢
    dsimp only [Plan.carry, Plan.contacts] at h ⊢
    cases ha : (client.execute ("USE " ++ Ident.quoted database ++ ";") w.server).1 with
    | error e => rw [ha] at h; cases h
    | ok a => exact ⟨⟨a, rfl⟩, rfl, rfl⟩

/-- A session that stays in its database asks nothing of the client. -/
theorem selectDatabase_stayed {database : String}
    (h : ((perform client (.selectDatabase database)).run w).1 = .ok (.flag false)) :
    contacts client (.selectDatabase database) w = [] := by
  rw [perform_run] at h
  rw [contacts_eq]
  rcases w.session.selectDatabase_cases database with ⟨f, -, hp⟩ | ⟨-, -, hp⟩ | ⟨-, hp⟩
  · rw [hp]; rfl
  · rw [hp]; rfl
  · rw [hp] at h
    dsimp only [Plan.carry] at h
    cases ha : (client.execute ("USE " ++ Ident.quoted database ++ ";") w.server).1 with
    | error e => rw [ha] at h; cases h
    | ok a => rw [ha] at h; cases h

theorem selectDatabase_refused {database : String} {f : Ident.Fault}
    (h : Ident.fault? database = some f) :
    ((perform client (.selectDatabase database)).run w).1 = .error f.toError ∧
      contacts client (.selectDatabase database) w = [] := by
  rw [perform_run, contacts_eq]
  rcases w.session.selectDatabase_cases database with ⟨g, hg, hp⟩ | ⟨hg, -, -⟩ | ⟨hg, -⟩
  · rw [h] at hg
    cases hg
    rw [hp]
    exact ⟨rfl, rfl⟩
  · rw [h] at hg; cases hg
  · rw [h] at hg; cases hg

/-- What an operation leaves behind. If it fails, the table, the database and the primary key are
those before it, and if it was to change the table or the database, so is the cache. The cache after
any operation is that before it, or empty, or what it has just learned of the active table. Moving
to a database takes exactly one USE, which goes through, and leaves nothing cached; a session that
is there already, or is given a name that no database can have, asks nothing of the client. -/
theorem failure_keeps_place (client : Client σ) (r : Request) (w : Work σ) :
    let o := (perform client r).run w
    (∀ e, o.1 = .error e →
      o.2.session.table = w.session.table ∧ o.2.session.database = w.session.database ∧
      o.2.session.primaryKey = w.session.primaryKey ∧
      ∀ name, r = .selectTable name ∨ r = .selectDatabase name →
        o.2.session.cache = w.session.cache) ∧
    (o.2.session.cache = w.session.cache ∨ o.2.session.cache = {} ∨
      ∃ table list, o.2.session.table = some table ∧
        introspections (contacts client r w) = [(table, .ok list)] ∧
        o.2.session.cache.entry = some (table, .ofList list)) ∧
    ∀ database, r = .selectDatabase database →
      (o.1 = .ok (.flag true) →
        (∃ a, contacts client r w =
          [.executed ("USE " ++ Ident.quoted database ++ ";") (.ok a)]) ∧
        o.2.session.database = some database ∧ o.2.session.cache = {}) ∧
      (o.1 = .ok (.flag false) → contacts client r w = []) ∧
      ∀ f, Ident.fault? database = some f →
        o.1 = .error f.toError ∧ contacts client r w = [] := by
  intro o
  refine ⟨fun e he => ?_, cache_perform client r w, ?_⟩
  · have hplace : o.2.session.place = w.session.place := place_of_error he
    refine ⟨congrArg Prod.fst hplace, congrArg (fun p => p.2.1) hplace,
      congrArg (fun p => p.2.2) hplace, ?_⟩
    rintro name (rfl | rfl)
    · exact cache_of_selectTable_error he
    · exact cache_of_selectDatabase_error he
  · rintro database rfl
    exact ⟨selectDatabase_moved, selectDatabase_stayed, fun f => selectDatabase_refused⟩

/-- A USE that fails with columns cached, one that goes through, and one with a name that ends in a
space. -/
theorem failure_keeps_place_use :
    let client : Client Bool :=
      .ofExecute fun _ ready => (if ready then .ok (.rows []) else .error (.query "down"), true)
    let s : Session :=
      { table := some "t", cache := ⟨some ("t", .ofList [⟨"a", "", false, false⟩])⟩ }
    let refused := (perform client (.selectDatabase "d")).run ⟨s, false, []⟩
    let moved := (perform client (.selectDatabase "d")).run ⟨s, true, []⟩
    (refused.2.session.table = some "t" ∧ refused.2.session.database = none ∧
      refused.2.session.primaryKey = "id" ∧ refused.2.session.cache = s.cache) ∧
    (moved.2.session.database = some "d" ∧ moved.2.session.cache = {} ∧
      ∃ a, contacts client (.selectDatabase "d") ⟨s, true, []⟩ =
        [.executed "USE `d`;" (.ok a)]) ∧
    contacts client (.selectDatabase "d ") ⟨s, true, []⟩ = [] := by
  intro client s refused moved
  have hrefused := (failure_keeps_place client (.selectDatabase "d") ⟨s, false, []⟩).1
    (.query "down") rfl
  have hmoved :=
    ((failure_keeps_place client (.selectDatabase "d") ⟨s, true, []⟩).2.2 "d" rfl).1 rfl
  have hname := ((failure_keeps_place client (.selectDatabase "d ") ⟨s, true, []⟩).2.2 "d " rfl).2.2
    (.endsWithSpace "d ") (by decide)
  obtain ⟨htable, hdatabase, hkey, hcache⟩ := hrefused
  obtain ⟨⟨a, ha⟩, hd, hc⟩ := hmoved
  exact ⟨⟨htable, hdatabase, hkey, hcache "d" (.inr rfl)⟩, ⟨hd, hc, a, ha⟩, hname.2⟩

end Session

end OneTable
