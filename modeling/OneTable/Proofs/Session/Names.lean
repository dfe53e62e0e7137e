import OneTable.Proofs.Session.Failures
import OneTable.Session.Start

/-!
# Names that a server takes

A server takes no name that is empty, holds a NUL or ends in a space. Selecting a table or a
database refuses such a name; a table that is simply taken, and what stands in settings, is not
looked at. So the names of a session are accepted all along a run exactly if they are at its start
and all tables that are taken on the way are, and then every statement that a session makes itself
names what the server takes (`names_accepted_iff`).
-/

namespace OneTable

variable {σ : Type}

/-! ### Names -/

/-- The server takes the name for a table or a database. -/
structure Ident.Accepted (name : String) : Prop where
  nonempty : name.toList ≠ []
  no_nul : '\x00' ∉ name.toList
  no_space : name.toList.getLast? ≠ some ' '

theorem Ident.fault?_eq_none_iff {name : String} : fault? name = none ↔ Accepted name := by
  rw [fault?]
  split
  · rename_i h
    exact iff_of_false (fun hf => by cases hf) fun ha => ha.nonempty (List.isEmpty_iff.1 h)
  · rename_i hne
    split
    · rename_i h
      exact iff_of_false (fun hf => by cases hf) fun ha => ha.no_nul (List.contains_iff_mem.1 h)
    · rename_i hnul
      split
      · rename_i h
        exact iff_of_false (fun hf => by cases hf) fun ha => ha.no_space (beq_iff_eq.1 h)
      · rename_i hspace
        exact iff_of_true rfl ⟨fun h => hne (List.isEmpty_iff.2 h),
          fun h => hnul (List.contains_iff_mem.2 h), fun h => hspace (beq_iff_eq.2 h)⟩

instance (name : String) : Decidable (Ident.Accepted name) :=
  decidable_of_iff _ Ident.fault?_eq_none_iff

/-- The words behind which a table or a database is named. -/
def Sql.nameWords : List String := ["FROM ", "INTO ", "UPDATE ", "TABLE ", "USE "]

/-- The name stands between back-quotes where the statement names a table or a database. -/
def Sql.Names (name sql : String) : Prop :=
  ∃ before word rest, word ∈ nameWords ∧ sql = before ++ word ++ Ident.quoted name ++ rest

/-! ### Statements about a table -/

namespace Table

variable {t : Table} {s : Statement}

theorem names_read (head tail : String) :
    Sql.Names t.name (head ++ " FROM " ++ t.quotedName ++ tail) := by
  have hword : " FROM " = " " ++ "FROM " := by decide
  refine ⟨head ++ " ", "FROM ", tail, by decide, ?_⟩
  rw [hword, quotedName, ← String.append_assoc]

theorem names_insert {rs : List Record} (h : t.insert rs = .ok s) : Sql.Names t.name s.sql := by
  have hword : "INSERT INTO " = "INSERT " ++ "INTO " := by decide
  unfold insert at h
  split at h
  · cases h
  · split at h
    · cases h
    · cases h
      refine ⟨"INSERT ", "INTO ", " (" ++ ",".intercalate (t.columns.names.map Ident.quoted) ++
        ") VALUES " ++ ",".intercalate (rs.map t.tuple) ++ ";", by decide, ?_⟩
      delta Statement.ofSql insertSql
      simp only [hword, quotedName, String.append_assoc]

theorem names_updateSql (set clause : String) (o : Options) :
    Sql.Names t.name (t.updateSql set clause o) := by
  refine ⟨"", "UPDATE ", " SET " ++ set ++ Statement.spaced clause ++ o.updateTail ++ ";",
    by decide, ?_⟩
  delta updateSql
  simp only [quotedName, String.append_assoc, String.empty_append]

theorem names_update {c : Condition} {r : Record} {o : Options} (h : t.update c r o = .ok s) :
    Sql.Names t.name s.sql := by
  unfold update at h
  dsimp only at h
  split at h
  · cases h
  · split at h
    · cases h
    · cases h
      exact names_updateSql _ _ _

theorem names_increment {c : Condition} {column : String} {step : Value} {o : Options}
    (h : t.increment c column step o = .ok s) : Sql.Names t.name s.sql := by
  unfold increment at h
  split at h
  · cases h
    exact names_updateSql _ _ _
  · cases h
  · cases h

theorem names_delete (c : Condition) (o : Options) : Sql.Names t.name (t.delete c o).sql := by
  have hword : "DELETE FROM " = "DELETE " ++ "FROM " := by decide
  refine ⟨"DELETE ", "FROM ", Statement.spaced (c.compile o.operator t) ++ o.compile ++ ";",
    by decide, ?_⟩
  delta delete Statement.ofSql deleteSql
  simp only [hword, quotedName, String.append_assoc]

end Table

/-! ### What an operation does to names -/

/-- The table and the database of the session are names that the server takes. -/
structure Session.Named (s : Session) : Prop where
  table : ∀ name ∈ s.table, Ident.Accepted name
  database : ∀ name ∈ s.database, Ident.Accepted name

/-- What a plan for the request `r` in the session `s` does to names: it may make a table the active
one, and only a table that is simply taken is not looked at; it builds statements about the table
that it builds them for; it sends a statement as it was given, or moves to a database that was
looked at, or sends a statement about the active table. -/
def Plan.Naming (s : Session) (r : Request) : Plan → Prop
  | .settle _ s' _ => s'.database = s.database ∧ (s'.table = s.table ∨
      ∃ name, s'.table = some name ∧ (r = .withTable name ∨ Ident.Accepted name))
  | .learn .. => True
  | .build make _ => ∀ (t : Table) (st : Statement), make t = .ok st → Sql.Names t.name st.sql
  | .send sql _ (some name) =>
    r = .selectDatabase name ∧ Ident.Accepted name ∧ Sql.Names name sql
  | .send sql _ none => r = .query sql ∨ ∃ name, s.table = some name ∧ Sql.Names name sql

namespace Session

theorem naming_settle {s s' : Session} {r : Request} {reply : Except Error Reply}
    {events : List Event} (htable : s'.table = s.table) (hdatabase : s'.database = s.database) :
    (Plan.settle reply s' events).Naming s r :=
  ⟨hdatabase, .inl htable⟩

theorem naming_sendNamed (s : Session) (r : Request) {before : String} {sql : String → String}
    (hsql : ∀ name, sql name = before ++ "TABLE " ++ name ++ ";") (read : Answer → Reply) :
    (s.sendNamed sql read).Naming s r := by
  rw [sendNamed]
  split
  · rename_i name hname
    exact .inr ⟨name, hname, before, "TABLE ", ";", by decide, hsql _⟩
  · exact naming_settle rfl rfl

theorem naming_plan (s : Session) (r : Request) : (s.plan r).Naming s r := by
  cases r with
  | withTable table => exact ⟨rfl, .inr ⟨table, rfl, .inl rfl⟩⟩
  | withPrimaryKey key => exact naming_settle rfl rfl
  | withLog on => exact naming_settle rfl rfl
  | withHook hook => exact naming_settle rfl rfl
  | takeLog => exact naming_settle rfl rfl
  | columns => trivial
  | refreshColumns => trivial
  | columnType column => trivial
  | selectTable table =>
    rw [plan]
    cases hfault : Ident.fault? table with
    | some f => exact naming_settle rfl rfl
    | none =>
      dsimp only
      split
      · exact naming_settle rfl rfl
      · exact ⟨rfl, .inr ⟨table, rfl, .inr (Ident.fault?_eq_none_iff.1 hfault)⟩⟩
  | selectDatabase database =>
    rw [plan]
    cases hfault : Ident.fault? database with
    | some f => exact naming_settle rfl rfl
    | none =>
      dsimp only
      split
      · exact naming_settle rfl rfl
      · exact ⟨rfl, Ident.fault?_eq_none_iff.1 hfault, "", "USE ", ";", by decide,
          by rw [String.empty_append]⟩
  | query sql =>
    rw [plan]
    split
    · exact naming_settle rfl rfl
    · exact .inl rfl
  | optimize unlogged => exact s.naming_sendNamed _ (fun _ => rfl) _
  | truncate sure =>
    rw [plan]
    split
    · have hword : "TRUNCATE TABLE " = "TRUNCATE " ++ "TABLE " := by decide
      exact s.naming_sendNamed _ (fun _ => by rw [hword]) _
    · exact naming_settle rfl rfl
  | countGrouped c o =>
    rw [plan]
    split
    · exact naming_settle rfl rfl
    · rintro t _ ⟨⟩; exact Table.names_read _ _
  | find c o => rintro t _ ⟨⟩; exact Table.names_read _ _
  | findOne c o => rintro t _ ⟨⟩; exact Table.names_read _ _
  | findAll c o => rintro t _ ⟨⟩; exact Table.names_read _ _
  | findAllIndexed c o index => rintro t _ ⟨⟩; exact Table.names_read _ _
  | random limit c => rintro t _ ⟨⟩; exact Table.names_read _ _
  | count c o => rintro t _ ⟨⟩; exact Table.names_read _ _
  | insert rs => exact fun _ _ => Table.names_insert
  | updateFirst c r o => exact fun _ _ => Table.names_update
  | updateAll c r o => exact fun _ _ => Table.names_update
  | increment c column step o => exact fun _ _ => Table.names_increment
  | deleteFirst c o => rintro t _ ⟨⟩; exact Table.names_delete _ _
  | deleteAll c o => rintro t _ ⟨⟩; exact Table.names_delete _ _

/-- The database changes to an accepted name only, and so does the table but where it is simply
taken. -/
theorem names_perform (client : Client σ) (r : Request) (w : Work σ) :
    let v := ((perform client r).run w).2.session
    (v.table = w.session.table ∨
      ∃ name, v.table = some name ∧ (r = .withTable name ∨ Ident.Accepted name)) ∧
    (v.database = w.session.database ∨ ∃ name, v.database = some name ∧ Ident.Accepted name) := by
  intro v
  have hv : v = ((w.session.plan r).carry client w).2.session := by rw [← perform_run]
  have hnaming := w.session.naming_plan r
  rw [hv]
  cases hp : w.session.plan r with
  | settle reply s events =>
    rw [hp] at hnaming
    exact ⟨hnaming.2, .inl hnaming.1⟩
  | learn fresh read => cases fresh <;> exact ⟨.inl rfl, .inl rfl⟩
  | build make read =>
    -- what is learned and sent on the way touches the cache and the log alone
    have hplace : (w.asked client make).2.session.place = w.session.place := Work.place_asked make
    simp only [place, Prod.mk.injEq] at hplace
    exact ⟨.inl hplace.1, .inl hplace.2.1⟩
  | send sql read database =>
    cases database with
    | none => rw [Plan.carry_send_none]; exact ⟨.inl rfl, .inl rfl⟩
    | some name =>
      rw [hp] at hnaming
      dsimp only [Plan.carry]
      cases (client.execute sql w.server).1 with
      | error e => rw [Work.moved_error]; exact ⟨.inl rfl, .inl rfl⟩
      | ok a => exact ⟨.inl rfl, .inr ⟨name, rfl, hnaming.2.1⟩⟩

theorem Named.perform {w : Work σ} (h : w.session.Named) (client : Client σ) {r : Request}
    (hr : ∀ table, r = .withTable table → Ident.Accepted table) :
    ((perform client r).run w).2.session.Named := by
  obtain ⟨htable, hdatabase⟩ := names_perform client r w
  constructor
  · rcases htable with heq | ⟨name, heq, hname⟩
    · rw [heq]
      exact h.table
    · rw [heq]
      rintro _ ⟨⟩
      exact hname.elim (hr name) id
  · rcases hdatabase with heq | ⟨name, heq, hname⟩
    · rw [heq]
      exact h.database
    · rw [heq]
      rintro _ ⟨⟩
      exact hname

end Session

/-! ### What reaches the client -/

/-- What the request `r` asks of the client in the session `s`: a description of the active table, a
statement that names it or the database that is asked for, under a name that is accepted, or a
statement as it is given. -/
inductive Contact.Accepted (s : Session) (r : Request) : Contact → Prop
  | described {table : String} {answer : Except Error (List Column)} (htable : s.table = some table)
    (h : Ident.Accepted table) : Accepted s r (.described table answer)
  | naming {name sql : String} {answer : Except Error Answer}
    (hname : s.table = some name ∨ r = .selectDatabase name) (h : Ident.Accepted name)
    (hsql : Sql.Names name sql) : Accepted s r (.executed sql answer)
  | given {sql : String} {answer : Except Error Answer} (h : r = .query sql) :
    Accepted s r (.executed sql answer)

namespace Session

variable {client : Client σ} {r : Request} {rs : List Request} {w : Work σ} {c : Contact}

theorem Named.accepted_introspection {s : Session} (h : s.Named)
    (htable : w.session.table = s.table) (hc : c ∈ w.introspection client) : c.Accepted s r := by
  unfold Work.introspection at hc
  rw [htable] at hc
  split at hc
  · cases hc
  · rename_i name hname
    split at hc
    · cases hc
    · rw [List.mem_singleton.1 hc]
      exact .described hname (h.table name hname)

theorem Named.accepted_contacts (h : w.session.Named) (hc : c ∈ contacts client r w) :
    c.Accepted w.session r := by
  have hnaming := w.session.naming_plan r
  rw [contacts_eq] at hc
  cases hp : w.session.plan r with
  | settle reply s events => rw [hp] at hc; cases hc
  | learn fresh read =>
    rw [hp] at hc
    cases fresh with
    | false => exact h.accepted_introspection rfl hc
    | true => exact h.accepted_introspection (w := w.dropped) rfl hc
  | build make read =>
    rw [hp] at hc hnaming
    rcases List.mem_append.1 hc with hc | hc
    · exact h.accepted_introspection rfl hc
    · split at hc
      · rename_i s w' hs
        obtain ⟨t, ⟨htable, -, -⟩, hmake, -⟩ := Work.prepared_ok hs
        rw [List.mem_singleton.1 hc]
        exact .naming (.inl htable) (h.table _ htable) (hnaming t s hmake)
      · cases hc
  | send sql read database =>
    rw [hp] at hc hnaming
    rw [List.mem_singleton.1 hc]
    cases database with
    | some name => exact .naming (.inr hnaming.1) hnaming.2.1 hnaming.2.2
    | none =>
      rcases hnaming with hr | ⟨name, hname, hsql⟩
      · exact .given hr
      · exact .naming (.inl hname) (h.table name hname) hsql

/-! ### Runs -/

/-- The sessions of a run: the first one, and one after each request. -/
def sessions (client : Client σ) : List Request → Work σ → List Session
  | [], w => [w.session]
  | r :: rs, w => w.session :: sessions client rs ((perform client r).run w).2

theorem named_sessions_iff :
    (∀ s ∈ sessions client rs w, s.Named) ↔
      w.session.Named ∧ ∀ table, .withTable table ∈ rs → Ident.Accepted table := by
  induction rs generalizing w with
  | nil => simp [sessions]
  | cons r rs ih =>
    rw [sessions, List.forall_mem_cons, ih]
    constructor
    · rintro ⟨hw, hnext, hrs⟩
      -- a table that is taken is the active one right after
      refine ⟨hw, fun table htable => ?_⟩
      rcases List.mem_cons.1 htable with rfl | htable
      · exact hnext.table table rfl
      · exact hrs table htable
    · rintro ⟨hw, hrs⟩
      refine ⟨hw, hw.perform client ?_, fun table htable => hrs table (.tail _ htable)⟩
      rintro table rfl
      exact hrs table (.head _)

/-- The steps of a run: each request, and the work before it. -/
def steps (client : Client σ) : List Request → Work σ → List (Request × Work σ)
  | [], _ => []
  | r :: rs, w => (r, w) :: steps client rs ((perform client r).run w).2

theorem session_mem_sessions {x : Request × Work σ} (h : x ∈ steps client rs w) :
    x.2.session ∈ sessions client rs w := by
  induction rs generalizing w with
  | nil => cases h
  | cons r rs ih =>
    rcases List.mem_cons.1 h with rfl | h
    · exact .head _
    · exact .tail _ (ih h)

/-- The names of a session are accepted at every point of a run exactly if they are at its start and
all tables that are taken on the way are. Then whatever a request asks of the client names the
active table or the database that is asked for, under an accepted name, but for statements as they
are given. A new session has no names, and one from settings has theirs. -/
theorem names_accepted_iff (client : Client σ) :
    (∀ name, Ident.fault? name = none ↔ Ident.Accepted name) ∧
    ({} : Session).Named ∧
    (∀ settings : Settings, (ofSettings settings).Named ↔
      (∀ name ∈ settings.table, Ident.Accepted name) ∧
        ∀ name ∈ settings.database, Ident.Accepted name) ∧
    ∀ rs w,
      ((∀ s ∈ sessions client rs w, s.Named) ↔
        w.session.Named ∧ ∀ table, .withTable table ∈ rs → Ident.Accepted table) ∧
      ((∀ s ∈ sessions client rs w, s.Named) → ∀ x ∈ steps client rs w,
        ∀ c ∈ contacts client x.1 x.2, c.Accepted x.2.session x.1) := by
  refine ⟨fun _ => Ident.fault?_eq_none_iff, ⟨nofun, nofun⟩, fun settings => ?_, fun rs w => ?_⟩
  · exact ⟨fun h => ⟨h.table, h.database⟩, fun h => ⟨h.1, h.2⟩⟩
  · exact ⟨named_sessions_iff, fun h x hx _ =>
      (h x.2.session (session_mem_sessions hx)).accepted_contacts⟩

/-- Selecting a table and a database, taking a table and giving a statement. -/
theorem names_accepted_selected :
    let client : Client Nat :=
      .ofExecute fun _ n => (.ok (.rows [⟨[("Field", .text "id")], by decide⟩]), n + 1)
    let rs : List Request := [.selectTable "posts", .findAll .all .empty, .selectTable "posts ",
      .withTable "a\x60b", .selectDatabase "blog", .query "OPTIMIZE TABLE \x60x \x60;",
      .deleteAll (.byId 1) .empty]
    (∀ s ∈ sessions client rs ⟨{}, 0, []⟩, s.Named) ∧
      ∀ x ∈ steps client rs ⟨{}, 0, []⟩, ∀ c ∈ contacts client x.1 x.2,
        c.Accepted x.2.session x.1 := by
  intro client rs
  obtain ⟨-, hnew, -, hrun⟩ := names_accepted_iff client
  have htables : ∀ table, .withTable table ∈ rs → Ident.Accepted table := by
    intro table htable
    have heq : table = "a\x60b" := by simpa [rs] using htable
    rw [heq]
    decide
  have hnamed := (hrun rs ⟨{}, 0, []⟩).1.2 ⟨hnew, htables⟩
  exact ⟨hnamed, (hrun rs ⟨{}, 0, []⟩).2 hnamed⟩

/-- A table that is taken is named whatever its name is. -/
theorem refused_name_is_sent :
    let client : Client Nat :=
      .ofExecute fun _ n => (.ok (.rows [⟨[("Field", .text "id")], by decide⟩]), n + 1)
    let rs : List Request := [.withTable "posts ", .findAll .all .empty]
    (performAll client rs ⟨{}, 0, []⟩).2.session.table = some "posts " ∧
      ¬ Ident.Accepted "posts " ∧
      (allContacts client rs ⟨{}, 0, []⟩).map Contact.sql =
        ["SHOW COLUMNS FROM \x60posts \x60;", "SELECT * FROM \x60posts \x60;"] := by
  intro client rs
  exact ⟨rfl, by decide, by decide +kernel⟩

end Session

end OneTable
