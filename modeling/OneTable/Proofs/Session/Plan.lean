import OneTable.Session.Request

/-!
# What the operations come down to

Every operation does one of four things: it settles everything on the spot, it learns the columns of
the table, it builds a statement about the table and sends it, or it sends a statement that needs no
columns. `Session.plan` says which, from the request and the session alone, and `Plan.carry` carries
a plan out on a session at work. `Session.perform_run` is the equation between the two and
`Session.perform`; what is to be shown of every operation is shown of the four kinds of plans. The
operations that build a statement differ in the statement and in how they read the answer alone,
which `Session.Asks` says of an action.
-/

namespace OneTable

variable {σ : Type}

/-! ### Steps of the work -/

namespace Work

/-- The work after a statement was sent: announced, logged and left to the server. -/
def sent (client : Client σ) (sql : String) (w : Work σ) : Work σ :=
  let a := client.execute sql w.server
  { session := { w.session with log := w.session.log.record sql none (.ofAnswer a.1) }
    server := a.2
    events := w.events ++ [w.session.hook.event sql (.ofAnswer a.1)] }

/-- The columns of the active table, or why they are not known. -/
def columns (client : Client σ) (w : Work σ) : Except Error Columns :=
  (w.session.cache.load client w.session.table w.server).result

/-- The work after the columns of the active table were looked up. -/
def learned (client : Client σ) (w : Work σ) : Work σ :=
  let l := w.session.cache.load client w.session.table w.server
  { session := { w.session with cache := l.cache }
    server := l.server
    events := w.events ++ l.events }

def dropped (w : Work σ) : Work σ :=
  { w with
    session := { w.session with cache := {} }
    events := w.events ++ w.session.cache.dropEvents }

/-- Learns the columns of the active table and builds a statement about it. -/
def prepared (client : Client σ) (make : Table → Except Rejection Statement) (w : Work σ) :
    Except Error Statement × Work σ :=
  match w.session.table with
  | none => (.error Session.noTable, w)
  | some name =>
    let l := w.learned client
    match w.columns client with
    | .error e => (.error e, l)
    | .ok columns =>
      match make { name, primaryKey := w.session.primaryKey, columns } with
      | .error r => (.error r.toError, { l with events := l.events ++ [.statementRejected r] })
      | .ok s => (.ok s, l)

/-- The active table with its columns, as statements are built about it. -/
structure Active (client : Client σ) (w : Work σ) (t : Table) : Prop where
  name : w.session.table = some t.name
  key : t.primaryKey = w.session.primaryKey
  columns : w.columns client = .ok t.columns

theorem prepared_ok {client : Client σ} {make : Table → Except Rejection Statement}
    {w w' : Work σ} {s : Statement} (h : w.prepared client make = (.ok s, w')) :
    ∃ t : Table, w.Active client t ∧ make t = .ok s ∧ w' = w.learned client := by
  unfold prepared at h
  split at h
  · cases h
  · rename_i name hname
    dsimp only at h
    split at h
    · cases h
    · rename_i columns hcolumns
      split at h
      · cases h
      · rename_i hmake
        cases h
        exact ⟨_, ⟨hname, rfl, hcolumns⟩, hmake, rfl⟩

/-- Without a table or its columns no statement is built. -/
theorem prepared_of_not_active {client : Client σ} {w : Work σ} (h : ∀ t, ¬ w.Active client t)
    (make : Table → Except Rejection Statement) : ∃ e, (w.prepared client make).1 = .error e := by
  unfold prepared
  split
  · exact ⟨_, rfl⟩
  · rename_i name hname
    dsimp only
    split
    · exact ⟨_, rfl⟩
    · rename_i columns hcolumns
      exact absurd ⟨hname, rfl, hcolumns⟩ (h ⟨name, w.session.primaryKey, columns⟩)

/-- Builds a statement about the active table and sends it. -/
def asked (client : Client σ) (make : Table → Except Rejection Statement) (w : Work σ) :
    Except Error Answer × Work σ :=
  match w.prepared client make with
  | (.ok s, w) => ((client.execute s.sql w.server).1, w.sent client s.sql)
  | (.error e, w) => (.error e, w)

/-- The work after it moved to a database. -/
def switched (database : String) (w : Work σ) : Work σ :=
  dropped { w with session := { w.session with database := some database } }

/-- Moves to the database, if there is one, once the statement has gone through. -/
def moved (answer : Except Error Answer) (database : Option String) (w : Work σ) : Work σ :=
  match answer, database with
  | .ok _, some db => w.switched db
  | _, _ => w

end Work

/-! ### Plans -/

inductive Plan
  /-- Nothing to ask: a reply, the session and the events it makes. -/
  | settle (reply : Except Error Reply) (session : Session) (events : List Event)
  /-- The columns of the table, `fresh` ones from the server. -/
  | learn (fresh : Bool) (read : Columns → Reply)
  /-- A statement about the table and its columns. -/
  | build (make : Table → Except Rejection Statement) (read : Answer → Except Error Reply)
  /-- A statement as it stands; if it goes through, the session may move to a database. -/
  | send (sql : String) (read : Answer → Reply) (database : Option String)

namespace Plan

def carry (client : Client σ) (w : Work σ) : Plan → Except Error Reply × Work σ
  | .settle reply session events => (reply, { w with session, events := w.events ++ events })
  | .learn fresh read =>
    let w := if fresh then w.dropped else w
    ((w.columns client).map read, w.learned client)
  | .build make read => ((w.asked client make).1.bind read, (w.asked client make).2)
  | .send sql read database =>
    let answer := (client.execute sql w.server).1
    (answer.map read, (w.sent client sql).moved answer database)

@[simp] theorem carry_settle_nil (client : Client σ) (w : Work σ) (reply : Except Error Reply)
    (s : Session) : carry client w (.settle reply s []) = (reply, { w with session := s }) := by
  simp [carry]

theorem carry_send_none (client : Client σ) (w : Work σ) (sql : String) (read : Answer → Reply) :
    carry client w (.send sql read none) =
      ((client.execute sql w.server).1.map read, w.sent client sql) := by
  rw [carry, Work.moved]
  exact fun _ _ _ h => by cases h

end Plan

namespace Session

/-- A statement about the active table, if there is one. -/
def sendNamed (s : Session) (sql : String → String) (read : Answer → Reply) : Plan :=
  match s.table with
  | some table => .send (sql (Ident.quoted table)) read none
  | none => .settle (.error noTable) s []

def plan (s : Session) : Request → Plan
  | .withTable table => .settle (.ok .done) (s.withTable table) s.cache.dropEvents
  | .withPrimaryKey key => .settle (.ok .done) (s.withPrimaryKey key) []
  | .withLog on => .settle (.ok .done) (s.withLog on) []
  | .withHook hook => .settle (.ok .done) (s.withHook hook) []
  | .selectTable table =>
    match Ident.fault? table with
    | some f => .settle (.error f.toError) s []
    | none =>
      if s.table = some table then .settle (.ok .done) s []
      else .settle (.ok .done) { s with table := some table, cache := {} }
        (.tableSelected table :: s.cache.dropEvents)
  | .selectDatabase database =>
    match Ident.fault? database with
    | some f => .settle (.error f.toError) s []
    | none =>
      if s.database = some database then .settle (.ok (.flag false)) s []
      else .send ("USE " ++ Ident.quoted database ++ ";") (fun _ => .flag true) (some database)
  | .columns => .learn false .columns
  | .refreshColumns => .learn true .columns
  | .columnType column => .learn false fun cs => .columnType (cs.typeOf? column)
  | .find c o =>
    .build (fun t => .ok (t.find c (o.setDefault "limit" "1"))) fun a => .ok (.row a.toRows.head?)
  | .findOne c o =>
    .build (fun t => .ok (t.find c (o.setDefault "limit" "1"))) fun a =>
      match a.toRows.head? with
      | some row => .ok (.row (some row))
      | none => .error (.notFound "no row matches the condition")
  | .findAll c o => .build (fun t => .ok (t.find c o)) fun a => .ok (.rows a.toRows)
  | .findAllIndexed c o index =>
    .build (fun t => .ok (t.find c o)) fun a => .ok (.indexed (RowIndex.ofRows a.toRows index))
  | .random limit c =>
    let o := match limit with
      | some n => Options.empty.set "limit" (toString n.toNat)
      | none => Options.empty
    .build (fun t => .ok (t.find c (o.set "order_by" "RAND()"))) fun a => .ok (.rows a.toRows)
  | .count c o =>
    .build (fun t => .ok (t.count c o)) fun a =>
      (countOf (a.toRows.head?.bind Row.first?)).map .count
  | .countGrouped c o =>
    match (o.get? "group").or (o.get? "group_by") with
    | none => .settle (.error (.inputRejected "count_grouped needs a \x60group\x60 option")) s []
    | some group =>
      .build (fun t => .ok (t.count c (o.setDefault "select" group))) fun a =>
        (a.toRows.mapM groupOf).map .counts
  | .insert rs => .build (fun t => t.insert rs) fun a => .ok (.affected (some a.effect))
  | .updateFirst c r o =>
    .build (fun t => t.update c r (o.setDefault "limit" "1")) fun a =>
      .ok (.affected (some a.effect))
  | .updateAll c r o => .build (fun t => t.update c r o) fun a => .ok (.affected (some a.effect))
  | .increment c column step o =>
    .build (fun t => t.increment c column step o) fun a => .ok (.affected (some a.effect))
  | .deleteFirst c o =>
    .build (fun t => .ok (t.delete c (o.setDefault "limit" "1"))) fun a =>
      .ok (.affected (some a.effect))
  | .deleteAll c o => .build (fun t => .ok (t.delete c o)) fun a => .ok (.affected (some a.effect))
  | .query sql =>
    if (Text.trim sql.toList).isEmpty then
      .settle (.error (.inputRejected "empty SQL statement")) s []
    else .send sql .answer none
  | .optimize unlogged =>
    s.sendNamed (fun table => "OPTIMIZE " ++ (if unlogged then "NO_WRITE_TO_BINLOG " else "") ++
      "TABLE " ++ table ++ ";") .answer
  | .truncate sure =>
    if sure then
      s.sendNamed (fun table => "TRUNCATE TABLE " ++ table ++ ";") fun a =>
        .affected (some a.effect)
    else .settle (.ok (.affected none)) s []
  | .takeLog => .settle (.ok (.statements s.log.statements)) { s with log := s.log.clear } []

/-- What settling can make of a session. -/
theorem settle_cases {s s' : Session} {r : Request} {reply : Except Error Reply}
    {events : List Event} (h : s.plan r = .settle reply s' events) :
    s' = s ∨ (∃ table, s' = s.withTable table) ∨ (∃ key, s' = s.withPrimaryKey key) ∨
      (∃ on, s' = s.withLog on) ∨ (∃ hook, s' = s.withHook hook) ∨
      (r = .takeLog ∧ s' = { s with log := s.log.clear }) := by
  cases r with
  | withTable table => cases h; exact .inr (.inl ⟨table, rfl⟩)
  | withPrimaryKey key => cases h; exact .inr (.inr (.inl ⟨key, rfl⟩))
  | withLog on => cases h; exact .inr (.inr (.inr (.inl ⟨on, rfl⟩)))
  | withHook hook => cases h; exact .inr (.inr (.inr (.inr (.inl ⟨hook, rfl⟩))))
  | takeLog => cases h; exact .inr (.inr (.inr (.inr (.inr ⟨rfl, rfl⟩))))
  | selectTable table =>
    rw [plan] at h
    split at h
    · cases h; exact .inl rfl
    · split at h
      · cases h; exact .inl rfl
      · cases h; exact .inr (.inl ⟨table, rfl⟩)
  | selectDatabase database =>
    rw [plan] at h
    split at h
    · cases h; exact .inl rfl
    · split at h
      · cases h; exact .inl rfl
      · cases h
  | countGrouped c o =>
    rw [plan] at h
    split at h
    · cases h; exact .inl rfl
    · cases h
  | query sql =>
    rw [plan] at h
    split at h
    · cases h; exact .inl rfl
    · cases h
  | optimize unlogged =>
    rw [plan, sendNamed] at h
    split at h
    · cases h
    · cases h; exact .inl rfl
  | truncate sure =>
    rw [plan, sendNamed] at h
    split at h
    · split at h
      · cases h
      · cases h; exact .inl rfl
    · cases h; exact .inl rfl
  | _ => cases h

/-- A table is refused for its name, or it is the active one, or it becomes that. -/
theorem selectTable_cases (s : Session) (table : String) :
    (∃ f, Ident.fault? table = some f ∧
      s.plan (.selectTable table) = .settle (.error f.toError) s []) ∨
    (s.table = some table ∧ s.plan (.selectTable table) = .settle (.ok .done) s []) ∨
    (s.table ≠ some table ∧ s.plan (.selectTable table) =
      .settle (.ok .done) { s with table := some table, cache := {} }
        (.tableSelected table :: s.cache.dropEvents)) := by
  rw [plan]
  cases Ident.fault? table with
  | some f => exact .inl ⟨f, rfl, rfl⟩
  | none =>
    by_cases h : s.table = some table
    · exact .inr (.inl ⟨h, if_pos h⟩)
    · exact .inr (.inr ⟨h, if_neg h⟩)

/-- A database is refused for its name, or it is the active one, or the server is told to use it. -/
theorem selectDatabase_cases (s : Session) (database : String) :
    (∃ f, Ident.fault? database = some f ∧
      s.plan (.selectDatabase database) = .settle (.error f.toError) s []) ∨
    (Ident.fault? database = none ∧ s.database = some database ∧
      s.plan (.selectDatabase database) = .settle (.ok (.flag false)) s []) ∨
    (Ident.fault? database = none ∧ s.plan (.selectDatabase database) =
      .send ("USE " ++ Ident.quoted database ++ ";") (fun _ => .flag true) (some database)) := by
  rw [plan]
  cases Ident.fault? database with
  | some f => exact .inl ⟨f, rfl, rfl⟩
  | none =>
    by_cases h : s.database = some database
    · exact .inr (.inl ⟨rfl, h, if_pos h⟩)
    · exact .inr (.inr ⟨rfl, if_neg h⟩)

/-! ### How actions run -/

section
variable {α β : Type} {client : Client σ} {w : Work σ}

@[simp] theorem run_pure (a : α) : (pure a : Action σ α).run w = (.ok a, w) := rfl

@[simp] theorem run_throw (e : Error) : (throw e : Action σ α).run w = (.error e, w) := rfl

@[simp] theorem run_bind (x : Action σ α) (f : α → Action σ β) :
    (x >>= f).run w =
      match x.run w with
      | (.ok a, w) => (f a).run w
      | (.error e, w) => (.error e, w) := by
  show ExceptT.bindCont f (x.run w).1 (x.run w).2 = _
  rcases x.run w with ⟨_ | _, _⟩ <;> rfl

/-- An action followed by one that only reads its result. -/
theorem run_read (x : Action σ α) {k : α → Action σ β} (read : α → Except Error β)
    (hk : ∀ a w, (k a).run w = (read a, w)) :
    (x >>= k).run w = ((x.run w).1.bind read, (x.run w).2) := by
  rw [run_bind]
  rcases x.run w with ⟨_ | a, w⟩
  · rfl
  · exact hk a w

theorem run_reply (x : Action σ α) (f : α → β) :
    (x >>= fun a => pure (f a)).run w = ((x.run w).1.bind fun a => .ok (f a), (x.run w).2) :=
  run_read x _ fun _ _ => rfl

theorem map_eq_bind (x : Except Error α) (f : α → β) : x.map f = x.bind fun a => .ok (f a) := by
  cases x <;> rfl

@[simp] theorem emit_run (events : List Event) :
    (emit events).run w = (.ok (), { w with events := w.events ++ events }) := rfl

@[simp] theorem amend_run (f : Session → Session) :
    (amend f).run w = (.ok (), { w with session := f w.session }) := rfl

@[simp] theorem current_run : current.run w = (.ok w.session, w) := rfl

@[simp] theorem dropCache_run : dropCache.run w = (.ok (), w.dropped) := rfl

@[simp] theorem send_run (sql : String) :
    (send client sql).run w = ((client.execute sql w.server).1, w.sent client sql) := by
  show (send.liftExcept (client.execute sql w.server).1).run (w.sent client sql) = _
  cases (client.execute sql w.server).1 <;> rfl

@[simp] theorem columns_run :
    (columns client).run w = (w.columns client, w.learned client) := by
  have hget : (get : Action σ (Work σ)).run w = (.ok w, w) := rfl
  have hset : ∀ v : Work σ, (set v : Action σ PUnit).run w = (.ok ⟨⟩, v) := fun _ => rfl
  simp only [columns, run_bind, hget, hset, Work.columns, Work.learned]
  cases (w.session.cache.load client w.session.table w.server).result <;> rfl

@[simp] theorem requireTable_run :
    requireTable.run w =
      (match w.session.table with | some table => .ok table | none => .error noTable, w) := by
  simp only [requireTable, run_bind, current_run]
  cases w.session.table <;> rfl

@[simp] theorem prepare_run (make : Table → Except Rejection Statement) :
    (prepare client make).run w = w.prepared client make := by
  simp only [prepare, run_bind, requireTable_run, Work.prepared]
  cases w.session.table with
  | none => rfl
  | some name =>
    simp only [columns_run]
    cases w.columns client with
    | error e => rfl
    | ok columns =>
      have hkey : (w.learned client).session.primaryKey = w.session.primaryKey := rfl
      simp only [current_run, hkey]
      cases make { name, primaryKey := w.session.primaryKey, columns } <;> rfl

@[simp] theorem run_run (make : Table → Except Rejection Statement) :
    (run client make).run w = w.asked client make := by
  rw [run, run_bind, prepare_run, Work.asked]
  rcases w.prepared client make with ⟨_ | s, w⟩
  · rfl
  · exact send_run s.sql

theorem bind_bind (x : Except Error α) (f : α → Except Error β) {γ : Type}
    (g : β → Except Error γ) : (x.bind f).bind g = x.bind fun a => (f a).bind g := by
  cases x <;> rfl

/-! ### Actions that ask one thing -/

/-- The action builds one statement about the active table, sends it and reads the answer. -/
def Asks (client : Client σ) (x : Action σ α) (make : Table → Except Rejection Statement)
    (read : Answer → Except Error α) : Prop :=
  ∀ w, x.run w = ((w.asked client make).1.bind read, (w.asked client make).2)

variable {x : Action σ α} {make : Table → Except Rejection Statement}
  {read : Answer → Except Error α} {c : Condition} {o : Options}

theorem asks_run : Asks client (run client make) make .ok := by
  intro w
  rw [run_run]
  rcases w.asked client make with ⟨_ | a, w⟩ <;> rfl

theorem Asks.bind (h : Asks client x make read) {k : α → Action σ β} (f : α → Except Error β)
    (hk : ∀ a w, (k a).run w = (f a, w)) :
    Asks client (x >>= k) make fun a => (read a).bind f := by
  intro w
  rw [run_read x f hk, h w, bind_bind]

theorem Asks.map (h : Asks client x make read) (f : α → β) :
    Asks client (x >>= fun a => pure (f a)) make fun a => (read a).map f := by
  simp only [map_eq_bind]
  exact h.bind _ fun _ _ => rfl

theorem Asks.congr (h : Asks client x make read) {read' : Answer → Except Error α}
    (hread : ∀ a, read a = read' a) : Asks client x make read' := by
  rwa [← funext hread]

theorem Asks.carry {x : Action σ Reply} {read : Answer → Except Error Reply}
    (h : Asks client x make read) : x.run w = (Plan.build make read).carry client w :=
  h w

theorem asks_findAll :
    Asks client (findAll client c o) (fun t => .ok (t.find c o)) fun a => .ok a.toRows :=
  asks_run.map _

theorem asks_find :
    Asks client (find client c o) (fun t => .ok (t.find c (o.setDefault "limit" "1")))
      fun a => .ok a.toRows.head? :=
  asks_findAll.map _

theorem asks_findOne :
    Asks client (findOne client c o) (fun t => .ok (t.find c (o.setDefault "limit" "1"))) fun a =>
      match a.toRows.head? with
      | some row => .ok row
      | none => .error (.notFound "no row matches the condition") :=
  asks_find.bind (fun row =>
    match row with
    | some row => .ok row
    | none => .error (.notFound "no row matches the condition")) fun row _ => by cases row <;> rfl

theorem asks_count :
    Asks client (count client c o) (fun t => .ok (t.count c o)) fun a =>
      countOf (a.toRows.head?.bind Row.first?) := by
  refine asks_run.bind (fun a => countOf (a.toRows.head?.bind Row.first?)) fun a w => ?_
  cases countOf (a.toRows.head?.bind Row.first?) <;> rfl

theorem asks_countGrouped {group : String}
    (h : (o.get? "group").or (o.get? "group_by") = some group) :
    Asks client (countGrouped client c o)
      (fun t => .ok (t.count c (o.setDefault "select" group))) fun a => a.toRows.mapM groupOf := by
  rw [countGrouped, h]
  refine asks_run.bind (fun a => a.toRows.mapM groupOf) fun a w => ?_
  cases a.toRows.mapM groupOf <;> rfl

theorem asks_insert {rs : List Record} :
    Asks client (insert client rs) (fun t => t.insert rs) fun a => .ok a.effect :=
  asks_run.map _

theorem asks_updateAll {r : Record} :
    Asks client (updateAll client c r o) (fun t => t.update c r o) fun a => .ok a.effect :=
  asks_run.map _

theorem asks_increment {column : String} {step : Value} :
    Asks client (increment client c column step o) (fun t => t.increment c column step o)
      fun a => .ok a.effect :=
  asks_run.map _

theorem asks_deleteAll :
    Asks client (deleteAll client c o) (fun t => .ok (t.delete c o)) fun a => .ok a.effect :=
  asks_run.map _

/-! ### Operations that are settled or sent -/

theorem perform_selectTable (table : String) :
    (perform client (.selectTable table)).run w =
      (w.session.plan (.selectTable table)).carry client w := by
  simp only [perform, plan, selectTable]
  cases Ident.fault? table with
  | some f => simp only [run_bind, run_throw, Plan.carry_settle_nil]
  | none =>
    by_cases h : w.session.table = some table
    · simp only [h, run_bind, current_run, run_pure, ne_eq, not_true_eq_false, if_false, if_true,
        Plan.carry_settle_nil]
    · simp only [h, run_bind, current_run, run_pure, ne_eq, not_false_eq_true, if_true, if_false,
        emit_run, amend_run, dropCache_run, Work.dropped, Plan.carry, List.append_assoc,
        List.singleton_append]

theorem perform_selectDatabase (database : String) :
    (perform client (.selectDatabase database)).run w =
      (w.session.plan (.selectDatabase database)).carry client w := by
  simp only [perform, plan, selectDatabase]
  cases Ident.fault? database with
  | some f => simp only [run_bind, run_throw, Plan.carry_settle_nil]
  | none =>
    by_cases h : w.session.database = some database
    · simp only [h, run_bind, current_run, run_pure, if_true, Plan.carry_settle_nil]
    · simp only [h, run_bind, current_run, if_false, send_run, Plan.carry]
      cases (client.execute ("USE " ++ Ident.quoted database ++ ";") w.server).1 <;> rfl

theorem sendNamed_run (sql : String → String) (read : Answer → Reply) :
    (do
      let table ← requireTable
      let a ← send client (sql (Ident.quoted table))
      return read a : Action σ Reply).run w = (w.session.sendNamed sql read).carry client w := by
  rw [run_bind, requireTable_run, sendNamed]
  cases w.session.table with
  | none =>
    rw [Plan.carry_settle_nil]
  | some table =>
    dsimp only
    rw [run_reply, send_run, Plan.carry_send_none, map_eq_bind]

theorem perform_query (sql : String) :
    (perform client (.query sql)).run w = (w.session.plan (.query sql)).carry client w := by
  rw [perform, run_reply, query, plan]
  split
  · rw [run_throw, Plan.carry_settle_nil]
    rfl
  · rw [send_run, Plan.carry_send_none, map_eq_bind]

theorem perform_optimize (unlogged : Bool) :
    (perform client (.optimize unlogged)).run w =
      (w.session.plan (.optimize unlogged)).carry client w := by
  rw [perform, optimize, bind_assoc, plan]
  exact sendNamed_run (fun table => "OPTIMIZE " ++
    (if unlogged then "NO_WRITE_TO_BINLOG " else "") ++ "TABLE " ++ table ++ ";") .answer

theorem perform_truncate (sure : Bool) :
    (perform client (.truncate sure)).run w =
      (w.session.plan (.truncate sure)).carry client w := by
  rw [perform, truncate, plan]
  split
  · simp only [bind_assoc, pure_bind]
    exact sendNamed_run (fun table => "TRUNCATE TABLE " ++ table ++ ";") fun a =>
      .affected (some a.effect)
  · rw [pure_bind, run_pure, Plan.carry_settle_nil]

/-! ### The equation -/

/-- The plan of an operation is what the operation does. -/
theorem perform_run (r : Request) :
    (perform client r).run w = (w.session.plan r).carry client w := by
  cases r with
  | withTable table =>
    simp only [perform, takeTable, run_bind, current_run, emit_run, amend_run, run_pure]
    rfl
  | withPrimaryKey key =>
    simp only [perform, plan, run_bind, amend_run, run_pure, Plan.carry_settle_nil]
  | withLog on => simp only [perform, plan, run_bind, amend_run, run_pure, Plan.carry_settle_nil]
  | withHook hook => simp only [perform, plan, run_bind, amend_run, run_pure, Plan.carry_settle_nil]
  | selectTable table => exact perform_selectTable table
  | selectDatabase database => exact perform_selectDatabase database
  | columns =>
    simp only [perform, run_reply, columns_run, ← map_eq_bind]
    rfl
  | refreshColumns =>
    have h : (refreshColumns client).run w =
        (w.dropped.columns client, w.dropped.learned client) := by
      rw [refreshColumns, run_bind, dropCache_run]
      exact columns_run
    rw [perform, run_reply, h, ← map_eq_bind]
    rfl
  | columnType column =>
    simp only [perform, columnType, run_reply, columns_run, bind_bind]
    rw [plan, Plan.carry, map_eq_bind]
    rfl
  | find c o => exact (asks_find.map .row).carry
  | findOne c o =>
    refine ((asks_findOne.map fun row => .row (some row)).congr fun a => ?_).carry
    cases a.toRows.head? <;> rfl
  | findAll c o => exact (asks_findAll.map .rows).carry
  | findAllIndexed c o index =>
    exact ((asks_findAll.map fun rows => RowIndex.ofRows rows index).map .indexed).carry
  | random limit c => exact (asks_findAll.map .rows).carry
  | count c o => exact (asks_count.map .count).carry
  | countGrouped c o =>
    cases h : (o.get? "group").or (o.get? "group_by") with
    | none =>
      rw [perform, run_reply, countGrouped, plan, h, Plan.carry_settle_nil]
      rfl
    | some group =>
      rw [plan, h]
      exact ((asks_countGrouped h).map .counts).carry
  | insert rs => exact (asks_insert.map fun n => .affected (some n)).carry
  | updateFirst c r o => exact (asks_updateAll.map fun n => .affected (some n)).carry
  | updateAll c r o => exact (asks_updateAll.map fun n => .affected (some n)).carry
  | increment c column step o => exact (asks_increment.map fun n => .affected (some n)).carry
  | deleteFirst c o => exact (asks_deleteAll.map fun n => .affected (some n)).carry
  | deleteAll c o => exact (asks_deleteAll.map fun n => .affected (some n)).carry
  | query sql => exact perform_query sql
  | optimize unlogged => exact perform_optimize unlogged
  | truncate sure => exact perform_truncate sure
  | takeLog =>
    simp only [perform, plan, takeLog, run_bind, current_run, amend_run, run_pure,
      Plan.carry_settle_nil]

end

end Session

end OneTable
