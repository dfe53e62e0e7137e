import Mathlib.Data.List.Forall2
import OneTable.Proofs.Sql.Guards
import OneTable.Proofs.Sql.InsertReader
import OneTable.Proofs.Sql.Slots

/-!
# Lists in statements that write

INSERT and UPDATE write a list as its items with commas between them, as they write everything
else. `Sql.readInsertSlots` and `Sql.readUpdate` cut such a statement at the commas that stand
outside of names and texts: a tuple into its slots, a SET list into items that assign a slot to a
column or stand there without one.

What is built has its shape exactly if every value of a column is a scalar or a list of one such
value: only then has a tuple one filled slot per column, and assigns every item of a SET list a
filled slot (`Table.write_shape_iff`). Nothing is refused for a list.
-/

namespace OneTable

namespace Sql

/-! ### Readers -/

def readInsertSlots : Reader ((String × List String) × List (List Slot)) := fun cs => do
  let (head, cs) ← readInsertHead cs
  let (rows, cs) ← readSeparated [','] readSlots cs
  let cs ← skip [';'] cs
  return ((head, rows), cs)

/-- A tuple has one slot per column, and each holds a constant. -/
def Fills (columns : List String) (row : List Slot) : Prop :=
  row.length = columns.length ∧ .hole ∉ row

/-- What stands between two commas of a SET list: a slot, and the column that it is assigned to if
one is named. -/
structure SetItem where
  column : Option String
  slot : Slot
deriving DecidableEq, Repr

namespace SetItem

/-- The item has the form `name = constant`. -/
def Assigns (i : SetItem) : Prop := i.column.isSome = true ∧ i.slot ≠ .hole

/-- The text of an item with the blank before a name. -/
def chars (i : SetItem) : List Char :=
  match i.column with
  | some name => ' ' :: Ident.encode name.toList ++ " = ".toList ++ i.slot.chars
  | none => i.slot.chars

end SetItem

def readSetItem : Reader SetItem := fun cs =>
  match (skip [' '] cs).bind readName with
  | some (name, cs) => do
    let cs ← skip " = ".toList cs
    let (s, cs) ← readSlot cs
    return (⟨some name, s⟩, cs)
  | none => (readSlot cs).map fun p => (⟨none, p.1⟩, p.2)

/-- An UPDATE up to its condition: the table and the items of the SET list. -/
def readUpdate : Reader (String × List SetItem) := fun cs => do
  let cs ← skip "UPDATE ".toList cs
  let (table, cs) ← readName cs
  let cs ← skip " SET".toList cs
  let (items, cs) ← readSeparated [','] readSetItem cs
  let cs ← skip " WHERE ".toList cs
  return ((table, items), cs)

/-- An item of a SET list that stands before `rest` ends there. -/
def EndsItem (rest : List Char) : Prop :=
  (∃ cs, rest = ',' :: cs) ∨ ∃ cs, rest = " WHERE ".toList ++ cs

namespace EndsItem

variable {rest : List Char}

theorem closes (h : EndsItem rest) : Closes rest := by
  rcases h with ⟨cs, rfl⟩ | ⟨cs, rfl⟩
  · exact closes_cons (by decide) _
  · exact closes_cons (c := ' ') (by decide) _

theorem no_name (h : EndsItem rest) : (skip [' '] rest).bind readName = none := by
  rcases h with ⟨cs, rfl⟩ | ⟨cs, rfl⟩ <;> rfl

end EndsItem

theorem Constant.skip_blank (k : Constant) (rest : List Char) :
    skip [' '] (k.chars ++ rest) = none := by
  cases k with
  | null => rfl
  | text s => rfl
  | number run bare =>
    obtain ⟨hne, hrun⟩ := isBare_iff.1 bare
    obtain ⟨c, cs, hcs⟩ := List.exists_cons_of_ne_nil hne
    have hc : c ≠ ' ' := by
      rintro rfl
      exact absurd (hrun ' ' (by simp [hcs])) (by decide)
    rw [Constant.chars, hcs, List.cons_append, skip, if_neg (Ne.symm hc)]

theorem readSetItem_chars (i : SetItem) {rest : List Char} (h : EndsItem rest) :
    readSetItem (i.chars ++ rest) = some (i, rest) := by
  obtain ⟨_ | name, s⟩ := i
  · -- a blank would have to come first for a name, and no constant begins with one
    have hname : (skip [' '] (s.chars ++ rest)).bind readName = none := by
      cases s with
      | hole => exact h.no_name
      | constant k => rw [Slot.chars, k.skip_blank, Option.bind_none]
    rw [SetItem.chars, readSetItem, hname]
    simp [readSlot_chars s h.closes]
  · have e : SetItem.chars ⟨some name, s⟩ ++ rest =
        ' ' :: (Ident.encode name.toList ++ (" = ".toList ++ (s.chars ++ rest))) := by
      simp [SetItem.chars]
    have hname := readName_encode name (" = ".toList ++ (s.chars ++ rest))
      (endsName_cons (c := ' ') (by decide) _)
    rw [e, readSetItem]
    simp only [skip_cons_self, skip_nil, Option.bind_some, hname, skip_append,
      Option.bind_eq_bind, readSlot_chars s h.closes]
    rfl

end Sql

namespace Table

open Sql

variable {t : Table} {r : Record} {rs : List Record} {c : Column}

/-! ### Tuples -/

def insertSlots (t : Table) (r : Record) (c : Column) : List Slot :=
  match r.supplied? c.name with
  | some v => v.slots (t.columns.typeOf? c.name)
  | none => [.constant (t.insertConstant r c)]

def tupleSlots (t : Table) (r : Record) : List Slot := t.columns.toList.flatMap (t.insertSlots r)

theorem insertSlots_ne_nil (t : Table) (r : Record) (c : Column) : t.insertSlots r c ≠ [] := by
  unfold insertSlots
  split
  · exact Value.slots_ne_nil _ _
  · exact List.cons_ne_nil _ _

theorem toList_insertLiteral (t : Table) (r : Record) (c : Column) :
    (t.insertLiteral r c).toList = [','].intercalate ((t.insertSlots r c).map Slot.chars) := by
  unfold insertLiteral insertSlots insertConstant
  cases r.supplied? c.name with
  | some v =>
    dsimp only
    rw [Columns.text_quote]
    exact Value.toList_literal _ v
  | none =>
    dsimp only [defaultLiteral]
    split <;> simp [Slot.chars, Constant.chars, Literal.escape]

theorem toList_tuple (t : Table) (r : Record) :
    (t.tuple r).toList = bracketed (t.tupleSlots r) := by
  have hne : ∀ c ∈ t.columns.toList, (t.insertSlots r c).map Slot.chars ≠ [] := fun c _ => by
    simpa using insertSlots_ne_nil t r c
  rw [bracketed, tupleSlots, List.map_flatMap, ← Text.intercalate_flatMap hne]
  simp [tuple, String.toList_intercalate, Function.comp_def, toList_insertLiteral]

theorem readInsertSlots_insertSql (hrs : rs ≠ []) (hne : t.columns.toList ≠ [])
    (rest : List Char) :
    readInsertSlots ((t.insertSql rs).toList ++ rest) =
      some (((t.name, t.columns.names), rs.map t.tupleSlots), rest) := by
  have htuple : ∀ r ∈ rs, ∀ more : List Char, True →
      readSlots ((t.tuple r).toList ++ more) = some (t.tupleSlots r, more) := by
    intro r _ more _
    have hslots : t.tupleSlots r ≠ [] := by
      obtain ⟨c, cs, hc⟩ := List.exists_cons_of_ne_nil hne
      simp [tupleSlots, hc, insertSlots_ne_nil]
    rw [toList_tuple, readSlots_bracketed hslots]
  have htuples : readSeparated [','] readSlots
      ([','].intercalate (rs.map fun r => (t.tuple r).toList) ++ ';' :: rest) =
        some (rs.map t.tupleSlots, ';' :: rest) :=
    readSeparated_intercalate [','] (fun _ => True) (by simp) (fun _ => trivial) hrs htuple
      trivial rfl
  rw [readInsertSlots, readInsertHead_insertSql hne]
  simp [htuples]

theorem insert_ok {s : Statement} (h : t.insert rs = .ok s) :
    rs ≠ [] ∧ t.columns.toList ≠ [] ∧ s.sql = t.insertSql rs := by
  unfold insert at h
  split at h
  · cases h
  · rename_i hrs
    split at h
    · cases h
    · rename_i hcolumns
      cases h
      refine ⟨?_, fun hnil => hcolumns (by simp [Columns.isEmpty, hnil]), rfl⟩
      rintro rfl
      exact hrs rfl

/-- What a record supplies for the columns are single values. -/
def SuppliesSingles (t : Table) (r : Record) : Prop :=
  ∀ c ∈ t.columns.toList, ∀ v, r.supplied? c.name = some v → v.Single

theorem fills_tupleSlots_iff (t : Table) (r : Record) :
    Fills t.columns.names (t.tupleSlots r) ↔ t.SuppliesSingles r := by
  have hlength : (t.tupleSlots r).length = t.columns.names.length ↔
      ∀ c ∈ t.columns.toList, (t.insertSlots r c).length = 1 := by
    rw [Columns.names, List.length_map]
    exact (length_flatMap fun c _ => insertSlots_ne_nil t r c).2
  have hhole : .hole ∉ t.tupleSlots r ↔ ∀ c ∈ t.columns.toList, .hole ∉ t.insertSlots r c := by
    simp [tupleSlots]
  have hcolumn : ∀ c, (t.insertSlots r c).length = 1 ∧ .hole ∉ t.insertSlots r c ↔
      ∀ v, r.supplied? c.name = some v → v.Single := by
    intro c
    unfold insertSlots
    cases r.supplied? c.name with
    | none => simp
    | some v => simp [← Value.single_iff]
  rw [Fills, hlength, hhole, ← forall₂_and]
  exact forall₂_congr fun c _ => hcolumn c

/-! ### SET lists -/

/-- The slots of a value that a column is set to. A `null` is an empty text where the column takes
none. -/
def valueSlots (t : Table) (c : Column) (v : Value) : List Slot :=
  if v.isNull && !c.nullable then [.constant (.text "")]
  else v.slots (t.columns.typeOf? c.name)

def assignedSlots? (t : Table) (r : Record) (c : Column) : Option (String × List Slot) :=
  if c.name = t.primaryKey then none
  else (r.get? c.name).map fun v => (c.name, t.valueSlots c v)

/-- The items of an assignment: its first slot is the column's, any further ones stand alone. -/
def assignmentItems (e : String × List Slot) : List SetItem :=
  match e.2 with
  | [] => []
  | s :: ss => ⟨some e.1, s⟩ :: ss.map fun s => ⟨none, s⟩

def setItems (t : Table) (r : Record) : List SetItem :=
  (t.columns.toList.filterMap (t.assignedSlots? r)).flatMap assignmentItems

theorem valueSlots_ne_nil (t : Table) (c : Column) (v : Value) : t.valueSlots c v ≠ [] := by
  unfold valueSlots
  split
  · exact List.cons_ne_nil _ _
  · exact Value.slots_ne_nil _ _

theorem assignedSlots?_eq_some_iff {e : String × List Slot} :
    t.assignedSlots? r c = some e ↔
      c.name ≠ t.primaryKey ∧ ∃ v, r.get? c.name = some v ∧ e = (c.name, t.valueSlots c v) := by
  unfold assignedSlots?
  split
  · rename_i h
    exact iff_of_false nofun fun hc => hc.1 h
  · rename_i h
    rw [Option.map_eq_some_iff]
    constructor
    · rintro ⟨v, hv, rfl⟩
      exact ⟨h, v, hv, rfl⟩
    · rintro ⟨-, v, hv, rfl⟩
      exact ⟨v, hv, rfl⟩

theorem toList_valueSlots (t : Table) (c : Column) (v : Value) :
    (match v with
      | .null => if c.nullable then "NULL" else "''"
      | v => (t.columns.quote v c.name).text).toList =
      [','].intercalate ((t.valueSlots c v).map Slot.chars) := by
  have hquote : ((t.columns.quote v c.name).text).toList =
      [','].intercalate ((v.slots (t.columns.typeOf? c.name)).map Slot.chars) := by
    rw [Columns.text_quote]
    exact Value.toList_literal _ v
  cases v with
  | null =>
    cases hn : c.nullable <;>
      simp [valueSlots, hn, Value.isNull, Value.slots, Slot.chars, Constant.ofValue,
        Constant.chars, Literal.escape]
  | _ => exact hquote

theorem intercalate_assignmentItems (name : String) {ss : List Slot} (hss : ss ≠ []) :
    [','].intercalate ((assignmentItems (name, ss)).map SetItem.chars) =
      ' ' :: Ident.encode name.toList ++ " = ".toList ++
        [','].intercalate (ss.map Slot.chars) := by
  obtain ⟨s, ss, rfl⟩ := List.exists_cons_of_ne_nil hss
  have hchars : (ss.map fun s => (⟨none, s⟩ : SetItem)).map SetItem.chars = ss.map Slot.chars := by
    rw [List.map_map]
    rfl
  rw [assignmentItems, List.map_cons, hchars, List.map_cons]
  cases ss with
  | nil => simp [SetItem.chars]
  | cons u us =>
    rw [List.intercalate_cons_of_ne_nil (by simp), List.intercalate_cons_of_ne_nil (by simp)]
    simp only [SetItem.chars, List.append_assoc]

/-- An assignment with a blank before it is its items with commas between them. -/
theorem toList_assignment? (t : Table) (r : Record) (c : Column) :
    (t.assignment? r c).map (fun a => [' '] ++ a.toList) =
      (t.assignedSlots? r c).map fun e =>
        [','].intercalate ((assignmentItems e).map SetItem.chars) := by
  unfold assignment? assignedSlots?
  split
  · rfl
  · rw [Option.map_map, Option.map_map]
    refine Option.map_congr fun v _ => ?_
    simp only [Function.comp, intercalate_assignmentItems c.name (valueSlots_ne_nil t c v),
      String.toList_append, Ident.toList_quoted, List.cons_append, List.nil_append,
      List.append_assoc]
    exact congrArg (fun cs => ' ' :: (Ident.encode c.name.toList ++ (" = ".toList ++ cs)))
      (toList_valueSlots t c v)

theorem toList_set (h : t.assignments r ≠ []) :
    ' ' :: (", ".intercalate (t.assignments r)).toList =
      [','].intercalate ((t.setItems r).map SetItem.chars) := by
  have hitems : ∀ e ∈ t.columns.toList.filterMap (t.assignedSlots? r),
      (assignmentItems e).map SetItem.chars ≠ [] := by
    intro e he
    obtain ⟨c, -, hc⟩ := List.mem_filterMap.1 he
    obtain ⟨-, v, -, rfl⟩ := assignedSlots?_eq_some_iff.1 hc
    obtain ⟨s, ss, hs⟩ := List.exists_cons_of_ne_nil (valueSlots_ne_nil t c v)
    simp [assignmentItems, hs]
  have htexts : ((t.assignments r).map String.toList).map ([' '] ++ ·) =
      (t.columns.toList.filterMap (t.assignedSlots? r)).map fun e =>
        [','].intercalate ((assignmentItems e).map SetItem.chars) := by
    rw [assignments, List.map_map, List.map_filterMap, List.map_filterMap]
    exact List.filterMap_congr fun c _ => toList_assignment? t r c
  -- the blank behind each comma goes to the item that follows
  have hlead : [' '] ++ ([','] ++ [' ']).intercalate ((t.assignments r).map String.toList) =
      [','].intercalate (((t.assignments r).map String.toList).map ([' '] ++ ·)) :=
    Text.intercalate_append_sep (by simpa using h)
  rw [htexts, Text.intercalate_flatMap hitems, ← List.map_flatMap] at hlead
  rw [setItems, ← hlead, String.toList_intercalate]
  rfl

theorem setItems_ne_nil (h : t.assignments r ≠ []) : t.setItems r ≠ [] := by
  intro hnil
  have hset := toList_set h
  rw [hnil] at hset
  cases hset

theorem readUpdate_sql {c : Condition} {o : Options} {s : Statement}
    (h : t.update c r o = .ok s) :
    ∃ rest, readUpdate s.sql.toList = some ((t.name, t.setItems r), rest) := by
  obtain ⟨hclause, has, hsql⟩ := update_eq_ok h
  obtain ⟨tests, htests⟩ := Condition.compile_eq_where hclause
  set rest := tests.toList ++ (o.updateTail ++ ";").toList with hrest
  have e : s.sql.toList = "UPDATE ".toList ++ (Ident.encode t.name.toList ++ (" SET".toList ++
      ([','].intercalate ((t.setItems r).map SetItem.chars) ++ (" WHERE ".toList ++ rest)))) := by
    rw [hsql, htests, ← toList_set has, hrest]
    delta updateSql
    simp [quotedName, Ident.toList_quoted, toList_spaced_where]
  have hends : EndsItem (" WHERE ".toList ++ rest) := .inr ⟨rest, rfl⟩
  have hitems := readSeparated_intercalate [','] EndsItem (by simp) (fun cs => .inl ⟨cs, rfl⟩)
    (setItems_ne_nil has) (fun i _ _ h => readSetItem_chars i h) hends rfl
  rw [List.map_id'] at hitems
  have hname := readName_encode t.name (" SET".toList ++
    ([','].intercalate ((t.setItems r).map SetItem.chars) ++ (" WHERE ".toList ++ rest)))
    (endsName_cons (c := ' ') (by decide) _)
  refine ⟨rest, ?_⟩
  rw [e, readUpdate]
  simp only [skip_append, Option.bind_eq_bind, Option.bind_some, hname, hitems]
  rfl

theorem valueSlots_single_iff (t : Table) (c : Column) (v : Value) :
    (t.valueSlots c v).length = 1 ∧ .hole ∉ t.valueSlots c v ↔ v.Single := by
  unfold valueSlots
  split
  · rename_i h
    have hnull : v.isList = false := by cases v <;> simp_all [Value.isNull, Value.isList]
    exact iff_of_true (by simp) (.scalar hnull)
  · exact (Value.single_iff _ v).symm

theorem assigns_assignmentItems_iff {e : String × List Slot} (h : e.2 ≠ []) :
    (∀ i ∈ assignmentItems e, i.Assigns) ↔ e.2.length = 1 ∧ .hole ∉ e.2 := by
  obtain ⟨name, _ | ⟨s, ss⟩⟩ := e
  · exact absurd rfl h
  · cases ss with
    | nil => simp [assignmentItems, SetItem.Assigns, @eq_comm _ Slot.hole]
    | cons u us => simp [assignmentItems, SetItem.Assigns]

def assignedColumns (t : Table) (r : Record) : List Column :=
  t.columns.toList.filter fun c => c.name != t.primaryKey && (r.get? c.name).isSome

/-- What a record assigns to the columns are single values. -/
def AssignsSingles (t : Table) (r : Record) : Prop :=
  ∀ c ∈ t.assignedColumns r, ∀ v, r.get? c.name = some v → v.Single

/-- The items name the columns in order, each once. -/
theorem columns_setItems (t : Table) (r : Record) :
    (t.setItems r).filterMap SetItem.column = (t.assignedColumns r).map Column.name := by
  have hitems : ∀ (c : Column) v,
      (assignmentItems (c.name, t.valueSlots c v)).filterMap SetItem.column = [c.name] := by
    intro c v
    obtain ⟨s, ss, hs⟩ := List.exists_cons_of_ne_nil (valueSlots_ne_nil t c v)
    simp [assignmentItems, hs]
  rw [setItems, assignedColumns]
  induction t.columns.toList with
  | nil => rfl
  | cons c cs ih =>
    by_cases hkey : c.name = t.primaryKey
    · simp [assignedSlots?, hkey, ih]
    · cases hv : r.get? c.name with
      | none => simp [assignedSlots?, hkey, hv, ih]
      | some v => simp [assignedSlots?, hkey, hv, hitems, ih]

theorem assigns_setItems_iff (t : Table) (r : Record) :
    (∀ i ∈ t.setItems r, i.Assigns) ↔ t.AssignsSingles r := by
  have hvalue : ∀ c v, (∀ i ∈ assignmentItems (c.name, t.valueSlots c v), i.Assigns) ↔
      v.Single := fun c v => by
    rw [assigns_assignmentItems_iff (valueSlots_ne_nil t c v), valueSlots_single_iff]
  have hcolumn : ∀ {c v}, r.get? c.name = some v →
      (c ∈ t.assignedColumns r ↔ c ∈ t.columns.toList ∧ c.name ≠ t.primaryKey) := fun hv => by
    simp [assignedColumns, hv]
  simp only [setItems, AssignsSingles, List.mem_flatMap, List.mem_filterMap,
    assignedSlots?_eq_some_iff]
  constructor
  · intro h c hc v hv
    obtain ⟨hmem, hkey⟩ := (hcolumn hv).1 hc
    rw [← hvalue c v]
    exact fun i hi => h i ⟨_, ⟨c, hmem, hkey, v, hv, rfl⟩, hi⟩
  · rintro h i ⟨_, ⟨c, hc, hkey, v, hv, rfl⟩, hi⟩
    exact (hvalue c v).2 (h c ((hcolumn hv).2 ⟨hc, hkey⟩) v hv) i hi

/-! ### Statements that write -/

/-- What is built reads as one tuple per record of an INSERT, and as items of a SET list that name
the assigned columns in order. Such a tuple has one filled slot per column exactly if its record
supplies single values, and every such item assigns a constant exactly if the record assigns single
values. -/
theorem write_shape_iff (t : Table) :
    (∀ rs s, t.insert rs = .ok s →
      ∃ rows, readInsertSlots s.sql.toList = some (((t.name, t.columns.names), rows), []) ∧
        List.Forall₂ (fun r row => Fills t.columns.names row ↔ t.SuppliesSingles r) rs rows) ∧
    ∀ c r o s, t.update c r o = .ok s →
      ∃ items rest, readUpdate s.sql.toList = some ((t.name, items), rest) ∧
        items.filterMap SetItem.column = (t.assignedColumns r).map Column.name ∧
        ((∀ i ∈ items, i.Assigns) ↔ t.AssignsSingles r) := by
  refine ⟨fun rs s h => ?_, fun c r o s h => ?_⟩
  · obtain ⟨hrs, hne, hsql⟩ := insert_ok h
    have hread := readInsertSlots_insertSql hrs hne []
    rw [List.append_nil, ← hsql] at hread
    refine ⟨_, hread, ?_⟩
    rw [List.forall₂_map_right_iff, List.forall₂_same]
    exact fun r _ => fills_tupleSlots_iff t r
  · obtain ⟨rest, hread⟩ := readUpdate_sql h
    exact ⟨_, rest, hread, columns_setItems t r, assigns_setItems_iff t r⟩

/-- Texts with commas and brackets, one of them two lists deep, a `null` where the column takes
none, and a list under a name that is no column. -/
theorem write_shape_single :
    let t : Table := ⟨"posts", "id",
      ⟨[⟨"id", "int(11)", false, true⟩, ⟨"ti,tle", "text", false, false⟩,
        ⟨"note", "text", false, false⟩], by decide⟩⟩
    let r : Record := ⟨[("note", .null), ("ti,tle", .list [.list [.text "a',b) = ("]]),
      ("tags", .list [])], by decide⟩
    (∃ s row, t.insert [r] = .ok s ∧
      readInsertSlots s.sql.toList = some ((("posts", ["id", "ti,tle", "note"]), [row]), []) ∧
      Fills ["id", "ti,tle", "note"] row) ∧
    ∃ s items rest, t.update (.byId 4) r (.entries {}) = .ok s ∧
      readUpdate s.sql.toList = some (("posts", items), rest) ∧
      items.filterMap SetItem.column = ["ti,tle", "note"] ∧ ∀ i ∈ items, i.Assigns := by
  intro t r
  have hsingle : ∀ c ∈ t.columns.toList, ∀ v, r.get? c.name = some v → v.Single := by
    intro c hc v hv
    simp only [t, List.mem_cons, List.not_mem_nil, or_false] at hc
    rcases hc with rfl | rfl | rfl
    · cases hv
    · cases hv
      exact .list (.list (.scalar rfl))
    · cases hv
      exact .scalar rfl
  constructor
  · have hok : t.insert [r] = .ok (.ofSql (t.insertSql [r])) :=
      insert_eq_ok ⟨r, List.mem_cons_self, rfl⟩ rfl
    obtain ⟨rows, hread, hrows⟩ := (write_shape_iff t).1 [r] _ hok
    cases hrows with
    | cons hrow hnil =>
      cases hnil
      exact ⟨_, _, hok, hread, hrow.2 fun c hc v hv => hsingle c hc v (get?_of_supplied? hv)⟩
  · have hok := update_eq (t := t) (c := .byId 4) (r := r) (o := .entries {}) (by decide +kernel)
      (by decide +kernel)
    obtain ⟨items, rest, hread, hnames, hiff⟩ := (write_shape_iff t).2 _ _ _ _ hok
    exact ⟨_, items, rest, hok, hread, hnames,
      hiff.2 fun c hc v hv => hsingle c (List.mem_filter.1 hc).1 v hv⟩

/-- Two items take up two slots of a tuple and two items of a SET list, the second of them without a
column; an empty list leaves its slot empty in both. -/
theorem write_shape_lost :
    let t : Table := ⟨"posts", "id",
      ⟨[⟨"id", "int(11)", false, true⟩, ⟨"title", "varchar(255)", false, false⟩], by decide⟩⟩
    let pair : Record := ⟨[("title", .list [.text "a", .text "b"])], by decide⟩
    let nothing : Record := ⟨[("title", .list [])], by decide⟩
    let a : Slot := .constant (.text "a")
    let b : Slot := .constant (.text "b")
    (∃ s, t.insert [pair, nothing] = .ok s ∧
      readInsertSlots s.sql.toList = some ((("posts", ["id", "title"]),
        [[.constant .null, a, b], [.constant .null, .hole]]), [])) ∧
    (∃ s, t.update (.byId 4) pair (.entries {}) = .ok s ∧
      readUpdate s.sql.toList =
        some (("posts", [⟨some "title", a⟩, ⟨none, b⟩]), "`id` = 4;".toList)) ∧
    ∃ s, t.update (.byId 4) nothing (.entries {}) = .ok s ∧
      readUpdate s.sql.toList =
        some (("posts", [⟨some "title", .hole⟩]), "`id` = 4;".toList) := by
  intro t pair nothing a b
  refine ⟨⟨_, insert_eq_ok ⟨pair, List.mem_cons_self, rfl⟩ rfl, ?_⟩,
    ⟨_, update_eq (by decide +kernel) (by decide +kernel), ?_⟩,
    _, update_eq (by decide +kernel) (by decide +kernel), ?_⟩
  · decide +kernel
  · decide +kernel
  · decide +kernel

end Table

end OneTable
