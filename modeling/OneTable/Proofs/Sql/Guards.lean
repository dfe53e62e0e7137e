import Mathlib.Data.List.Basic
import Mathlib.Data.List.TakeWhile
import OneTable.Proofs.Options.Limit
import OneTable.Proofs.Sql.Regions
import OneTable.Statement.Forms

/-!
# The clauses that guard a statement

UPDATE, SELECT and DELETE end in the same pieces: the WHERE clause, the LIMIT clause and the final
`;` (`Table.guard`). `Table.guard_read_iff` says of every statement that is built from scalars when
these are read as they were written. Names and quoted texts never reach them, whatever they hold.
A bare run of digits, points and hyphens does when it ends in two hyphens and a blank follows, for
then it opens a comment: the last value that an UPDATE assigns, every value of a test but the last,
and that one too if there is a limit.
-/

namespace OneTable

namespace Sql

/-! ### Equations -/

/-- A column and the constant it is given or compared with. -/
abbrev Equation := String × Constant

def equation (e : Equation) : List Piece := [.name e.1, .code " = ", .constant e.2]

def equations (sep : String) (es : List Equation) : List Piece :=
  [.code sep].intercalate (es.map equation)

/-- Equations with a separator behind each. -/
def separated (sep : String) (es : List Equation) : List Piece :=
  es.flatMap fun e => equation e ++ [.code sep]

@[simp] theorem separated_cons (sep : String) (e : Equation) (es : List Equation) :
    separated sep (e :: es) = equation e ++ .code sep :: separated sep es := by
  simp [separated]

theorem equations_concat (sep : String) (es : List Equation) (e : Equation) :
    equations sep (es ++ [e]) = separated sep es ++ equation e := by
  induction es with
  | nil => simp [equations, separated]
  | cons a es ih =>
    have hstep : equations sep (a :: (es ++ [e])) =
        equation a ++ [.code sep] ++ equations sep (es ++ [e]) := by
      rw [equations, List.map_cons, List.intercalate_cons_of_ne_nil (by simp)]
      rfl
    rw [List.cons_append, hstep, ih, separated_cons, List.append_assoc, List.append_assoc]
    rfl

theorem written_intercalate (sep : List Piece) (l : List (List Piece)) :
    written (sep.intercalate l) = (written sep).intercalate (l.map written) := by
  induction l with
  | nil => rfl
  | cons ps l ih =>
    cases l with
    | nil => simp
    | cons qs l =>
      have hne : (qs :: l).map written ≠ [] := by simp
      rw [List.intercalate_cons_cons, written_append, written_append, ih,
        ← List.intercalate_cons_of_ne_nil hne, ← List.map_cons]

variable {sep : String} {es : List Equation} {e : Equation} {rest : List Char}

theorem fitBefore_equation (h : rest.head? ≠ some '-') : FitBefore rest (equation e) := by
  refine ⟨endsName_cons (c := ' ') (by decide) _, rfl, ?_, trivial⟩
  simpa [Piece.Fits] using h

theorem quietBefore_equation :
    QuietBefore rest (equation e) ↔ ¬ (e.2.endsInDashes = true ∧ opensComment rest = true) := by
  simp [QuietBefore, equation, Piece.Opens]

theorem fitBefore_separated (hsep : sep.toList.all isPlain = true) (hne : sep.toList ≠ []) :
    FitBefore rest (separated sep es) := by
  induction es with
  | nil => trivial
  | cons e es ih =>
    rw [separated_cons, fitBefore_append]
    refine ⟨fitBefore_equation ?_, hsep, ih⟩
    obtain ⟨c, cs, hc⟩ := List.exists_cons_of_ne_nil hne
    have hplain : isPlain c = true := List.all_eq_true.1 hsep c (by simp [hc])
    simp only [written_cons, Piece.chars, hc, List.cons_append, List.head?_cons, ne_eq,
      Option.some.injEq]
    rintro rfl
    revert hplain
    decide

theorem quietBefore_separated {b : Bool} (hsep : ∀ cs, opensComment (sep.toList ++ cs) = b) :
    QuietBefore rest (separated sep es) ↔ ∀ e ∈ es, ¬ (e.2.endsInDashes = true ∧ b = true) := by
  induction es with
  | nil => simp [separated, QuietBefore]
  | cons e es ih =>
    have hcode : ¬ (Piece.code sep).Opens (written (separated sep es) ++ rest) := id
    rw [separated_cons, quietBefore_append, quietBefore_equation, List.forall_mem_cons,
      QuietBefore, and_iff_right hcode, written_cons, List.append_assoc, Piece.chars, hsep]
    exact and_congr_right fun _ => ih

/-! ### Digits -/

theorem isBare_of_isDigits {s : String} (h : Text.isDigits s = true) : Literal.isBare s = true := by
  simp only [Text.isDigits, Literal.isBare, Bool.and_eq_true, List.all_eq_true] at h ⊢
  exact ⟨h.1, fun c hc => by simp [Literal.isBareChar, h.2 c hc]⟩

/-- Digits are neither blank nor part of anything else, and none of them ends a statement. -/
theorem isPlain_of_isDigits {s : String} (h : Text.isDigits s = true) :
    ∀ c ∈ s.toList, c ≠ ';' ∧ Text.isBlank c = false ∧ isPlain c = true := by
  intro c hc
  simp only [Text.isDigits, Bool.and_eq_true, List.all_eq_true] at h
  have hd := h.2 c hc
  have hbare : Literal.isBareChar c = true := by simp [Literal.isBareChar, hd]
  refine ⟨?_, isBlank_of_isBareChar hbare, ?_⟩
  · rintro rfl
    revert hd
    decide
  · simp only [isPlain, Bool.and_eq_true, bne_iff_ne, ne_eq]
    refine ⟨⟨?_, ?_⟩, ?_⟩ <;> rintro rfl <;> revert hd <;> decide

end Sql

/-! ### Options that hold a limit alone -/

namespace Options

variable {o : Options} {n : String}

/-- A map with no other entry than a decimal `limit`. -/
def LimitOnly (o : Options) : Prop :=
  ∃ e, o = .entries e ∧ ∀ p ∈ e.toList, p.1 = "limit" ∧ Text.isDigits p.2 = true

/-- The text of the limit, as it is written behind LIMIT. -/
def limit? (o : Options) : Option String := o.first? ["limit"]

namespace LimitOnly

theorem toList_eq (h : o.LimitOnly) : ∃ e, o = .entries e ∧
    (e.toList = [] ∨ ∃ n, e.toList = [("limit", n)] ∧ Text.isDigits n = true) := by
  obtain ⟨e, rfl, he⟩ := h
  refine ⟨e, rfl, ?_⟩
  match hl : e.toList with
  | [] => exact .inl rfl
  | [(name, n)] =>
    obtain ⟨rfl, hn⟩ : name = "limit" ∧ Text.isDigits n = true := he (name, n) (by simp [hl])
    exact .inr ⟨n, rfl, hn⟩
  | p :: q :: l =>
    have hp := (he p (by simp [hl])).1
    have hq := (he q (by simp [hl])).1
    have hdistinct := e.distinct
    rw [hl] at hdistinct
    simp [hp, hq] at hdistinct

theorem first?_eq_none (h : o.LimitOnly) {names : List String}
    (hn : ∀ name ∈ names, name.toList.map Char.toLower ≠ "limit".toList) :
    o.first? names = none := by
  have hget : ∀ name ∈ names, o.get? name = none := by
    intro name hname
    obtain ⟨e, rfl, he⟩ := h
    have hfind : e.toList.find? (fun p => p.1 == Text.lower name) = none := by
      rw [List.find?_eq_none]
      intro p hp
      rw [(he p hp).1, beq_iff_eq]
      exact Text.ne_lower (hn name hname)
    rw [get?, Fields.get?, hfind]
    rfl
  have hnil : names.filterMap o.get? = [] := by
    rw [List.filterMap_eq_nil_iff]
    exact hget
  rw [first?, hnil]
  rfl

theorem limit?_eq (h : o.LimitOnly) : ∃ e, o = .entries e ∧
    ((e.toList = [] ∧ o.limit? = none) ∨
      ∃ n, e.toList = [("limit", n)] ∧ o.limit? = some n ∧ Text.isDigits n = true) := by
  obtain ⟨e, rfl, he | ⟨n, he, hn⟩⟩ := h.toList_eq
  · exact ⟨e, rfl, .inl ⟨he, by simp [limit?, first?, get?, Fields.get?, he]⟩⟩
  · refine ⟨e, rfl, .inr ⟨n, he, ?_, hn⟩⟩
    have hchars := Sql.isPlain_of_isDigits hn
    have hcut : cut n = n := by
      rw [cut, List.takeWhile_eq_self_iff.2, String.ofList_toList]
      intro c hc
      simpa using (hchars c hc).1
    have htrim : Text.trimmed n = n := by
      rw [Text.trimmed, Text.trim_eq_self, String.ofList_toList]
      · exact fun c hc => (hchars c (List.mem_of_mem_head? hc)).2.1
      · exact fun c hc => (hchars c (List.mem_of_mem_getLast? hc)).2.1
    have hne : n.toList ≠ [] := by
      rintro hnil
      simp [Text.isDigits, hnil] at hn
    simp [limit?, first?, get?, Fields.get?, he, lower_limit, hcut, htrim, hne]

theorem operator_eq (h : o.LimitOnly) : o.operator = "AND" := by
  rw [operator, h.first?_eq_none (by decide)]
  rfl

theorem projection_eq (h : o.LimitOnly) : o.projection = "*" := by
  rw [projection, selected?, h.first?_eq_none (by decide)]
  rfl

theorem joins?_eq (h : o.LimitOnly) : o.joins? = none := h.first?_eq_none (by decide)

theorem updateTail_eq (h : o.LimitOnly) : o.updateTail = o.limitClause := by
  obtain ⟨e, rfl, -⟩ := h
  rfl

theorem compile_eq (h : o.LimitOnly) : o.compile = o.limitClause := by
  have hgroup : o.first? ["group", "group_by"] = none := h.first?_eq_none (by decide)
  have horder : o.first? ["order", "order_by"] = none := h.first?_eq_none (by decide)
  have hoffset : o.first? ["offset"] = none := h.first?_eq_none (by decide)
  have hplaced : ∀ n, passed "limit" n = "" := fun n => by simp [passed, placed]
  obtain ⟨e, rfl, he⟩ := h.toList_eq
  simp only [compile, hgroup, horder, hoffset, Option.map_none, clause]
  rcases he with he | ⟨n, he, -⟩
  · simp [he]
  · simp [he, hplaced]

end LimitOnly

end Options

/-! ### Guards -/

/-- An id, or an equality map of scalars. -/
def Condition.ScalarTests : Condition → Prop
  | .byId _ => True
  | .equals entries => ∀ e ∈ entries.toList, e.2.isList = false
  | .all | .raw _ => False

namespace Sql

/-- The WHERE clause of the given tests, or nothing. -/
def wherePieces : List Equation → List Piece
  | [] => []
  | e :: es => .code " WHERE " :: equations " AND " (e :: es)

def limitPieces : Option String → List Piece
  | some n => [.code (" LIMIT " ++ n)]
  | none => []

end Sql

namespace Table

open Sql

variable {t : Table} {c : Condition} {r : Record} {o : Options}

/-- The equation of one entry of an equality map, if it makes a test. -/
def equation? (t : Table) (e : String × Value) : Option Equation :=
  if Text.isDigits e.1 then
    (e.2.text?.filter Text.isDigits).map fun s => (t.primaryKey, .ofText s)
  else some (e.1, .ofValue (t.columns.typeOf? e.1) e.2)

/-- What a condition compares, in order. -/
def compared (t : Table) : Condition → List Equation
  | .byId id => [(t.primaryKey, .ofText (toString id.toNat))]
  | .equals entries => entries.toList.filterMap t.equation?
  | .all | .raw _ => []

/-- What an UPDATE assigns to one column, if the record has a value for it. -/
def assigned? (t : Table) (r : Record) (c : Column) : Option Equation :=
  if c.name = t.primaryKey then none
  else
    (r.get? c.name).map fun v =>
      (c.name, if v.isNull && !c.nullable then .text ""
        else .ofValue (t.columns.typeOf? c.name) v)

def assigned (t : Table) (r : Record) : List Equation := t.columns.toList.filterMap (t.assigned? r)

/-- The end of a statement from its WHERE clause on. -/
def guard (t : Table) (c : Condition) (o : Options) : List Piece :=
  wherePieces (t.compared c) ++ limitPieces o.limit? ++ [.code ";"]

/-- No value of a test that a blank follows ends in two hyphens. -/
def QuietTests (t : Table) (c : Condition) (o : Options) : Prop :=
  (∀ e ∈ (t.compared c).dropLast, e.2.endsInDashes = false) ∧
    (o.limit?.isSome = true → ∀ e ∈ (t.compared c).getLast?, e.2.endsInDashes = false)

/-! The texts of the builders are the texts of these pieces. -/

theorem toList_idTest {s : String} (h : Literal.isBare s = true) :
    (Condition.idTest t s).toList = written (equation (t.primaryKey, .ofText s)) := by
  simp [Condition.idTest, equation, Piece.chars, Ident.toList_quoted, Constant.chars_ofText,
    Literal.ofText, h]

theorem toList_test? (key : String) {v : Value} (hv : v.isList = false) :
    (Condition.test? t key v).map String.toList =
      (t.equation? (key, v)).map fun e => written (equation e) := by
  have htest : Condition.test? t key v =
      if Text.isDigits key then (v.text?.filter Text.isDigits).map (Condition.idTest t)
      else some (Ident.quoted key ++ " = " ++ (t.columns.quote v key).text) := by
    cases v with
    | list items => simp [Value.isList] at hv
    | _ => rfl
  rw [htest, equation?]
  split
  · rw [Option.map_map, Option.map_map]
    refine Option.map_congr fun s hs => ?_
    obtain ⟨-, hs⟩ := Option.filter_eq_some_iff.1 hs
    exact toList_idTest (isBare_of_isDigits hs)
  · simp [equation, Piece.chars, Ident.toList_quoted, Constant.chars_ofValue _ hv,
      Columns.text_quote]

theorem toList_tests {entries : Fields Value} (h : ∀ e ∈ entries.toList, e.2.isList = false) :
    (Condition.tests t entries).map String.toList =
      (t.compared (.equals entries)).map fun e => written (equation e) := by
  rw [Condition.tests, compared, List.map_filterMap, List.map_filterMap]
  exact List.filterMap_congr fun e he => toList_test? e.1 (h e he)

theorem toList_spaced_where (s : String) :
    (Statement.spaced ("WHERE " ++ s)).toList = " WHERE ".toList ++ s.toList := by
  simp [Statement.spaced]

theorem isDigits_toString (n : Nat) : Text.isDigits (toString n) = true := by
  have hne : (toString n).toList ≠ [] := by simp
  have hall : ∀ c ∈ (toString n).toList, c.isDigit = true := by
    intro c hc
    rw [Nat.toString_eq_ofList_toDigits, String.toList_ofList] at hc
    exact Number.isDigit_toDigits n c hc
  simpa [Text.isDigits, hne] using hall

theorem toList_compile (h : c.ScalarTests) :
    (Statement.spaced (c.compile "AND" t)).toList = written (wherePieces (t.compared c)) := by
  cases c with
  | all => exact absurd h id
  | raw fragment => exact absurd h id
  | byId id =>
    rw [Condition.compile, toList_spaced_where,
      toList_idTest (isBare_of_isDigits (isDigits_toString _))]
    rfl
  | equals entries =>
    have hjoin : (Condition.joiner "AND").toList = " AND ".toList := by decide
    have htests := toList_tests (t := t) h
    cases he : t.compared (.equals entries) with
    | nil =>
      rw [he, List.map_nil, List.map_eq_nil_iff] at htests
      rw [Condition.compile, htests]
      rfl
    | cons e es =>
      obtain ⟨s, ss, hs⟩ : ∃ s ss, Condition.tests t entries = s :: ss := by
        cases hs : Condition.tests t entries with
        | nil => rw [hs, he] at htests; cases htests
        | cons s ss => exact ⟨s, ss, rfl⟩
      have hcode : written [.code " AND "] = " AND ".toList := rfl
      rw [Condition.compile, hs]
      dsimp only
      rw [toList_spaced_where, String.toList_intercalate, ← hs, htests, he, hjoin, wherePieces,
        written_cons, equations, written_intercalate, hcode, List.map_map]
      rfl

theorem toList_assignments (h : ∀ e ∈ r.toList, e.2.isList = false) :
    (t.assignments r).map String.toList = (t.assigned r).map fun e => written (equation e) := by
  rw [assignments, assigned, List.map_filterMap, List.map_filterMap]
  refine List.filterMap_congr fun c _ => ?_
  unfold assignment? assigned?
  split
  · rfl
  · cases hget : r.get? c.name with
    | none => rfl
    | some v =>
      have hv : v.isList = false := by
        obtain ⟨p, hp, rfl⟩ := Option.map_eq_some_iff.1 hget
        exact h p (List.mem_of_find?_eq_some hp)
      have hchars := Constant.chars_ofValue (t.columns.typeOf? c.name) hv
      have htext := t.columns.text_quote v c.name
      simp only [Option.map_some]
      cases v with
      | null =>
        cases hn : c.nullable <;>
          simp [equation, Piece.chars, Ident.toList_quoted, Constant.chars, Literal.escape,
            Constant.ofValue, Value.isNull]
      | list items => cases hv
      | _ => simp [equation, Piece.chars, Ident.toList_quoted, Value.isNull, hchars, htext]

theorem toList_limitClause (o : Options) :
    o.limitClause.toList = written (limitPieces o.limit?) := by
  rw [Options.limitClause, ← Options.limit?]
  cases o.limit? with
  | none => rfl
  | some n =>
    show (" " ++ "LIMIT" ++ " " ++ n).toList = written [.code (" LIMIT " ++ n)]
    simp [Piece.chars]

theorem toList_updateSql (hc : c.ScalarTests) (hr : ∀ e ∈ r.toList, e.2.isList = false)
    (ho : o.LimitOnly) :
    (t.updateSql (", ".intercalate (t.assignments r)) (c.compile o.operator t) o).toList =
      written (.code "UPDATE " :: .name t.name :: .code " SET " ::
        (equations ", " (t.assigned r) ++ t.guard c o)) := by
  have hset : (", ".intercalate (t.assignments r)).toList =
      written (equations ", " (t.assigned r)) := by
    rw [String.toList_intercalate, toList_assignments hr, equations, written_intercalate,
      List.map_map]
    rfl
  delta updateSql
  rw [ho.operator_eq, ho.updateTail_eq]
  simp [hset, toList_compile hc, toList_limitClause, guard, Piece.chars, quotedName,
    Ident.toList_quoted]

theorem toList_findSql (hc : c.ScalarTests) (ho : o.LimitOnly) :
    (t.findSql c o).toList =
      written (.code "SELECT * FROM " :: .name t.name :: t.guard c o) := by
  have hjoins : Statement.spaced "" = "" := rfl
  delta findSql readTail
  rw [ho.operator_eq, ho.compile_eq, ho.projection_eq, ho.joins?_eq]
  simp [hjoins, toList_compile hc, toList_limitClause, guard, Piece.chars, quotedName,
    Ident.toList_quoted]

theorem toList_deleteSql (hc : c.ScalarTests) (ho : o.LimitOnly) :
    (t.deleteSql c o).toList =
      written (.code "DELETE FROM " :: .name t.name :: t.guard c o) := by
  delta deleteSql
  rw [ho.operator_eq, ho.compile_eq]
  simp [toList_compile hc, toList_limitClause, guard, Piece.chars, quotedName,
    Ident.toList_quoted]

/-! What a guard is read as. -/

theorem wherePieces_concat (es : List Equation) (e : Equation) :
    wherePieces (es ++ [e]) = .code " WHERE " :: (separated " AND " es ++ equation e) := by
  rw [← equations_concat]
  cases es <;> rfl

theorem fitBefore_wherePieces {es : List Equation} {rest : List Char} (h : rest.head? ≠ some '-') :
    FitBefore rest (wherePieces es) := by
  rcases List.eq_nil_or_concat es with rfl | ⟨es, e, rfl⟩
  · trivial
  · rw [List.concat_eq_append, wherePieces_concat]
    exact ⟨rfl, fitBefore_append.2 ⟨fitBefore_separated rfl (by decide), fitBefore_equation h⟩⟩

theorem quietBefore_wherePieces {es : List Equation} {rest : List Char} :
    QuietBefore rest (wherePieces es) ↔
      (∀ e ∈ es.dropLast, e.2.endsInDashes = false) ∧
        (opensComment rest = true → ∀ e ∈ es.getLast?, e.2.endsInDashes = false) := by
  rcases List.eq_nil_or_concat es with rfl | ⟨es, e, rfl⟩
  · simp [wherePieces, QuietBefore]
  · have hsep : ∀ cs, opensComment (" AND ".toList ++ cs) = true := fun cs => by
      show Text.isBlank ' ' = true
      decide
    have hcode : ∀ cs, ¬ (Piece.code " WHERE ").Opens cs := fun _ => id
    rw [List.concat_eq_append, wherePieces_concat, QuietBefore, and_iff_right (hcode _),
      quietBefore_append, quietBefore_separated hsep, quietBefore_equation, List.dropLast_concat,
      List.getLast?_concat]
    simp

theorem opensComment_limitPieces (n : Option String) :
    opensComment (written (limitPieces n ++ [.code ";"])) = n.isSome := by
  cases n with
  | none => decide
  | some n =>
    have hblank : Text.isBlank ' ' = true := by decide
    simp [limitPieces, Piece.chars, opensComment, hblank]

theorem head?_limitPieces (n : Option String) :
    (written (limitPieces n ++ [.code ";"])).head? ≠ some '-' := by
  cases n with
  | none => decide
  | some n => simp [limitPieces, Piece.chars]

theorem fitBefore_guard (ho : o.LimitOnly) : FitBefore [] (t.guard c o) := by
  have hlimit : FitBefore [] (limitPieces o.limit? ++ [.code ";"]) := by
    obtain ⟨e, rfl, ⟨-, hn⟩ | ⟨n, -, hn, hdigits⟩⟩ := ho.limit?_eq
    · rw [hn]
      exact ⟨rfl, trivial⟩
    · rw [hn]
      refine ⟨?_, rfl, trivial⟩
      show (" LIMIT " ++ n).toList.all isPlain = true
      rw [String.toList_append, List.all_append, Bool.and_eq_true]
      refine ⟨by decide, List.all_eq_true.2 fun c hc => ?_⟩
      exact (isPlain_of_isDigits hdigits c hc).2.2
  rw [guard, List.append_assoc, fitBefore_append, List.append_nil]
  exact ⟨fitBefore_wherePieces (head?_limitPieces _), hlimit⟩

theorem quietBefore_guard : QuietBefore [] (t.guard c o) ↔ t.QuietTests c o := by
  have hlimit : QuietBefore [] (limitPieces o.limit? ++ [.code ";"]) := by
    cases o.limit? with
    | none => exact ⟨id, trivial⟩
    | some n => exact ⟨id, id, trivial⟩
  rw [guard, List.append_assoc, quietBefore_append, and_iff_left hlimit, quietBefore_wherePieces,
    List.append_nil, opensComment_limitPieces, QuietTests]

theorem guard_eq_cons (t : Table) (c : Condition) (o : Options) :
    ∃ s ps, t.guard c o = .code s :: ps ∧
      (s.toList.head? = some ' ' ∨ s.toList.head? = some ';') := by
  unfold guard
  cases t.compared c with
  | cons e es => exact ⟨" WHERE ", _, rfl, .inl rfl⟩
  | nil =>
    cases o.limit? with
    | none => exact ⟨";", _, rfl, .inr rfl⟩
    | some n => exact ⟨" LIMIT " ++ n, _, rfl, .inl (by simp)⟩

theorem intended_guard (t : Table) (c : Condition) (o : Options) :
    ∃ rs, intended (t.guard c o) = .code :: rs := by
  obtain ⟨s, ps, hs, hhead⟩ := guard_eq_cons t c o
  cases hl : s.toList with
  | nil => simp [hl] at hhead
  | cons ch cs =>
    rw [hs, intended_cons, Piece.regions, Piece.chars, hl]
    exact ⟨_, rfl⟩

theorem endsName_guard (t : Table) (c : Condition) (o : Options) :
    EndsName (written (t.guard c o)) := by
  obtain ⟨s, ps, hs, hhead⟩ := guard_eq_cons t c o
  rw [hs, written_cons, Piece.chars, EndsName, List.head?_append]
  rcases hhead with hhead | hhead
  · rw [hhead]
    show some ' ' ≠ some '\x60'
    decide
  · rw [hhead]
    show some ';' ≠ some '\x60'
    decide

/-- The text ends in the pieces, and they are read as they were written exactly if `p`. -/
def EndsIn (cs : List Char) (ps : List Piece) (p : Prop) : Prop :=
  ∃ head, cs = head ++ written ps ∧ ((regions .code cs).drop head.length = intended ps ↔ p)

/-- A statement whose last piece before the guard is `p` and which is quiet up to it. -/
theorem endsIn_guard {ps : List Piece} {p : Piece} (ho : o.LimitOnly)
    (hps : FitBefore (written (p :: t.guard c o)) ps) (hp : p.Fits (written (t.guard c o)))
    (hq : QuietBefore (written (p :: t.guard c o)) ps) :
    EndsIn (written (ps ++ p :: t.guard c o)) (t.guard c o)
      (¬ p.Opens (written (t.guard c o)) ∧ t.QuietTests c o) := by
  have hfit : FitBefore [] (ps ++ p :: t.guard c o) := by
    refine fitBefore_append.2 ⟨?_, ?_, fitBefore_guard ho⟩
    · rwa [List.append_nil]
    · rwa [List.append_nil]
  refine ⟨written ps ++ p.chars, by simp, ?_⟩
  rw [drop_regions_iff hfit hq (intended_guard t c o), quietBefore_guard]

theorem update_eq (hclause : c.compile o.operator t ≠ "") (has : t.assignments r ≠ []) :
    t.update c r o = .ok (.ofSql
      (t.updateSql (", ".intercalate (t.assignments r)) (c.compile o.operator t) o)) := by
  obtain ⟨a, as, ha⟩ := List.exists_cons_of_ne_nil has
  simp [update, hclause, ha]

theorem update_eq_ok {s : Statement} (h : t.update c r o = .ok s) :
    c.compile o.operator t ≠ "" ∧ t.assignments r ≠ [] ∧
      s.sql = t.updateSql (", ".intercalate (t.assignments r)) (c.compile o.operator t) o := by
  have hclause : c.compile o.operator t ≠ "" := by
    intro he
    simp [update, he] at h
  have has : t.assignments r ≠ [] := by
    intro he
    simp [update, he, hclause] at h
  rw [update_eq hclause has] at h
  cases h
  exact ⟨hclause, has, rfl⟩

theorem compared_ne_nil (hc : c.ScalarTests) (h : c.compile "AND" t ≠ "") : t.compared c ≠ [] := by
  intro hnil
  have hwhere := toList_compile (t := t) hc
  rw [hnil] at hwhere
  have hspaced : Statement.spaced (c.compile "AND" t) = "" := String.toList_injective hwhere
  unfold Statement.spaced at hspaced
  split at hspaced
  · exact h (String.toList_injective (List.isEmpty_iff.1 ‹_›))
  · split at hspaced
    · exact h hspaced
    · simp at hspaced

/-- An UPDATE up to the constant of its last assignment. -/
def updateHead (t : Table) (es : List Equation) (column : String) : List Piece :=
  .code "UPDATE " :: .name t.name :: .code " SET " ::
    (separated ", " es ++ [.name column, .code " = "])

theorem fitBefore_updateHead (t : Table) (es : List Equation) (column : String)
    (rest : List Char) : FitBefore rest (t.updateHead es column) := by
  refine ⟨rfl, endsName_cons (c := ' ') (by decide) _, rfl,
    fitBefore_append.2 ⟨?_, ?_, rfl, trivial⟩⟩
  · exact fitBefore_separated rfl (by decide)
  · exact endsName_cons (c := ' ') (by decide) _

theorem quietBefore_updateHead (t : Table) (es : List Equation) (column : String)
    (rest : List Char) : QuietBefore rest (t.updateHead es column) := by
  -- a comma follows each of these constants, and two hyphens before a comma open nothing
  have hsep : ∀ cs, opensComment (", ".toList ++ cs) = false := fun cs => by
    show Text.isBlank ',' = false
    decide
  refine ⟨id, id, id, quietBefore_append.2 ⟨?_, id, id, trivial⟩⟩
  exact (quietBefore_separated hsep).2 fun _ _ h => absurd h.2 (by decide)

theorem written_guard_of_compared (h : t.compared c ≠ []) :
    ∃ cs, written (t.guard c o) = ' ' :: cs := by
  obtain ⟨e, es, he⟩ := List.exists_cons_of_ne_nil h
  rw [guard, he]
  exact ⟨_, rfl⟩

theorem endsIn_update {s : Statement} (hc : c.ScalarTests) (ho : o.LimitOnly)
    (hr : ∀ e ∈ r.toList, e.2.isList = false) (h : t.update c r o = .ok s) :
    EndsIn s.sql.toList (t.guard c o)
      ((∀ e ∈ (t.assigned r).getLast?, e.2.endsInDashes = false) ∧ t.QuietTests c o) := by
  obtain ⟨hclause, has, hsql⟩ := update_eq_ok h
  rw [ho.operator_eq] at hclause
  obtain ⟨cs, hcs⟩ := written_guard_of_compared (o := o) (compared_ne_nil hc hclause)
  have hopens : opensComment (written (t.guard c o)) = true := by
    rw [hcs]
    show Text.isBlank ' ' = true
    decide
  have hhead : (written (t.guard c o)).head? ≠ some '-' := by
    rw [hcs]
    show some ' ' ≠ some '-'
    decide
  rcases List.eq_nil_or_concat (t.assigned r) with hnil | ⟨es, e, he⟩
  · have hmap := toList_assignments (t := t) hr
    rw [hnil, List.map_nil, List.map_eq_nil_iff] at hmap
    exact absurd hmap has
  · rw [List.concat_eq_append] at he
    have hpieces : .code "UPDATE " :: .name t.name :: .code " SET " ::
        (equations ", " (t.assigned r) ++ t.guard c o) =
          t.updateHead es e.1 ++ .constant e.2 :: t.guard c o := by
      simp [updateHead, he, equations_concat, equation]
    have hends := endsIn_guard (p := .constant e.2) ho (fitBefore_updateHead t es e.1 _) hhead
      (quietBefore_updateHead t es e.1 _)
    rw [hsql, toList_updateSql hc hr ho, hpieces, he, List.getLast?_concat]
    simpa [Piece.Opens, hopens] using hends

theorem endsIn_named {verb : String} (hverb : verb.toList.all isPlain = true)
    (ho : o.LimitOnly) :
    EndsIn (written (.code verb :: .name t.name :: t.guard c o)) (t.guard c o)
      (t.QuietTests c o) := by
  have hname : (Piece.name t.name).Fits (written (t.guard c o)) := endsName_guard t c o
  have hfit : FitBefore (written (.name t.name :: t.guard c o)) [.code verb] := ⟨hverb, trivial⟩
  have hends := endsIn_guard ho hfit hname ⟨id, trivial⟩
  have hquiet : ¬ (Piece.name t.name).Opens (written (t.guard c o)) := id
  rwa [and_iff_right hquiet] at hends

/-- An UPDATE, SELECT or DELETE over scalars ends in its guard. This is read as it was written
exactly if no constant that a blank follows ends in two hyphens. -/
theorem guard_read_iff (t : Table) {c : Condition} {o : Options} (hc : c.ScalarTests)
    (ho : o.LimitOnly) :
    (∀ r s, (∀ e ∈ r.toList, e.2.isList = false) → t.update c r o = .ok s →
      EndsIn s.sql.toList (t.guard c o)
        ((∀ e ∈ (t.assigned r).getLast?, e.2.endsInDashes = false) ∧ t.QuietTests c o)) ∧
    EndsIn (t.find c o).sql.toList (t.guard c o) (t.QuietTests c o) ∧
    EndsIn (t.delete c o).sql.toList (t.guard c o) (t.QuietTests c o) := by
  refine ⟨fun r s hr h => endsIn_update hc ho hr h, ?_, ?_⟩
  · show EndsIn (t.findSql c o).toList _ _
    rw [toList_findSql hc ho]
    exact endsIn_named (by decide) ho
  · show EndsIn (t.deleteSql c o).toList _ _
    rw [toList_deleteSql hc ho]
    exact endsIn_named (by decide) ho

/-- Hyphens in a quoted text before the WHERE clause, and in the name and the text of a test. -/
theorem guard_read_quiet :
    ∃ s, update ⟨"posts", "id", ⟨[⟨"title", "text", false, false⟩], by decide⟩⟩
        (.equals ⟨[("a\x60 --", .text "\x27; -- ")], by decide⟩)
        ⟨[("title", .text "-- ")], by decide⟩
        (.entries ⟨[("limit", "3")], by decide⟩) = .ok s ∧
      EndsIn s.sql.toList [.code " WHERE ", .name "a\x60 --", .code " = ",
        .constant (.text "\x27; -- "), .code " LIMIT 3", .code ";"] True := by
  have hguard : guard ⟨"posts", "id", ⟨[⟨"title", "text", false, false⟩], by decide⟩⟩
      (.equals ⟨[("a\x60 --", .text "\x27; -- ")], by decide⟩)
      (.entries ⟨[("limit", "3")], by decide⟩) = [.code " WHERE ", .name "a\x60 --", .code " = ",
        .constant (.text "\x27; -- "), .code " LIMIT 3", .code ";"] := by
    decide +kernel
  rw [← hguard]
  have hok := update_eq (t := ⟨"posts", "id", ⟨[⟨"title", "text", false, false⟩], by decide⟩⟩)
    (c := .equals ⟨[("a\x60 --", .text "\x27; -- ")], by decide⟩)
    (r := ⟨[("title", .text "-- ")], by decide⟩) (o := .entries ⟨[("limit", "3")], by decide⟩)
    (by decide +kernel) (by decide +kernel)
  have hread := (guard_read_iff _ ?_ ?_).1 _ _ ?_ hok
  · obtain ⟨head, hsql, hiff⟩ := hread
    refine ⟨_, hok, head, hsql, hiff.trans (iff_true_intro ⟨by decide, by decide, ?_⟩)⟩
    exact fun _ => by decide
  · intro e he
    rw [List.mem_singleton.1 he]
    rfl
  · refine ⟨_, rfl, fun p hp => ?_⟩
    rw [List.mem_singleton.1 hp]
    decide
  · intro e he
    rw [List.mem_singleton.1 he]
    rfl

/-- A text of two hyphens is a bare run, and in the last assignment it makes a comment of the WHERE
clause, the LIMIT clause and the final `;`. -/
theorem guard_lost_in_comment : ∃ s head,
    update ⟨"posts", "id",
          ⟨[⟨"id", "int(11)", false, true⟩, ⟨"title", "varchar(255)", false, false⟩], by decide⟩⟩
        (.byId 4) ⟨[("title", .text "--")], by decide⟩
        (.entries ⟨[("limit", "1")], by decide⟩) = .ok s ∧
      s.sql.toList = head ++ " WHERE `id` = 4 LIMIT 1;".toList ∧
      ∀ x ∈ (regions .code s.sql.toList).drop head.length, x = .comment := by
  refine ⟨_, "UPDATE `posts` SET `title` = --".toList, rfl, ?_, ?_⟩
  · decide +kernel
  · decide +kernel

end Table

end OneTable
