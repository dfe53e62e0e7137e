import Mathlib.Data.List.Basic
import OneTable.Options.Basic

/-!
# A default limit

An option that is set is seen under its own name only (`first?_insert`), and with a place of its own
it changes nothing in what is passed on (`passedClauses_insert`).

`Options.setDefault` sets an option that has no entry; an entry with a blank text is one all the
same. A limit that is set this way changes nothing else in what the options are written as
(`compile_withLimit`), and the LIMIT clause is then that of the text given, or of the default without
one (`limitClause_withLimit`). So there is none exactly if a blank text is given (`BlankLimit`).
-/

namespace OneTable

namespace Options

variable {e : Fields String} {name value : String} {names : List String}

/-! ### Setting one option -/

theorem first?_insert (h : ∀ name' ∈ names, name ≠ Text.lower name') (value : String) :
    (entries (e.insert name value)).first? names = (entries e).first? names := by
  have hget : ∀ name' ∈ names, (entries (e.insert name value)).get? name' =
      (entries e).get? name' := fun name' hmem => by
    rw [get?, get?, Fields.get?_insert, if_neg (h name' hmem)]
  rw [first?, first?, List.filterMap_congr hget]

/-- An option with a place of its own is not among those that are passed on. -/
theorem passed_eq_empty (h : placed.contains name = true) (value : String) :
    passed name value = "" := by
  simp only [passed, h, Bool.true_or, if_true]

theorem passedClauses_insert (h : placed.contains name = true) (value : String) :
    "".intercalate ((e.insert name value).toList.map fun (name, value) => passed name value) =
      "".intercalate (e.toList.map fun (name, value) => passed name value) := by
  apply String.toList_injective
  simp only [String.toList_intercalate, String.toList_empty, Text.nil_intercalate, Fields.insert]
  induction e.toList with
  | nil => simp [upsert, passed_eq_empty h]
  | cons p l ih =>
    rw [upsert]
    split
    · rename_i hname
      have hplaced : placed.contains p.1 = true := hname ▸ h
      simp [passed_eq_empty h, passed_eq_empty hplaced]
    · simpa using ih

/-! ### Looking up with a default -/

/-- The entries with a default under the name. -/
def withDefault (e : Fields String) (name value : String) : Fields String :=
  if e.contains name then e else e.insert name value

theorem setDefault_entries (e : Fields String) (name value : String) :
    setDefault (.entries e) name value = .entries (withDefault e (Text.lower name) value) := by
  rw [setDefault, withDefault]
  split <;> rfl

/-- A default is taken if there is no entry under its name, and is for that name alone. -/
theorem get?_withDefault (e : Fields String) (name value name' : String) :
    (withDefault e name value).get? name' =
      if name = name' then some ((e.get? name).getD value) else e.get? name' := by
  by_cases hmem : name ∈ e.names
  · have hget : e.get? name ≠ none := fun h => Fields.get?_eq_none_iff.1 h hmem
    obtain ⟨s, hs⟩ := Option.ne_none_iff_exists'.1 hget
    rw [withDefault, if_pos (Fields.contains_eq_true_iff.2 hmem)]
    split
    · rename_i h
      rw [← h, hs, Option.getD_some]
    · rfl
  · have hget : e.get? name = none := Fields.get?_eq_none_iff.2 hmem
    rw [withDefault, if_neg (mt Fields.contains_eq_true_iff.1 hmem), Fields.get?_insert, hget,
      Option.getD_none]

theorem first?_withDefault (h : ∀ name' ∈ names, name ≠ Text.lower name') :
    (entries (withDefault e name value)).first? names = (entries e).first? names := by
  rw [withDefault]
  split
  · rfl
  · exact first?_insert h value

theorem passedClauses_withDefault (h : placed.contains name = true) :
    "".intercalate
        ((withDefault e name value).toList.map fun (name, value) => passed name value) =
      "".intercalate (e.toList.map fun (name, value) => passed name value) := by
  rw [withDefault]
  split
  · rfl
  · exact passedClauses_insert h value

/-! ### The LIMIT clause among the others -/

def beforeLimit (e : Fields String) : String :=
  clause "GROUP BY" (first? (.entries e) ["group", "group_by"]) ++
    clause "ORDER BY" ((first? (.entries e) ["order", "order_by"]).map Order.compile) ++
    "".intercalate (e.toList.map fun (name, value) => passed name value)

def afterLimit (e : Fields String) : String := clause "OFFSET" (first? (.entries e) ["offset"])

theorem compile_entries (e : Fields String) :
    compile (.entries e) = beforeLimit e ++ limitClause (.entries e) ++ afterLimit e := rfl

theorem lower_limit : Text.lower "limit" = "limit" := Text.lower_eq_self (by decide)

/-- No option but the limit sees its default. -/
theorem first?_withLimit (value : String)
    (h : ∀ name ∈ names, name.toList.map Char.toLower ≠ "limit".toList) :
    (entries (withDefault e "limit" value)).first? names = (entries e).first? names :=
  first?_withDefault fun name hmem => Text.ne_lower (h name hmem)

theorem projection_withLimit (e : Fields String) (value : String) :
    (entries (withDefault e "limit" value)).projection = (entries e).projection := by
  rw [projection, selected?, first?_withLimit value (by decide), projection, selected?]

theorem joins?_withLimit (e : Fields String) (value : String) :
    (entries (withDefault e "limit" value)).joins? = (entries e).joins? :=
  first?_withLimit value (by decide)

theorem operator_withLimit (e : Fields String) (value : String) :
    (entries (withDefault e "limit" value)).operator = (entries e).operator := by
  rw [operator, first?_withLimit value (by decide), operator]

theorem beforeLimit_withLimit (e : Fields String) (value : String) :
    beforeLimit (withDefault e "limit" value) = beforeLimit e := by
  rw [beforeLimit, first?_withLimit value (by decide), first?_withLimit value (by decide),
    passedClauses_withDefault (by decide), beforeLimit]

theorem compile_withLimit (e : Fields String) (value : String) :
    compile (.entries (withDefault e "limit" value)) =
      beforeLimit e ++ limitClause (.entries (withDefault e "limit" value)) ++ afterLimit e := by
  rw [compile_entries, beforeLimit_withLimit, afterLimit, first?_withLimit value (by decide),
    afterLimit]

/-! ### The LIMIT clause -/

/-- A limit that is given with a text that is blank up to its first `;`. -/
def BlankLimit (e : Fields String) : Prop :=
  ∃ s, e.get? "limit" = some s ∧ Text.trimmed (cut s) = ""

/-- The clause is that of the text given, or of the default without one. -/
theorem limitClause_withLimit (e : Fields String) (value : String) :
    limitClause (.entries (withDefault e "limit" value)) =
      let s := Text.trimmed (cut ((e.get? "limit").getD value))
      if s = "" then "" else " LIMIT " ++ s := by
  have hget : get? (.entries (withDefault e "limit" value)) "limit" =
      some (cut ((e.get? "limit").getD value)) := by
    rw [get?, lower_limit, get?_withDefault, if_pos rfl, Option.map_some]
  rw [limitClause, first?, List.filterMap_cons_some hget]
  dsimp only
  split
  · rename_i h
    simp [h, clause]
  · rename_i h
    simp [h, clause]

end Options

end OneTable
