import OneTable.Proofs.Options.Cut
import OneTable.Proofs.Options.Limit

/-!
# The expression that rows are grouped by

A grouped count reads the expression off the entries in a way of its own: the text of `group`, or
else that of `group_by`, blank or not (`Options.grouping?`). It becomes the default of `select`. The
GROUP BY clause is for the first of the two texts that is not blank. Both lead to the same text
unless the one that is read off is blank (`first?_grouping`, `selected?_withSelect`).
-/

namespace OneTable

namespace Options

variable {o : Options} {e : Fields String} {s : String}

/-- The text that a grouped count selects by default. -/
def grouping? (o : Options) : Option String := (o.get? "group").or (o.get? "group_by")

theorem cut_of_grouping? (h : o.grouping? = some s) : cut s = s := by
  have hget : ∀ name, o.get? name = some s → cut s = s := fun name hname => by
    cases o with
    | entries e =>
      obtain ⟨value, -, rfl⟩ := Option.map_eq_some_iff.1 hname
      exact cut_cut value
    | raw clause => cases hname
  rw [grouping?] at h
  cases hgroup : o.get? "group" with
  | none =>
    rw [hgroup, Option.none_or] at h
    exact hget _ h
  | some group =>
    rw [hgroup, Option.some_or] at h
    exact hget _ (hgroup.trans h)

/-- The GROUP BY clause is for the text that is read off, if that is not blank. -/
theorem first?_grouping (h : o.grouping? = some s) (hs : Text.trimmed s ≠ "") :
    o.first? ["group", "group_by"] = some (Text.trimmed s) := by
  have hne : (Text.trimmed s).toList ≠ [] := by simpa using hs
  rw [grouping?] at h
  cases hgroup : o.get? "group" with
  | none =>
    rw [hgroup, Option.none_or] at h
    simp [first?, hgroup, h, hne]
  | some group =>
    rw [hgroup, Option.some_or] at h
    cases h
    simp [first?, hgroup, hne]

/-! ### A default selection -/

theorem lower_select : Text.lower "select" = "select" := Text.lower_eq_self (by decide)

theorem selected?_withSelect (h : e.get? "select" = none) (value : String) :
    (entries (withDefault e "select" value)).selected? =
      let s := Text.trimmed (cut value)
      if s = "" then none else some s := by
  have hget : get? (.entries (withDefault e "select" value)) "select" = some (cut value) := by
    rw [get?, lower_select, get?_withDefault, if_pos rfl, h, Option.getD_none, Option.map_some]
  rw [selected?, first?, List.filterMap_cons_some hget]
  dsimp only
  split
  · rename_i hs
    simp [hs]
  · rename_i hs
    simp [hs]

/-- No option but the selection sees its default. -/
theorem first?_withSelect (value : String) {names : List String}
    (h : ∀ name ∈ names, name.toList.map Char.toLower ≠ "select".toList) :
    (entries (withDefault e "select" value)).first? names = (entries e).first? names :=
  first?_withDefault fun name hmem => Text.ne_lower (h name hmem)

theorem joins?_withSelect (e : Fields String) (value : String) :
    (entries (withDefault e "select" value)).joins? = (entries e).joins? :=
  first?_withSelect value (by decide)

theorem operator_withSelect (e : Fields String) (value : String) :
    (entries (withDefault e "select" value)).operator = (entries e).operator := by
  rw [operator, first?_withSelect value (by decide), operator]

/-- What follows the GROUP BY clause. -/
def afterGroup (e : Fields String) : String :=
  clause "ORDER BY" ((first? (.entries e) ["order", "order_by"]).map Order.compile) ++
    "".intercalate (e.toList.map fun (name, value) => passed name value) ++
    limitClause (.entries e) ++ afterLimit e

theorem compile_withSelect (e : Fields String) (value : String) :
    compile (.entries (withDefault e "select" value)) =
      clause "GROUP BY" (first? (.entries e) ["group", "group_by"]) ++ afterGroup e := by
  rw [compile_entries, beforeLimit, limitClause, afterLimit, first?_withSelect value (by decide),
    first?_withSelect value (by decide), first?_withSelect value (by decide),
    first?_withSelect value (by decide), passedClauses_withDefault (by decide), afterGroup,
    limitClause, afterLimit]
  simp only [String.append_assoc]

end Options

end OneTable
