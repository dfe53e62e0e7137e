import OneTable.Statement.Forms

/-!
# Options that agree

Of options a statement uses what it looks up by name and what they say behind the condition.
Options that agree in this make the same statements, or the same refusals (`Options.Agree.find_eq`
and its likes). For entries it is enough that every name is looked up alike and that the same is
passed on (`Options.agree_entries`).
-/

namespace OneTable

namespace Options

structure Agree (o o' : Options) : Prop where
  get?_eq : ∀ name, o.get? name = o'.get? name
  compile_eq : o.compile = o'.compile
  updateTail_eq : o.updateTail = o'.updateTail

theorem first?_congr {o o' : Options} (h : ∀ name, o.get? name = o'.get? name)
    (names : List String) : o.first? names = o'.first? names := by
  have hget : o.get? = o'.get? := funext h
  rw [first?, first?, hget]

theorem agree_entries {e e' : Fields String}
    (h : ∀ name, (entries e).get? name = (entries e').get? name)
    (hpassed : "".intercalate (e.toList.map fun (name, value) => passed name value) =
      "".intercalate (e'.toList.map fun (name, value) => passed name value)) :
    Agree (.entries e) (.entries e') := by
  have hfirst := first?_congr h
  have hlimit : (entries e).limitClause = (entries e').limitClause := by
    rw [limitClause, limitClause, hfirst]
  refine ⟨h, ?_, hlimit⟩
  simp only [compile, hfirst, hlimit, hpassed]

namespace Agree

variable {o o' : Options}

theorem selected?_eq (h : o.Agree o') : o.selected? = o'.selected? := first?_congr h.get?_eq _

theorem joins?_eq (h : o.Agree o') : o.joins? = o'.joins? := first?_congr h.get?_eq _

theorem operator_eq (h : o.Agree o') : o.operator = o'.operator := by
  rw [operator, operator, first?_congr h.get?_eq]

theorem readTail_eq (h : o.Agree o') (t : Table) (c : Condition) :
    t.readTail c o = t.readTail c o' := by
  delta Table.readTail
  rw [h.joins?_eq, h.operator_eq, h.compile_eq]

theorem find_eq (h : o.Agree o') (t : Table) (c : Condition) : t.find c o = t.find c o' := by
  delta Table.find Table.findSql projection
  rw [h.selected?_eq, h.readTail_eq]

theorem count_eq (h : o.Agree o') (t : Table) (c : Condition) : t.count c o = t.count c o' := by
  delta Table.count Table.countSql
  rw [h.selected?_eq, h.readTail_eq]

theorem delete_eq (h : o.Agree o') (t : Table) (c : Condition) : t.delete c o = t.delete c o' := by
  delta Table.delete Table.deleteSql
  rw [h.operator_eq, h.compile_eq]

theorem updateSql_eq (h : o.Agree o') (t : Table) (set clause : String) :
    t.updateSql set clause o = t.updateSql set clause o' := by
  delta Table.updateSql
  rw [h.updateTail_eq]

theorem update_eq (h : o.Agree o') (t : Table) (c : Condition) (r : Record) :
    t.update c r o = t.update c r o' := by
  simp only [Table.update, h.operator_eq, h.updateSql_eq]

theorem increment_eq (h : o.Agree o') (t : Table) (c : Condition) (column : String)
    (step : Value) : t.increment c column step o = t.increment c column step o' := by
  simp only [Table.increment, Table.incrementSql, h.operator_eq, h.updateSql_eq]

end Agree

end Options

end OneTable
