import OneTable.Proofs.Options.Limit
import OneTable.Proofs.Options.OrderedColumns

/-!
# Orders that are compiled already

A compiled list holds no `;` unless the list does, and no blanks are around it, so it is looked up
as it stands when it is given as an order. Together with `Order.compile_compile` this means that a
list may be given again in its compiled form (`Options.compiled_order_stays`). A list without items
compiles to an empty text, which as an option counts for nothing.
-/

namespace OneTable

namespace Options

variable {e : Fields String} {s : String}

theorem set_order (e : Fields String) (s : String) :
    set (.entries e) "order" s = .entries (e.insert "order" s) := by
  rw [set, Text.lower_eq_self (by decide)]

/-- No clause but ORDER BY sees the order. -/
theorem first?_insert_order {names : List String}
    (h : ∀ name ∈ names, name.toList.map Char.toLower ≠ "order".toList) (s : String) :
    (entries (e.insert "order" s)).first? names = (entries e).first? names :=
  first?_insert (fun name hmem => Text.ne_lower (h name hmem)) s

theorem afterOrder_insert_order (e : Fields String) (s : String) :
    afterOrder (.entries (e.insert "order" s)) = afterOrder (.entries e) := by
  rw [afterOrder, passedClauses_insert (by decide), limitClause, first?_insert_order (by decide),
    first?_insert_order (by decide), afterOrder, limitClause]

/-- The clauses stay the same when the order that is looked up is replaced by its compiled form. -/
theorem compile_set_compiled (h : (entries e).first? ["order", "order_by"] = some s)
    (hne : Order.compile s ≠ "") :
    (set (.entries e) "order" (Order.compile s)).compile = (entries e).compile := by
  have hcut : ';' ∉ (Order.compile s).toList :=
    Order.semicolon_notMem_compile (semicolon_notMem_of_first? h)
  rw [compile_set_order e hne hcut (Order.trimmed_compile s), set_order,
    first?_insert_order (by decide), afterOrder_insert_order, Order.compile_compile,
    compile_of_order h]

/-- Compiling a compiled list changes nothing. The lists it leaves alone are those of settled items
with `, ` between them: columns that stand bare, each alone or with a direction in upper case behind
one space. So options say the same when the compiled form of their order is given in its place,
unless that list has no items. -/
theorem compiled_order_stays (s : String) :
    Order.compile (Order.compile s) = Order.compile s ∧
      (Order.compile s = s ↔ Order.SettledList s.toList) ∧
      ∀ e : Fields String, (entries e).first? ["order", "order_by"] = some s →
        Order.compile s ≠ "" →
        (set (.entries e) "order" (Order.compile s)).compile = (entries e).compile :=
  ⟨Order.compile_compile s, Order.compile_eq_self_iff, fun _ => compile_set_compiled⟩

/-- An order under its second name, with a quote in a name, an empty item and odd blanks. -/
theorem compiled_order_stays_alias :
    let e : Fields String := ⟨[("order_by", " rand() ,, `a``, b`\tdesc; x"), ("having", "n > 1"),
      ("limit", "5")], by decide⟩
    let s := "rand() ,, `a``, b`\tdesc"
    (entries e).first? ["order", "order_by"] = some s ∧ Order.compile s ≠ "" ∧
      Order.compile (Order.compile s) = Order.compile s ∧
      (set (.entries e) "order" (Order.compile s)).compile = (entries e).compile := by
  intro e s
  have hfirst : (entries e).first? ["order", "order_by"] = some s := by decide +kernel
  have hne : Order.compile s ≠ "" := by decide +kernel
  obtain ⟨hagain, -, hgiven⟩ := compiled_order_stays s
  exact ⟨hfirst, hne, hagain, hgiven e hfirst hne⟩

end Options

end OneTable
