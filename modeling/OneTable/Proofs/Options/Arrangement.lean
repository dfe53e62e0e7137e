import Mathlib.Data.List.Nodup
import OneTable.Proofs.Options.Agreement
import OneTable.Proofs.Text.Case

/-!
# Order and case of option names

Names of options are stored in lower case and looked up by name. So neither the case of their
letters nor their order matters, but for the options that are passed on, which are written in the
order in which they stand. Options made of two lists that differ in nothing else make the same
statements, or the same refusals (`Options.arrangement_has_no_effect`), whether they are made of the
list, of a map or set one by one.
-/

namespace OneTable

namespace Options

variable {l l' : List (String × String)}

/-! ### Ways to make options -/

/-- What options are made from. -/
inductive Source
  | list
  | fields
  /-- Empty options that are set one after the other. -/
  | calls

/-- The options that are made of a list of names and texts. -/
def Source.options (l : List (String × String)) : Source → Options
  | .list => ofList l
  | .fields => ofFields (.ofList l)
  | .calls => l.foldl (fun o e => o.set e.1 e.2) empty

/-- A pair as it is stored. -/
def stored (e : String × String) : String × String := (Text.lower e.1, e.2)

theorem foldl_set (l : List (String × String)) (e : Fields String) :
    l.foldl (fun o p => o.set p.1 p.2) (entries e) =
      entries ((l.map stored).foldl (fun e p => e.insert p.1 p.2) e) := by
  induction l generalizing e with
  | nil => rfl
  | cons p l ih => exact ih _

theorem names_stored (l : List (String × String)) :
    (l.map stored).map Prod.fst = (l.map Prod.fst).map Text.lower := by
  simp [stored, Function.comp_def]

/-- However they are made, the pairs are stored in their order. -/
theorem options_eq (h : ((l.map Prod.fst).map Text.lower).Nodup) (source : Source) :
    ∃ e, source.options l = entries e ∧ e.toList = l.map stored := by
  have hstored : ((l.map stored).map Prod.fst).Nodup := names_stored l ▸ h
  have hlist : (Fields.ofList (l.map stored)).toList = l.map stored := Fields.toList_ofList hstored
  cases source with
  | list => exact ⟨_, rfl, hlist⟩
  | fields =>
    refine ⟨_, rfl, ?_⟩
    rw [Fields.toList_ofList (List.Nodup.of_map Text.lower h)]
    exact hlist
  | calls => exact ⟨_, foldl_set l {}, hlist⟩

/-! ### Rearrangements -/

/-- The option is written behind the condition under its own name. -/
def passesOn (e : String × String) : Bool := !placed.contains (Text.lower e.1)

/-- The same text under a name that differs at most in the case of ASCII letters. -/
def Respelled (e e' : String × String) : Prop := Text.sameIgnoringCase e.1 e'.1 = true ∧ e.2 = e'.2

/-- The second list is the first with names in other cases and pairs at other places; those that are
passed on follow each other as before. -/
def Rearranged (l l' : List (String × String)) : Prop :=
  ∃ m, List.Forall₂ Respelled l m ∧ m.Perm l' ∧ m.filter passesOn = l'.filter passesOn

theorem stored_eq_of_respelled {e e' : String × String} (h : Respelled e e') :
    stored e = stored e' := by
  obtain ⟨hname, htext⟩ := h
  rw [stored, stored, htext, beq_iff_eq.1 hname]

theorem map_stored_of_respelled (h : List.Forall₂ Respelled l l') :
    l.map stored = l'.map stored := by
  induction h with
  | nil => rfl
  | cons he _ ih => rw [List.map_cons, List.map_cons, ih, stored_eq_of_respelled he]

namespace Rearranged

theorem perm_stored (h : Rearranged l l') : (l.map stored).Perm (l'.map stored) := by
  obtain ⟨m, hcase, hperm, -⟩ := h
  rw [map_stored_of_respelled hcase]
  exact hperm.map stored

theorem nodup_right (h : Rearranged l l') (hl : ((l.map Prod.fst).map Text.lower).Nodup) :
    ((l'.map Prod.fst).map Text.lower).Nodup := by
  rw [← names_stored] at hl ⊢
  exact (h.perm_stored.map Prod.fst).nodup_iff.1 hl

end Rearranged

/-- Only the options that are passed on are written behind the condition under their own names. -/
theorem passed_stored (l : List (String × String)) :
    "".intercalate ((l.map stored).map fun (name, value) => passed name value) =
      "".intercalate (((l.filter passesOn).map stored).map fun (name, value) =>
        passed name value) := by
  apply String.toList_injective
  simp only [String.toList_intercalate, String.toList_empty, Text.nil_intercalate]
  induction l with
  | nil => rfl
  | cons e l ih =>
    cases he : passesOn e with
    | true =>
      rw [List.filter_cons_of_pos he]
      simp only [List.map_cons, List.flatten_cons, ih]
    | false =>
      have hplaced : placed.contains (stored e).1 = true := (Bool.not_eq_false' _).mp he
      have hnone : passed (stored e).1 (stored e).2 = "" := by
        simp only [passed, hplaced, Bool.true_or, if_true]
      rw [List.filter_cons_of_neg (by simp [he]), ← ih]
      simp [hnone]

theorem Rearranged.agree (h : Rearranged l l') (hl : ((l.map Prod.fst).map Text.lower).Nodup)
    (source source' : Source) : (source.options l).Agree (source'.options l') := by
  obtain ⟨e, he, hlist⟩ := options_eq hl source
  obtain ⟨e', he', hlist'⟩ := options_eq (h.nodup_right hl) source'
  have hperm : e.toList.Perm e'.toList := hlist ▸ hlist' ▸ h.perm_stored
  rw [he, he']
  refine agree_entries (fun name => ?_) ?_
  · rw [get?, get?, Fields.get?_eq_of_perm hperm]
  · obtain ⟨m, hcase, -, hpassed⟩ := h
    rw [hlist, hlist', map_stored_of_respelled hcase, passed_stored, passed_stored l', hpassed]

/-- Options with distinct names make the same statements, or the same refusals, in whatever case and
order the names are given and whatever the options are made from, as long as those that are passed
on keep their order. -/
theorem arrangement_has_no_effect (hl : ((l.map Prod.fst).map Text.lower).Nodup)
    (h : Rearranged l l') (source source' : Source) :
    let o := source.options l
    let o' := source'.options l'
    ∀ (t : Table) (c : Condition), t.find c o = t.find c o' ∧ t.count c o = t.count c o' ∧
      t.delete c o = t.delete c o' ∧ (∀ r, t.update c r o = t.update c r o') ∧
      ∀ column step, t.increment c column step o = t.increment c column step o' := by
  intro o o' t c
  have hagree : o.Agree o' := h.agree hl source source'
  exact ⟨hagree.find_eq t c, hagree.count_eq t c, hagree.delete_eq t c, hagree.update_eq t c,
    hagree.increment_eq t c⟩

/-- Both names of the order, the first with a blank text, and two options that are passed on. -/
theorem arrangement_has_no_effect_passed :
    let l := [("LIMIT", "5"), ("having", "a > 1"), ("Order", " "), ("order_by", "a desc"),
      ("Procedure", "analyse()"), ("SELECT", "a")]
    let l' := [("select", "a"), ("ORDER_BY", "a desc"), ("HAVING", "a > 1"), ("order", " "),
      ("procedure", "analyse()"), ("Limit", "5")]
    let t : Table := ⟨"posts", "id", {}⟩
    ((l.map Prod.fst).map Text.lower).Nodup ∧ Rearranged l l' ∧
      t.find (.byId 4) (Source.options l .calls) =
        t.find (.byId 4) (Source.options l' .fields) := by
  intro l l' t
  have hl : ((l.map Prod.fst).map Text.lower).Nodup := by decide +kernel
  have h : Rearranged l l' := by
    refine ⟨[("Limit", "5"), ("HAVING", "a > 1"), ("order", " "), ("ORDER_BY", "a desc"),
      ("procedure", "analyse()"), ("select", "a")], ?_, by decide, by decide +kernel⟩
    simp only [l, List.forall₂_cons, List.forall₂_nil_left_iff, Respelled,
      Text.sameIgnoringCase_iff]
    decide
  obtain ⟨hfind, -⟩ := arrangement_has_no_effect hl h .calls .fields t (.byId 4)
  exact ⟨hl, h, hfind⟩

end Options

end OneTable
