import Mathlib.Data.List.Forall2
import OneTable.Proofs.Options.Cut
import OneTable.Proofs.Session.Introspection

/-!
# Texts behind a `;` have no effect

Options that are alike up to the first `;` of each text make the same statements, or the same
refusals. A run of a session with such options in place of others is the same run: the client is
asked the same, every operation replies the same, and the session ends up the same
(`cut_text_has_no_effect`).
-/

namespace OneTable

/-! ### Statements -/

namespace Options.Alike

variable {o o' : Options}

theorem find_eq (h : o.Alike o') (t : Table) (c : Condition) : t.find c o = t.find c o' :=
  h.agree.find_eq t c

theorem count_eq (h : o.Alike o') (t : Table) (c : Condition) : t.count c o = t.count c o' :=
  h.agree.count_eq t c

theorem delete_eq (h : o.Alike o') (t : Table) (c : Condition) : t.delete c o = t.delete c o' :=
  h.agree.delete_eq t c

theorem update_eq (h : o.Alike o') (t : Table) (c : Condition) (r : Record) :
    t.update c r o = t.update c r o' :=
  h.agree.update_eq t c r

theorem increment_eq (h : o.Alike o') (t : Table) (c : Condition) (column : String)
    (step : Value) : t.increment c column step o = t.increment c column step o' :=
  h.agree.increment_eq t c column step

end Options.Alike

/-! ### Requests -/

namespace Request

/-- The request with the given options in place of its own, if it has any. -/
def withOptions (o : Options) : Request → Request
  | .find c _ => .find c o
  | .findOne c _ => .findOne c o
  | .findAll c _ => .findAll c o
  | .findAllIndexed c _ index => .findAllIndexed c o index
  | .count c _ => .count c o
  | .countGrouped c _ => .countGrouped c o
  | .updateFirst c r _ => .updateFirst c r o
  | .updateAll c r _ => .updateAll c r o
  | .increment c column step _ => .increment c column step o
  | .deleteFirst c _ => .deleteFirst c o
  | .deleteAll c _ => .deleteAll c o
  | r => r

/-- The same request, but for texts of its options behind a `;`. -/
inductive Alike : Request → Request → Prop
  | intro (r : Request) {o o' : Options} (h : o.Alike o') :
    Alike (r.withOptions o) (r.withOptions o')

theorem Alike.plan_eq {r r' : Request} (h : r.Alike r') (s : Session) : s.plan r = s.plan r' := by
  obtain ⟨r, h⟩ := h
  have hone := h.setDefault "limit" "1"
  cases r with
  | find c _ => simp only [withOptions, Session.plan, hone.find_eq]
  | findOne c _ => simp only [withOptions, Session.plan, hone.find_eq]
  | findAll c _ => simp only [withOptions, Session.plan, h.find_eq]
  | findAllIndexed c _ index => simp only [withOptions, Session.plan, h.find_eq]
  | count c _ => simp only [withOptions, Session.plan, h.count_eq]
  | countGrouped c _ =>
    have hgroup (group : String) := (h.setDefault "select" group).count_eq
    simp only [withOptions, Session.plan, h.get?_eq, hgroup]
  | updateFirst c r _ => simp only [withOptions, Session.plan, hone.update_eq]
  | updateAll c r _ => simp only [withOptions, Session.plan, h.update_eq]
  | increment c column step _ => simp only [withOptions, Session.plan, h.increment_eq]
  | deleteFirst c _ => simp only [withOptions, Session.plan, hone.delete_eq]
  | deleteAll c _ => simp only [withOptions, Session.plan, h.delete_eq]
  | _ => rfl

end Request

namespace Session

variable {σ : Type} {rs rs' : List Request}

theorem perform_of_alike {r r' : Request} (h : r.Alike r') (client : Client σ) (w : Work σ) :
    (perform client r).run w = (perform client r').run w ∧
      contacts client r w = contacts client r' w := by
  rw [perform_run, perform_run, contacts_eq, contacts_eq, h.plan_eq]
  exact ⟨rfl, rfl⟩

theorem performAll_of_alike (h : List.Forall₂ Request.Alike rs rs') (client : Client σ)
    (w : Work σ) :
    performAll client rs w = performAll client rs' w ∧
      allContacts client rs w = allContacts client rs' w := by
  induction h generalizing w with
  | nil => exact ⟨rfl, rfl⟩
  | @cons r r' rs rs' hr _ ih =>
    obtain ⟨hrun, hcontacts⟩ := perform_of_alike hr client w
    obtain ⟨hruns, hall⟩ := ih ((perform client r').run w).2
    rw [performAll_cons, performAll_cons, allContacts, allContacts, hrun, hcontacts, hruns, hall]
    exact ⟨rfl, rfl⟩

/-- Options that differ behind the first `;` of a text only make the same statements or refusals,
and requests that differ in such options only make the same contacts, replies and states, one by one
and in any run. -/
theorem cut_text_has_no_effect {o o' : Options} (h : o.Alike o') :
    (∀ (t : Table) (c : Condition), t.find c o = t.find c o' ∧ t.count c o = t.count c o' ∧
      t.delete c o = t.delete c o' ∧ (∀ r, t.update c r o = t.update c r o') ∧
      ∀ column step, t.increment c column step o = t.increment c column step o') ∧
    ∀ {σ : Type} (client : Client σ) (w : Work σ),
      (∀ r : Request,
        contacts client (r.withOptions o) w = contacts client (r.withOptions o') w ∧
          (perform client (r.withOptions o)).run w = (perform client (r.withOptions o')).run w) ∧
      ∀ rs rs', List.Forall₂ Request.Alike rs rs' →
        allContacts client rs w = allContacts client rs' w ∧
          performAll client rs w = performAll client rs' w := by
  constructor
  · exact fun t c => ⟨h.find_eq t c, h.count_eq t c, h.delete_eq t c, h.update_eq t c,
      h.increment_eq t c⟩
  · intro σ client w
    exact ⟨fun r => (perform_of_alike (.intro r h) client w).symm,
      fun rs rs' hrs => (performAll_of_alike hrs client w).symm⟩

/-- A group with a second statement behind its `;`, or with nothing there. -/
theorem cut_text_has_no_effect_group :
    let o : Options := .entries ⟨[("group", "a; drop table t"), ("having", "b;c")], by decide⟩
    let o' : Options := .entries ⟨[("group", "a;"), ("having", "b")], by decide⟩
    let client : Client Nat := .ofExecute fun _ n => (.ok (.rows []), n + 1)
    o.Alike o' ∧ Table.delete ⟨"t", "id", {}⟩ .all o = Table.delete ⟨"t", "id", {}⟩ .all o' ∧
      performAll client [.withTable "t", .countGrouped .all o, .find (.byId 1) o] ⟨{}, 0, []⟩ =
        performAll client [.withTable "t", .countGrouped .all o', .find (.byId 1) o']
          ⟨{}, 0, []⟩ := by
  intro o o' client
  have h : o.Alike o' := .entries (by decide)
  obtain ⟨hbuild, hrun⟩ := cut_text_has_no_effect h
  have hsame : Request.Alike (.withTable "t") (.withTable "t") := .intro (.withTable "t") h
  have hcount : Request.Alike (.countGrouped .all o) (.countGrouped .all o') :=
    .intro (.countGrouped .all o) h
  have hfind : Request.Alike (.find (.byId 1) o) (.find (.byId 1) o') :=
    .intro (.find (.byId 1) o) h
  exact ⟨h, (hbuild _ _).2.2.1,
    ((hrun client _).2 _ _ (.cons hsame (.cons hcount (.cons hfind .nil)))).2⟩

end Session

end OneTable
