import OneTable.Proofs.Row.Integers
import OneTable.Proofs.Session.Plan

/-!
# Counts as numbers and as texts

Two clients of the same server may differ in how they report the count of rows: the one as an
integer, the other as its text with blanks around it. A count over the one client leads to the same
work as over the other and to the same number, or over both the count cannot be read
(`Session.count_shown_alike`).
-/

namespace OneTable

variable {σ : Type}

/-- The answers are the same, or in their first rows the second shows a count that the first holds
as a number. -/
inductive Answer.CountsAlike : Except Error Answer → Except Error Answer → Prop
  | same (a : Except Error Answer) : CountsAlike a a
  | shown {row row' : Row} {rows rows' : List Row} {v v' : Value} (hv : row.first? = some v)
    (hv' : row'.first? = some v') (h : v.ShownBy v') (hrows : rows.length = rows'.length) :
    CountsAlike (.ok (.rows (row :: rows))) (.ok (.rows (row' :: rows')))

/-- Clients of one server that answer alike but for how they report a count. -/
structure Client.CountsAlike (client client' : Client σ) : Prop where
  describe : client.describe = client'.describe
  answer : ∀ sql server,
    Answer.CountsAlike (client.execute sql server).1 (client'.execute sql server).1
  server : ∀ sql server, (client.execute sql server).2 = (client'.execute sql server).2

/-- The results are the same, or both tell that the count cannot be read. -/
def SameCount (r r' : Except Error UInt64) : Prop :=
  r = r' ∨ ∃ f f', r = .error (Row.failed Session.countColumn f) ∧
    r' = .error (Row.failed Session.countColumn f')

namespace Session

/-- The count that an answer holds. -/
def countIn (a : Answer) : Except Error UInt64 := countOf (a.toRows.head?.bind Row.first?)

theorem countOf_shown {v v' : Value} (h : v.ShownBy v') :
    SameCount (countOf (some v)) (countOf (some v')) := by
  have hiff := h.asUInt64_iff
  unfold countOf
  dsimp only
  cases hv : v.asUInt64 with
  | ok n =>
    rw [(hiff n).1 hv]
    exact .inl rfl
  | error f =>
    cases hv' : v'.asUInt64 with
    | ok n =>
      rw [(hiff n).2 hv'] at hv
      cases hv
    | error f' => exact .inr ⟨f, f', rfl, rfl⟩

theorem outcome_of_alike {a a' : Except Error Answer} (h : Answer.CountsAlike a a') :
    Outcome.ofAnswer a = Outcome.ofAnswer a' := by
  cases h with
  | same => rfl
  | shown _ _ _ hrows => simp [Outcome.ofAnswer, hrows]

theorem countIn_of_alike {a a' : Except Error Answer} (h : Answer.CountsAlike a a') :
    SameCount (a.bind countIn) (a'.bind countIn) := by
  cases h with
  | same => exact .inl rfl
  | @shown row row' rows rows' v v' hv hv' h _ =>
    have hcount : ∀ {row : Row} {rows : List Row} {v : Value}, row.first? = some v →
        countIn (.rows (row :: rows)) = countOf (some v) := fun hv => by
      rw [countIn, ← hv]
      rfl
    show SameCount (countIn (.rows (row :: rows))) (countIn (.rows (row' :: rows')))
    rw [hcount hv, hcount hv']
    exact countOf_shown h

section

variable {client client' : Client σ}

theorem prepared_of_describe (h : client.describe = client'.describe)
    (make : Table → Except Rejection Statement) (w : Work σ) :
    w.prepared client make = w.prepared client' make := by
  have hload : ∀ (c : SchemaCache) table server,
      c.load client table server = c.load client' table server := fun c table server => by
    simp only [SchemaCache.load, SchemaCache.introspect, h]
  simp only [Work.prepared, Work.columns, Work.learned, hload]

theorem sent_of_alike (h : client.CountsAlike client') (sql : String) (w : Work σ) :
    w.sent client sql = w.sent client' sql := by
  simp only [Work.sent, outcome_of_alike (h.answer sql w.server), h.server]

theorem count_run (client : Client σ) (c : Condition) (o : Options) (w : Work σ) :
    (count client c o).run w =
      let p := w.asked client fun t => .ok (t.count c o)
      (p.1.bind countIn, p.2) :=
  asks_count w

theorem count_of_alike (h : client.CountsAlike client') (c : Condition) (o : Options) (w : Work σ) :
    ((count client c o).run w).2 = ((count client' c o).run w).2 ∧
      SameCount ((count client c o).run w).1 ((count client' c o).run w).1 := by
  rw [count_run, count_run, Work.asked, Work.asked, prepared_of_describe h.describe]
  rcases w.prepared client' fun t => .ok (t.count c o) with ⟨e | s, w'⟩
  · exact ⟨rfl, .inl rfl⟩
  · exact ⟨sent_of_alike h s.sql w', countIn_of_alike (h.answer s.sql w'.server)⟩

end

/-- An integer and a text that shows it are read alike as integers, with a sign or without one. So a
count leads to the same work whichever of the two the client reports, and to the same number, or in
both cases to an error that tells that the count cannot be read. -/
theorem count_shown_alike :
    (∀ {v v' : Value}, v.ShownBy v' → (∀ i, v.asInt64 = .ok i ↔ v'.asInt64 = .ok i) ∧
      ∀ u, v.asUInt64 = .ok u ↔ v'.asUInt64 = .ok u) ∧
    ∀ {σ : Type} {client client' : Client σ}, client.CountsAlike client' →
      ∀ (c : Condition) (o : Options) (w : Work σ),
        ((count client c o).run w).2 = ((count client' c o).run w).2 ∧
          SameCount ((count client c o).run w).1 ((count client' c o).run w).1 :=
  ⟨fun h => ⟨h.asInt64_iff, h.asUInt64_iff⟩, count_of_alike⟩

/-- The largest count and a number below zero, with different blanks around their texts. -/
theorem count_shown_alike_extremes :
    let client (v : Value) : Client Nat :=
      ⟨fun _ n => (.ok (.rows [⟨[("COUNT(*)", v)], by simp⟩, {}]), n + 1), fun _ n => (.ok [], n)⟩
    let counted (v : Value) := (count (client v) .all .empty).run ⟨{ table := some "posts" }, 0, []⟩
    (counted (.uint 18446744073709551615)).1 = .ok 18446744073709551615 ∧
      (counted (.text ("\t" ++ "18446744073709551615" ++ " \n"))).1 = .ok 18446744073709551615 ∧
      (Value.text ("" ++ "-3" ++ " ")).asInt64 = .ok (-3) ∧
      ∀ u, (Value.text ("" ++ "-3" ++ " ")).asUInt64 ≠ .ok u := by
  intro client counted
  obtain ⟨hdecode, hcount⟩ := count_shown_alike
  have hlargest : (Value.uint 18446744073709551615).ShownBy
      (.text ("\t" ++ "18446744073709551615" ++ " \n")) :=
    .padded rfl (by decide +kernel) (by decide) (by decide)
  have hnegative : (Value.int (-3)).ShownBy (.text ("" ++ "-3" ++ " ")) :=
    .padded rfl (by decide +kernel) (by decide) (by decide)
  have halike : ∀ {v v' : Value}, v.ShownBy v' → (client v).CountsAlike (client v') := fun h =>
    ⟨rfl, fun _ _ => .shown rfl rfl h rfl, fun _ _ => rfl⟩
  have hnumber : (counted (.uint 18446744073709551615)).1 = .ok 18446744073709551615 := rfl
  refine ⟨hnumber, ?_, ((hdecode hnegative).1 _).1 rfl, fun u hu => ?_⟩
  · obtain ⟨-, hsame | ⟨f, -, hf, -⟩⟩ := hcount (halike hlargest) .all .empty
      ⟨{ table := some "posts" }, 0, []⟩
    · exact hsame.symm.trans hnumber
    · exact nomatch hnumber.symm.trans hf
  · exact nomatch ((hdecode hnegative).2 u).2 hu

end Session

end OneTable
