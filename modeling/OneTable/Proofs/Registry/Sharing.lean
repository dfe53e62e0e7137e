import OneTable.Proofs.Registry.Opening

/-!
# Which pool a registry hands out

A registry is asked for pools and gives all of them up from time to time. What it hands out for some
settings was opened for the first settings with the same connection id for which a pool could be
opened since then (`Keeps.pool`). The id leaves out the port and the database, so these are the
first settings' own; host, user and password are those asked for wherever the separators in the ids
are unambiguous (`pool_of_same_connection`).
-/

namespace OneTable

namespace Settings

/-- The pool that the settings open, if the id is theirs and they open one. -/
def opened? (id : String) (s : Settings) : Option Pool :=
  if s.connectionId = id then (Registry.opening s).toOption else none

variable {s : Settings} {p : Pool}

theorem opened?_eq_some_iff {id : String} :
    s.opened? id = some p ↔ s.connectionId = id ∧ Registry.opening s = .ok p := by
  rw [opened?]
  split
  · rename_i h
    cases Registry.opening s <;> simp [Except.toOption, h]
  · rename_i h
    simp [h]

end Settings

namespace Registry

/-- What a registry can be asked for. -/
inductive Call
  | pool (s : Settings)
  | disconnectAll

def Call.apply (r : Registry) : Call → Registry
  | .pool s => (r.pool s).registry
  | .disconnectAll => r.disconnectAll

/-- A new registry after some calls. -/
def after (cs : List Call) : Registry := cs.foldl Call.apply {}

/-- Adds the settings of a call to those that pools were asked for, or starts anew. -/
def Call.note (asked : List Settings) : Call → List Settings
  | .pool s => asked ++ [s]
  | .disconnectAll => []

/-- The settings that pools were asked for since all pools were given up, in order. -/
def asked (cs : List Call) : List Settings := cs.foldl Call.note []

/-- Under every id the registry keeps the first pool that could be opened for it. -/
def Keeps (r : Registry) (l : List Settings) : Prop :=
  ∀ id, r.pools.get? id = l.findSome? (Settings.opened? id)

variable {r : Registry} {l : List Settings} {p : Pool}

/-- The pool that is handed out is the first that could be opened, and it is kept. -/
theorem Keeps.pool (h : r.Keeps l) (s : Settings) :
    (r.pool s).registry.Keeps (l ++ [s]) ∧ ∀ p, (r.pool s).result = .ok p →
      (l ++ [s]).findSome? (Settings.opened? s.connectionId) = some p := by
  have hlast (id : String) : (l ++ [s]).findSome? (Settings.opened? id) =
      (l.findSome? (Settings.opened? id)).or (s.opened? id) := by
    rw [List.findSome?_append, List.findSome?_singleton]
  have hid := h s.connectionId
  unfold Registry.pool
  cases hget : r.pools.get? s.connectionId with
  | some q =>
    -- a pool under the same id comes first, so the new settings add nothing
    rw [hget] at hid
    refine ⟨fun id => ?_, fun p hq => ?_⟩
    · rw [hlast, ← h id]
      by_cases hs : s.connectionId = id
      · rw [← hs, hget]
        rfl
      · rw [Settings.opened?, if_neg hs, Option.or_none]
    · rw [hlast, ← hid]
      cases hq
      rfl
  | none =>
    -- no settings before could open one, so the new ones are the first if they can
    rw [hget] at hid
    cases ho : opening s with
    | error e =>
      refine ⟨fun id => ?_, fun p hq => nomatch hq⟩
      have hnone : s.opened? id = none := by
        rw [Settings.opened?, ho]
        split <;> rfl
      rw [hlast, hnone, Option.or_none]
      exact h id
    | ok q =>
      refine ⟨fun id => ?_, fun p hq => ?_⟩
      · rw [hlast, Fields.get?_insert, Settings.opened?, ho, h id]
        split
        · rename_i hs
          rw [← hs, ← hid]
          rfl
        · rw [Option.or_none]
      · cases hq
        rw [hlast, ← hid]
        exact Settings.opened?_eq_some_iff.2 ⟨rfl, ho⟩

theorem Keeps.foldl (h : r.Keeps l) (cs : List Call) :
    (cs.foldl Call.apply r).Keeps (cs.foldl Call.note l) := by
  induction cs generalizing r l with
  | nil => exact h
  | cons c cs ih =>
    cases c with
    | pool s => exact ih (h.pool s).1
    | disconnectAll => exact ih fun _ => rfl

theorem keeps_after (cs : List Call) : (after cs).Keeps (asked cs) :=
  Keeps.foldl (fun _ => rfl) cs

theorem pool_ok_of_opening (r : Registry) {s : Settings} (h : opening s = .ok p) :
    ∃ q, (r.pool s).result = .ok q := by
  unfold Registry.pool
  cases r.pools.get? s.connectionId with
  | some q => exact ⟨q, rfl⟩
  | none => rw [h]; exact ⟨p, rfl⟩

/-- The pool that is handed out was opened for the URL of the first settings, of those with the same
id since all pools were given up, that could open one. If the separators in both ids are
unambiguous, these settings name the same connection, and the pool is one for the URL of the
settings that it was asked for but for the port and the database. -/
theorem pool_of_same_connection (cs : List Call) (s : Settings) :
    (∀ q, opening s = .ok q → ∃ p, ((after cs).pool s).result = .ok p) ∧
    ∀ p, ((after cs).pool s).result = .ok p → ∃ before first behind,
      asked cs ++ [s] = before ++ first :: behind ∧
      (∀ s' ∈ before, s'.connectionId = s.connectionId → ∀ q, opening s' ≠ .ok q) ∧
      first.connectionId = s.connectionId ∧ first.toUrl = .ok p.url ∧
      (first.Delimited → s.Delimited → first.SameConnection s ∧
        ({ s with port := first.port, database := first.database } : Settings).toUrl =
          .ok p.url) := by
  refine ⟨fun q => pool_ok_of_opening _, fun p hp => ?_⟩
  obtain ⟨before, first, behind, hl, hfirst, hbefore⟩ :=
    List.findSome?_eq_some_iff.1 (((keeps_after cs).pool s).2 p hp)
  obtain ⟨hid, hopening⟩ := Settings.opened?_eq_some_iff.1 hfirst
  have hurl := (Settings.toUrl_of_opening hopening).1
  refine ⟨before, first, behind, hl, fun s' hs' heq q hq => ?_, hid, hurl, fun hd hd' => ?_⟩
  · have hsome := Settings.opened?_eq_some_iff.2 ⟨heq, hq⟩
    rw [hbefore s' hs'] at hsome
    cases hsome
  · have hsame := Settings.sameConnection_of_connectionId_eq hd hd' hid
    obtain ⟨host, u, a, hhost, hparse, ha, hat⟩ := Settings.opening_ok hopening
    have hfree : '@' ∉ host.toList := by
      have h := hd.host
      rwa [hhost] at h
    obtain ⟨husername, hpassword⟩ := hat hfree
    refine ⟨hsame, ?_⟩
    rw [Settings.toUrl_of_sameConnection hsame hhost hparse ha husername hpassword, hurl]

/-- A pool for one database, handed out for another port and another database. Before it stand
settings that open no pool, and before these a pool that was given up. -/
theorem pool_of_same_connection_blog :
    let s : Settings := { host := some "db", username := some "u", password := some "p:@" }
    let t : Settings := { s with port := some 3307, database := some "shop" }
    let cs : List Call := [.pool { s with port := some 1 }, .disconnectAll,
      .pool { host := some "" }, .pool { s with database := some "blog" }]
    ∃ p, ((after cs).pool t).result = .ok p ∧ ∃ first ∈ asked cs ++ [t], first.SameConnection t ∧
      ({ t with port := first.port, database := first.database } : Settings).toUrl =
        .ok p.url := by
  intro s t cs
  have hdelimited : ∀ x ∈ asked cs ++ [t], x.Delimited := by decide +kernel
  obtain ⟨hok, hshared⟩ := pool_of_same_connection cs t
  obtain ⟨p, hp⟩ := hok ⟨"mysql://u:p%3A%40@db:3307/shop"⟩ (by decide +kernel)
  obtain ⟨before, first, behind, hl, -, -, -, hsame⟩ := hshared p hp
  have hfirst : first ∈ asked cs ++ [t] := by
    rw [hl]
    exact List.mem_append_right _ (.head _)
  obtain ⟨hsame, hurl⟩ := hsame (hdelimited first hfirst) (hdelimited t (by simp))
  exact ⟨p, hp, first, hfirst, hsame, hurl⟩

/-- The second settings name another database than the pool that they get, or another user whose
colon stands on the other side of the separator. -/
theorem pool_of_other_url :
    (∃ p, ((after [.pool { host := some "db", database := some "blog" }]).pool
          { host := some "db", database := some "shop" }).result = .ok p ∧
        ({ host := some "db", database := some "shop" } : Settings).toUrl ≠ .ok p.url) ∧
      ∃ p, ((after [.pool { host := some "db", username := some "a", password := some "b:c" }]).pool
          { host := some "db", username := some "a:b", password := some "c" }).result = .ok p ∧
        ({ host := some "db", username := some "a:b", password := some "c" } : Settings).toUrl ≠
          .ok p.url := by
  refine ⟨⟨⟨"mysql://db/blog"⟩, ?_, ?_⟩, ⟨"mysql://a:b%3Ac@db"⟩, ?_, ?_⟩
  · decide +kernel
  · decide +kernel
  · decide +kernel
  · decide +kernel

end Registry

end OneTable
