import OneTable.Proofs.Registry.ConnectionId
import OneTable.Proofs.Url.Server

/-!
# For which URL a pool is opened

A pool is opened for the URL of the settings, and only if that names a server (`opening_ok`). The
credentials in it are those of the settings unless the host brings some with it. So settings of the
same connection have the same URL but for the port and the database (`toUrl_of_sameConnection`).
-/

namespace OneTable

section Except

variable {ε α β : Type}

theorem exists_of_bind_eq_ok {x : Except ε α} {f : α → Except ε β} {b : β}
    (h : x >>= f = .ok b) : ∃ a, x = .ok a ∧ f a = .ok b := by
  cases x with
  | error e => cases h
  | ok a => exact ⟨a, rfl, h⟩

end Except

namespace Settings

variable {s s' : Settings} {p : Pool}

/-! ### What opens a pool -/

/-- A setting that cannot amend a URL is missing if amending goes through. -/
theorem eq_of_amended {α : Type} {change : Url → α → Option Url} {setting : Option α} {u u' : Url}
    (hno : ∀ x, change u x = none) (h : amended change setting u = .ok u') : u' = u := by
  cases setting with
  | none => cases h; rfl
  | some x => rw [amended, hno x] at h; cases h

theorem openFor_eq_ok {url : String} (h : Pool.openFor url = .ok p) :
    p.url = url ∧ Pool.fault? url = none := by
  unfold Pool.openFor at h
  split at h
  · rename_i hfault
    cases h
    exact ⟨rfl, hfault⟩
  · cases h

theorem toUrl_of_opening (h : Registry.opening s = .ok p) :
    s.toUrl = .ok p.url ∧ Pool.fault? p.url = none := by
  obtain ⟨url, hurl, hopen⟩ := exists_of_bind_eq_ok h
  obtain ⟨hp, hfault⟩ := openFor_eq_ok (mapError_eq_ok_iff.1 hopen)
  rw [hp]
  exact ⟨mapError_eq_ok_iff.1 hurl, hfault⟩

/-- The steps of a URL that is made: it is read from the host, amended, and written. -/
theorem toUrl_eq_ok {url : String} (h : s.toUrl = .ok url) :
    ∃ host u u₁ u₂ u₃, s.host = some host ∧ Url.parse (scheme ++ "://" ++ host) = .ok u ∧
      amended Url.withUsername? s.username u = .ok u₁ ∧
      amended Url.withPassword? s.password u₁ = .ok u₂ ∧
      amended Url.withPort? s.port u₂ = .ok u₃ ∧
      url = (match s.database with | some database => u₃.withPath database | none => u₃).text := by
  unfold toUrl at h
  split at h
  · cases h
  · rename_i host hhost
    obtain ⟨u, hparse, h⟩ := exists_of_bind_eq_ok h
    obtain ⟨u₁, h₁, h⟩ := exists_of_bind_eq_ok h
    obtain ⟨u₂, h₂, h⟩ := exists_of_bind_eq_ok h
    obtain ⟨u₃, h₃, h⟩ := exists_of_bind_eq_ok h
    cases h
    exact ⟨host, u, u₁, u₂, u₃, hhost, mapError_eq_ok_iff.1 hparse, h₁, h₂, h₃, rfl⟩

/-- A pool is opened for the URL of the settings. This names a server, without credentials but those
of the settings if the host holds no at sign. -/
theorem opening_ok (h : Registry.opening s = .ok p) :
    ∃ host u a, s.host = some host ∧ Url.parse (scheme ++ "://" ++ host) = .ok u ∧
      u.server? = some a ∧ ('@' ∉ host.toList → a.username = "" ∧ a.password = none) := by
  obtain ⟨hurl, hfault⟩ := toUrl_of_opening h
  obtain ⟨host, u, u₁, u₂, u₃, hhost, hparse, h₁, h₂, h₃, htext⟩ := toUrl_eq_ok hurl
  have hscheme : scheme ++ "://" = "mysql://" := by decide
  obtain ⟨a, ha, hempty, hat⟩ := Url.onServer_of_parse (hscheme ▸ hparse)
  refine ⟨host, u, a, hhost, hparse, Url.server?_eq_some_iff.2 ⟨ha.authority, fun hnone => ?_⟩, hat⟩
  -- without a server nothing can be amended, and no pool is opened for the bare URL
  have hserver : u.server? = none := by
    rw [Url.server?, ha.authority, Option.filter, hempty hnone]
    rfl
  obtain rfl : u₁ = u := eq_of_amended (fun _ => by rw [Url.withUsername?, hserver]; rfl) h₁
  obtain rfl : u₂ = u₁ := eq_of_amended (fun _ => by rw [Url.withPassword?, hserver]; rfl) h₂
  obtain rfl : u₃ = u₂ := eq_of_amended (fun _ => by rw [Url.withPort?, hserver]; rfl) h₃
  rw [hempty hnone] at ha
  rw [htext] at hfault
  cases hd : s.database with
  | none => rw [hd, ha.fault?_text] at hfault; cases hfault
  | some database => rw [hd, (ha.withPath database).fault?_text] at hfault; cases hfault

/-! ### Settings of the same connection -/

/-- A part that is left out amends a URL like an empty one, if an empty one changes nothing. -/
theorem amended_congr {change : Url → String → Option Url} {u : Url} (hempty : change u "" = some u)
    {part part' : Option String} (h : part.getD "" = part'.getD "") :
    amended change part u = amended change part' u := by
  have hgetD (part : Option String) :
      amended change part u = amended change (some (part.getD "")) u := by
    cases part with
    | none => rw [Option.getD_none, amended, amended, hempty]
    | some text => rfl
  rw [hgetD, h, ← hgetD]

theorem withUsername?_empty {u : Url} {a : Url.Authority} (ha : u.server? = some a)
    (h : a.username = "") : u.withUsername? "" = some u := by
  obtain ⟨hauthority, -⟩ := Url.server?_eq_some_iff.1 ha
  obtain ⟨scheme, authority, path, query, fragment⟩ := u
  obtain rfl : authority = some a := hauthority
  obtain ⟨username, password, host, port⟩ := a
  obtain rfl : username = "" := h
  rw [Url.withUsername?, ha]
  rfl

theorem withPassword?_empty {u : Url} {a : Url.Authority} (ha : u.server? = some a)
    (h : a.password = none) : u.withPassword? "" = some u := by
  obtain ⟨hauthority, -⟩ := Url.server?_eq_some_iff.1 ha
  obtain ⟨scheme, authority, path, query, fragment⟩ := u
  obtain rfl : authority = some a := hauthority
  obtain ⟨username, password, host, port⟩ := a
  obtain rfl : password = none := h
  rw [Url.withPassword?, ha]
  rfl

theorem server?_of_withUsername? {u u' : Url} {a : Url.Authority} {part : Option String}
    (ha : u.server? = some a) (h : a.password = none)
    (hok : amended Url.withUsername? part u = .ok u') :
    ∃ a', u'.server? = some a' ∧ a'.password = none := by
  cases part with
  | none => cases hok; exact ⟨a, ha, h⟩
  | some name =>
    rw [amended, Url.withUsername?, ha] at hok
    cases hok
    exact ⟨{ a with username := Url.userEncoded name },
      Url.server?_eq_some_iff.2 ⟨rfl, (Url.server?_eq_some_iff.1 ha).2⟩, h⟩

theorem toUrl_of_sameConnection {host : String} {u : Url} {a : Url.Authority}
    (h : s.SameConnection s') (hhost : s.host = some host)
    (hparse : Url.parse (scheme ++ "://" ++ host) = .ok u) (ha : u.server? = some a)
    (husername : a.username = "") (hpassword : a.password = none) :
    ({ s' with port := s.port, database := s.database } : Settings).toUrl = s.toUrl := by
  have hhost' : s'.host = some host := by
    have heq := h.host
    rw [hhost] at heq
    cases hs : s'.host with
    | some host' => rw [hs] at heq; exact congrArg some heq.symm
    | none =>
      -- no host counts as an empty one, and that names no server
      rw [hs] at heq
      obtain rfl : host = "" := heq
      have hempty : Url.parse (scheme ++ "://" ++ "") =
          .ok ⟨scheme, some { host := "" }, "", none, none⟩ := by
        decide +kernel
      rw [hempty] at hparse
      cases hparse
      cases ha
  have hname : amended Url.withUsername? s'.username u = amended Url.withUsername? s.username u :=
    amended_congr (withUsername?_empty ha husername) h.username.symm
  simp only [toUrl, hhost, hhost', hparse, hname, Except.mapError, bind, Except.bind]
  cases hu : amended Url.withUsername? s.username u with
  | error f => rfl
  | ok u' =>
    obtain ⟨a', ha', hpassword'⟩ := server?_of_withUsername? ha hpassword hu
    have hword : amended Url.withPassword? s'.password u' =
        amended Url.withPassword? s.password u' :=
      amended_congr (withPassword?_empty ha' hpassword') h.password.symm
    simp only [hword]

end Settings

end OneTable
