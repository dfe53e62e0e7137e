import OneTable.Proofs.Url.WrittenForm
import OneTable.Registry

/-!
# URLs that name no server

A URL may have an authority without a host. Then the authority is empty: it has no credentials and
no port. Such a URL is read again as one that names no server (`fault?_of_no_server`), so no pool is
opened for it.
-/

namespace OneTable.Url

theorem server?_eq_some_iff {u : Url} {a : Authority} :
    u.server? = some a ↔ u.authority = some a ∧ a.host.toList ≠ [] := by
  rw [server?, Option.filter_eq_some_iff]
  simp

/-! ### What stands behind the slashes -/

/-- The end of a URL behind characters that are printed: without controls and spaces at its end, and
without tabs and line ends. -/
def cleanedEnd (cs : List Char) : List Char :=
  (cs.reverse.dropWhile fun c => decide (c.toNat ≤ 0x20)).reverse.filter fun c => !isPassedOver c

theorem mem_of_mem_cleanedEnd {c : Char} {cs : List Char} (h : c ∈ cleanedEnd cs) : c ∈ cs := by
  obtain ⟨hc, -⟩ := List.mem_filter.1 h
  exact List.mem_reverse.1 ((List.dropWhile_suffix _).subset (List.mem_reverse.1 hc))

theorem parse_server (s : String) :
    parse ("mysql://" ++ s) = ofRest "mysql" ('/' :: '/' :: cleanedEnd s.toList) := by
  have hkept : ("mysql://".toList.filter fun c => !isPassedOver c) = "mysql://".toList := by decide
  -- the start is printed on both sides, so cleaning only takes from the end and from within
  have hcleaned : cleaned ("mysql://" ++ s) = "mysql://".toList ++ cleanedEnd s.toList := by
    have hstart : ("mysql://".toList ++ s.toList).dropWhile (fun c => decide (c.toNat ≤ 0x20)) =
        "mysql://".toList ++ s.toList := rfl
    have hend : "mysql://".toList.reverse.dropWhile (fun c => decide (c.toNat ≤ 0x20)) =
        "mysql://".toList.reverse := rfl
    have hdrop : (s.toList.reverse ++ "mysql://".toList.reverse).dropWhile
        (fun c => decide (c.toNat ≤ 0x20)) =
          s.toList.reverse.dropWhile (fun c => decide (c.toNat ≤ 0x20)) ++
            "mysql://".toList.reverse := by
      rw [List.dropWhile_append, hend]
      split
      · rename_i h
        rw [List.isEmpty_iff.1 h, List.nil_append]
      · rfl
    simp only [cleaned, String.toList_append]
    rw [hstart, List.reverse_append, hdrop, List.reverse_append, List.reverse_reverse,
      List.filter_append, hkept]
    rfl
  rw [parse, hcleaned]
  rfl

/-- The characters that may follow an authority. -/
def endsServer (c : Char) : Bool := c == '/' || c == '?' || c == '#'

theorem head?_cleanedEnd {cs : List Char} (h : ∀ c ∈ cs.head?, endsServer c = true) :
    ∀ c ∈ (cleanedEnd cs).head?, endsServer c = true := by
  have hprefix : (cs.reverse.dropWhile fun c => decide (c.toNat ≤ 0x20)).reverse <+: cs :=
    List.reverse_suffix.1 (by simpa using List.dropWhile_suffix _)
  unfold cleanedEnd
  cases hkept : (cs.reverse.dropWhile fun c => decide (c.toNat ≤ 0x20)).reverse with
  | nil => exact fun _ hc => nomatch hc
  | cons d ds =>
    rw [hkept] at hprefix
    obtain ⟨rest, rfl⟩ := hprefix
    have hd : endsServer d = true := h d rfl
    have hover : isPassedOver d = false := by
      simp only [endsServer, Bool.or_eq_true, beq_iff_eq] at hd
      rcases hd with (rfl | rfl) | rfl <;> decide
    rw [List.filter_cons_of_pos (by simp [hover])]
    rintro c ⟨⟩
    exact hd

/-! ### Authorities -/

theorem userinfo_of_no_at {cs : List Char} (h : '@' ∉ cs) : userinfo cs = ("", none, cs) := by
  have hsplit : Text.splitLast? (· == '@') cs = none :=
    Text.splitLast?_eq_none_iff.2 fun c hc => beq_false_of_ne (ne_of_mem_of_not_mem hc h)
  rw [userinfo, hsplit]

theorem Authority.eq_of_userText {a : Authority} (h : a.userText.toList = []) :
    a.username = "" ∧ a.password = none := by
  unfold userText at h
  split at h
  · simp at h
  · rename_i hp
    split at h
    · rename_i hu
      exact ⟨String.toList_injective (List.isEmpty_iff.1 hu), hp⟩
    · simp at h

/-- An authority without a host is empty, and one without an at sign has no credentials. -/
theorem readAuthority_ok {cs behind : List Char} {a : Authority}
    (h : readAuthority cs = .ok (a, behind)) :
    (a.host.toList = [] → a = { host := "" }) ∧
      ('@' ∉ cs → a.username = "" ∧ a.password = none) := by
  have huser : '@' ∉ cs →
      (userinfo (cs.takeWhile fun c => c != '/' && c != '?' && c != '#')).1 = "" ∧
        (userinfo (cs.takeWhile fun c => c != '/' && c != '?' && c != '#')).2.1 = none := by
    intro hat
    rw [userinfo_of_no_at fun hc => hat ((List.takeWhile_prefix _).subset hc)]
    exact ⟨rfl, rfl⟩
  simp only [readAuthority, bind, Except.bind, pure, Except.pure, throw, throwThe,
    MonadExceptOf.throw] at h
  generalize userinfo (cs.takeWhile fun c => c != '/' && c != '?' && c != '#') = info at h huser
  obtain ⟨username, password, host⟩ := info
  split at h
  · cases h
  · split at h
    · cases h
    · rename_i name _
      dsimp only at h
      generalize List.drop _ (host ++ _) = rest at h
      split at h
      · cases h
      · rename_i hcolon
        split at h
        · split at h
          · cases h
          · split at h
            · cases h
            · cases h
              refine ⟨fun hempty => ?_, huser⟩
              -- a colon behind an empty host has been refused
              have hname : name.toList = [] := hempty
              simp [hname] at hcolon
        · split at h
          · cases h
          · rename_i huserText
            cases h
            refine ⟨fun hempty => ?_, huser⟩
            have hname : name.toList = [] := hempty
            obtain ⟨rfl, rfl⟩ := Authority.eq_of_userText (by simpa [hname] using huserText)
            rw [String.toList_eq_nil_iff.1 hname]

/-! ### No server, no pool -/

theorem readAuthority_of_endsServer {cs : List Char} (h : ∀ c ∈ cs.head?, endsServer c = true) :
    readAuthority cs = .ok ({ host := "" }, cs) := by
  cases cs with
  | nil => rfl
  | cons c cs =>
    have hc : endsServer c = true := h c rfl
    simp only [endsServer, Bool.or_eq_true, beq_iff_eq] at hc
    rcases hc with (rfl | rfl) | rfl <;> rfl

/-- What follows `mysql://` begins behind a server, so there is none. -/
theorem fault?_of_no_server {tail : String} (h : ∀ c ∈ tail.toList.head?, endsServer c = true) :
    Pool.fault? ("mysql://" ++ tail) = some .incomplete := by
  have hread := readAuthority_of_endsServer (head?_cleanedEnd h)
  rw [Pool.fault?, parse_server, ofRest, hread]
  rfl

theorem startsPath_pathBehindHost (cs : List Char) : StartsPath (pathBehindHost cs) := by
  unfold pathBehindHost
  split
  · exact fun _ h => nomatch h
  · exact fun _ h => nomatch h
  · exact fun _ h => nomatch h
  · rintro c ⟨⟩; rfl
  · rintro c ⟨⟩; rfl

/-- The URL has an authority behind `mysql:`, and its path begins with a slash if there is one. -/
structure OnServer (u : Url) (a : Authority) : Prop where
  scheme : u.scheme = "mysql"
  authority : u.authority = some a
  path : StartsPath u.path.toList

theorem onServer_of_parse {s : String} {u : Url} (h : parse ("mysql://" ++ s) = .ok u) :
    ∃ a, u.OnServer a ∧ (a.host.toList = [] → a = { host := "" }) ∧
      ('@' ∉ s.toList → a.username = "" ∧ a.password = none) := by
  rw [parse_server, ofRest] at h
  cases hread : readAuthority (cleanedEnd s.toList) with
  | error f => rw [hread] at h; cases h
  | ok r =>
    obtain ⟨a, behind⟩ := r
    rw [hread] at h
    cases h
    obtain ⟨hempty, huser⟩ := readAuthority_ok hread
    refine ⟨a, ⟨rfl, rfl, ?_⟩, hempty, fun hat => huser fun hc => hat (mem_of_mem_cleanedEnd hc)⟩
    rw [String.toList_ofList]
    exact startsPath_pathBehindHost _

theorem OnServer.withPath {u : Url} {a : Authority} (h : u.OnServer a) (path : String) :
    (u.withPath path).OnServer a := by
  refine ⟨h.scheme, h.authority, ?_⟩
  rw [Url.withPath, String.toList_ofList]
  exact startsPath_pathBehindHost _

/-- No pool is opened for a URL that has an authority and names no server. -/
theorem OnServer.fault?_text {u : Url} (h : u.OnServer { host := "" }) :
    Pool.fault? u.text = some .incomplete := by
  have htext : u.text = "mysql://" ++ (u.path ++ marked "?" u.query ++ marked "#" u.fragment) := by
    apply String.toList_inj.1
    simp [Url.text, h.scheme, h.authority, Authority.text, Authority.userText, Authority.portText]
  rw [htext]
  refine fault?_of_no_server fun c hc => ?_
  rw [String.toList_append, String.toList_append] at hc
  cases hp : u.path.toList with
  | cons d ds =>
    have hd : d = '/' := h.path d (by rw [hp]; rfl)
    rw [hp] at hc
    cases hc
    rw [hd]
    rfl
  | nil =>
    rw [hp, List.nil_append] at hc
    cases hq : u.query with
    | some q =>
      rw [hq, marked, String.toList_append] at hc
      cases hc
      rfl
    | none =>
      rw [hq] at hc
      cases hf : u.fragment with
      | some f =>
        rw [hf, marked, String.toList_append] at hc
        cases hc
        rfl
      | none =>
        rw [hf] at hc
        cases hc

end OneTable.Url
