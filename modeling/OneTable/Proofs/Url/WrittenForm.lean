import Mathlib.Data.List.TakeWhile
import Mathlib.Tactic.IntervalCases
import OneTable.Url.Reader

/-!
# URLs of servers, as they are written

Encoding leaves nothing to encode, so that a part which was encoded once is its own encoded form
(`percentEncode_eq_self_iff`). An address whose parts hold no character to encode comes back from
its text part by part (`Authority.Written`, `readAuthority_text`), and so does a path of one segment
that is no dot segment (`WrittenPath`). Together they are the URLs that name a server and at most
one thing on it; reading one gives the URL that was written (`ofRest_text`).
-/

namespace OneTable.Url

/-! ### Percent-encoding -/

/-- The characters that an encoded byte is written with. -/
def escapeChars : List Char := "%0123456789ABCDEF".toList

theorem hexDigit_mem_escapeChars {n : Nat} (h : n < 16) : hexDigit n ∈ escapeChars := by
  interval_cases n <;> decide

theorem mem_escapeChars_of_mem_encodeByte {b : UInt8} {c : Char} (h : c ∈ encodeByte b) :
    c ∈ escapeChars := by
  have hb := b.toNat_lt
  simp only [encodeByte, List.mem_cons, List.not_mem_nil, or_false] at h
  obtain rfl | rfl | rfl := h
  · decide
  · exact hexDigit_mem_escapeChars (by omega)
  · exact hexDigit_mem_escapeChars (by omega)

section percentEncode

variable {encoded : Char → Bool} {cs : List Char}

/-- What is encoded consists of escapes and of characters that stand for themselves. -/
theorem mem_percentEncode {c : Char} (h : c ∈ percentEncode encoded cs) :
    c ∈ escapeChars ∨ c ∈ cs ∧ encoded c = false := by
  obtain ⟨d, hd, hc⟩ := List.mem_flatMap.1 h
  split at hc
  · obtain ⟨b, -, hb⟩ := List.mem_flatMap.1 hc
    exact .inl (mem_escapeChars_of_mem_encodeByte hb)
  · rename_i hn
    obtain rfl := List.mem_singleton.1 hc
    exact .inr ⟨hd, by simpa using hn⟩

/-- Encoding brings in no slash. -/
theorem slash_notMem_percentEncode (h : '/' ∉ cs) : '/' ∉ percentEncode encoded cs := by
  intro hc
  obtain hesc | ⟨hmem, -⟩ := mem_percentEncode hc
  · exact absurd hesc (by decide)
  · exact h hmem

theorem percentEncode_eq_self (h : ∀ c ∈ cs, encoded c = false) :
    percentEncode encoded cs = cs := by
  induction cs with
  | nil => rfl
  | cons c cs ih =>
    have hrest := ih fun d hd => h d (.tail _ hd)
    rw [percentEncode, List.flatMap_cons, if_neg (by simp [h c]), ← percentEncode, hrest]
    rfl

theorem percentEncode_eq_nil_iff : percentEncode encoded cs = [] ↔ cs = [] := by
  refine ⟨fun h => ?_, fun h => by rw [h]; rfl⟩
  cases cs with
  | nil => rfl
  | cons c cs =>
    have hc := List.flatMap_eq_nil_iff.1 h c (.head _)
    split at hc
    · obtain ⟨b, bs, hb⟩ := List.exists_cons_of_ne_nil (String.utf8EncodeChar_ne_nil (c := c))
      simp [hb, encodeByte] at hc
    · simp at hc

/-- No escape is encoded again. -/
def SparesEscapes (encoded : Char → Bool) : Prop := escapeChars.any encoded = false

theorem encoded_eq_false_of_mem (he : SparesEscapes encoded) {c : Char}
    (h : c ∈ percentEncode encoded cs) : encoded c = false := by
  obtain h | ⟨-, h⟩ := mem_percentEncode h
  · simpa using List.any_eq_false.1 he c h
  · exact h

theorem percentEncode_eq_self_iff (he : SparesEscapes encoded) :
    percentEncode encoded cs = cs ↔ ∀ c ∈ cs, encoded c = false :=
  ⟨fun h _ hc => encoded_eq_false_of_mem he (h ▸ hc), percentEncode_eq_self⟩

end percentEncode

theorem sparesEscapes_isUserEncoded : SparesEscapes isUserEncoded :=
  show escapeChars.any isUserEncoded = false by decide

theorem sparesEscapes_isPathEncoded : SparesEscapes isPathEncoded :=
  show escapeChars.any isPathEncoded = false by decide

/-! ### Classes of characters -/

/-- The printed characters of ASCII, of which URLs are written. -/
def isPrinted (c : Char) : Bool := 0x20 < c.toNat && c.toNat < 0x7f

theorem isPrinted_of_ne_blank {c : Char} (hc : isControl c = false) (hb : c ≠ ' ') :
    isPrinted c = true := by
  have hne : c.toNat ≠ 0x20 := fun h => hb (Char.toNat_inj.1 h)
  simp only [isControl, Bool.or_eq_false_iff, decide_eq_false_iff_not] at hc
  simp only [isPrinted, Bool.and_eq_true, decide_eq_true_eq]
  omega

theorem isPassedOver_of_isPrinted {c : Char} (h : isPrinted c = true) : isPassedOver c = false := by
  have htab : c ≠ '\t' := by rintro rfl; exact absurd h (by decide)
  have hline : c ≠ '\n' := by rintro rfl; exact absurd h (by decide)
  have hreturn : c ≠ '\r' := by rintro rfl; exact absurd h (by decide)
  simp [isPassedOver, htab, hline, hreturn]

/-- Characters on which a class differs are different. -/
theorem ne_of_class {p : Char → Bool} {c d : Char} (hc : p c = false) (hd : p d = true) :
    c ≠ d := by
  rintro rfl
  exact Bool.false_ne_true (hc.symm.trans hd)

theorem isPathEncoded_of_isUserEncoded {c : Char} (h : isUserEncoded c = false) :
    isPathEncoded c = false := by
  rw [isUserEncoded, Bool.or_eq_false_iff] at h
  exact h.1

theorem isPrinted_of_isPathEncoded {c : Char} (h : isPathEncoded c = false) :
    isPrinted c = true := by
  have hb : c ≠ ' ' := ne_of_class h (by decide)
  rw [isPathEncoded, Bool.or_eq_false_iff, isFragmentEncoded, Bool.or_eq_false_iff] at h
  exact isPrinted_of_ne_blank h.1.1 hb

/-- A character that a host holds and that is not encoded in it. -/
def isHostChar (c : Char) : Bool := !isForbiddenInHost c && !isControl c

theorem isForbiddenInHost_of_isHostChar {c : Char} (h : isHostChar c = true) :
    isForbiddenInHost c = false := by
  rw [isHostChar, Bool.and_eq_true, Bool.not_eq_true'] at h
  exact h.1

theorem isControl_of_isHostChar {c : Char} (h : isHostChar c = true) : isControl c = false := by
  rw [isHostChar, Bool.and_eq_true, Bool.not_eq_true', Bool.not_eq_true'] at h
  exact h.2

theorem isPrinted_of_isHostChar {c : Char} (h : isHostChar c = true) : isPrinted c = true :=
  isPrinted_of_ne_blank (isControl_of_isHostChar h)
    (ne_of_class (isForbiddenInHost_of_isHostChar h) (by decide))

theorem isHostChar_of_isDigit {c : Char} (h : c.isDigit = true) : isHostChar c = true := by
  have hn : 48 ≤ c.toNat ∧ c.toNat ≤ 57 := by
    simpa [Char.isDigit, UInt32.le_iff_toNat_le] using h
  rw [← Char.ofNat_toNat c]
  obtain ⟨hlo, hhi⟩ := hn
  interval_cases c.toNat <;> decide

/-- A character that an address is written with: it begins no path, query or fragment. -/
def isAuthorityChar (c : Char) : Bool := isPrinted c && c != '/' && c != '?' && c != '#'

theorem isPrinted_of_isAuthorityChar {c : Char} (h : isAuthorityChar c = true) :
    isPrinted c = true := by
  simp only [isAuthorityChar, Bool.and_eq_true] at h
  exact h.1.1.1

theorem isAuthorityChar_of_class {p : Char → Bool} {c : Char} (hc : isPrinted c = true)
    (h : p c = false) (hslash : p '/' = true) (hquery : p '?' = true) (hhash : p '#' = true) :
    isAuthorityChar c = true := by
  simp [isAuthorityChar, hc, ne_of_class h hslash, ne_of_class h hquery, ne_of_class h hhash]

theorem isAuthorityChar_of_isUserEncoded {c : Char} (h : isUserEncoded c = false) :
    isAuthorityChar c = true :=
  isAuthorityChar_of_class (isPrinted_of_isPathEncoded (isPathEncoded_of_isUserEncoded h)) h
    (by decide) (by decide) (by decide)

theorem isAuthorityChar_of_isHostChar {c : Char} (h : isHostChar c = true) :
    isAuthorityChar c = true :=
  isAuthorityChar_of_class (isPrinted_of_isHostChar h) (isForbiddenInHost_of_isHostChar h)
    (by decide) (by decide) (by decide)

/-! ### Addresses -/

/-- The parts of the address hold no character that would be encoded or that would end them, and
the parts that may not be empty are not. -/
structure Authority.Written (a : Authority) : Prop where
  username : ∀ c ∈ a.username.toList, isUserEncoded c = false
  password : ∀ p, a.password = some p → p.toList ≠ [] ∧ ∀ c ∈ p.toList, isUserEncoded c = false
  host_ne : a.host.toList ≠ []
  host : ∀ c ∈ a.host.toList, isHostChar c = true

/-- What may follow an address: nothing, or a slash and more. -/
def StartsPath (cs : List Char) : Prop := ∀ c ∈ cs.head?, c = '/'

section

variable {a : Authority} {behind : List Char}

theorem Authority.toList_portText :
    a.portText.toList = match a.port with
      | some port => ':' :: Nat.toDigits 10 port.toNat
      | none => [] := by
  rw [Authority.portText]
  cases a.port with
  | none => rfl
  | some port => simp

theorem Authority.mem_portText {c : Char} (h : c ∈ a.portText.toList) :
    c = ':' ∨ c.isDigit = true := by
  rw [toList_portText] at h
  split at h
  · obtain rfl | hd := List.mem_cons.1 h
    · exact .inl rfl
    · exact .inr (Number.isDigit_toDigits _ c hd)
  · simp at h

/-- The characters behind the credentials hold no `@`. -/
theorem Authority.Written.ne_at (ha : a.Written) {c : Char}
    (h : c ∈ a.host.toList ++ a.portText.toList) : c ≠ '@' := by
  obtain hc | hc := List.mem_append.1 h
  · exact ne_of_class (isForbiddenInHost_of_isHostChar (ha.host c hc)) (by decide)
  · obtain rfl | hd := Authority.mem_portText hc
    · decide
    · rintro rfl
      exact absurd hd (by decide)

/-- The credentials come back, with whatever has no `@` behind them. -/
theorem userinfo_userText (ha : a.Written) {rest : List Char} (hr : ∀ c ∈ rest, c ≠ '@') :
    userinfo (a.userText.toList ++ rest) = (a.username, a.password, rest) := by
  have hrest : ∀ c ∈ rest, (c == '@') = false := fun c hc => by simpa using hr c hc
  have hname : ∀ c ∈ a.username.toList, (decide (c ≠ ':')) = true := fun c hc => by
    simpa using ne_of_class (ha.username c hc) (by decide)
  have hencoded : percentEncode isUserEncoded a.username.toList = a.username.toList :=
    percentEncode_eq_self ha.username
  cases hp : a.password with
  | none =>
    by_cases hu : a.username.toList = []
    · have hnone : Text.splitLast? (· == '@') rest = none := Text.splitLast?_eq_none_iff.2 hrest
      have huser : a.username = "" := String.toList_inj.1 (by simpa using hu)
      simp [Authority.userText, hp, huser, userinfo, hnone]
    · have htext : a.userText.toList ++ rest = a.username.toList ++ '@' :: rest := by
        simp [Authority.userText, hp, hu]
      have hsplit : Text.splitLast? (· == '@') (a.username.toList ++ '@' :: rest) =
          some (a.username.toList, rest) := Text.splitLast?_append rfl hrest
      have htake : a.username.toList.takeWhile (fun c => decide (c ≠ ':')) = a.username.toList :=
        List.takeWhile_eq_self_iff.2 hname
      rw [htext, userinfo, hsplit]
      simp only [htake, hencoded]
      simp
  | some p =>
    obtain ⟨hne, hpass⟩ := ha.password p hp
    have htext : a.userText.toList ++ rest =
        (a.username.toList ++ ':' :: p.toList) ++ '@' :: rest := by
      simp [Authority.userText, hp]
    have hsplit :
        Text.splitLast? (· == '@') ((a.username.toList ++ ':' :: p.toList) ++ '@' :: rest) =
          some (a.username.toList ++ ':' :: p.toList, rest) := Text.splitLast?_append rfl hrest
    have htake : (a.username.toList ++ ':' :: p.toList).takeWhile (fun c => decide (c ≠ ':')) =
        a.username.toList := by
      rw [List.takeWhile_append_of_pos hname, List.takeWhile_cons_of_neg (by simp), List.append_nil]
    rw [htext, userinfo, hsplit]
    simp only [htake, hencoded, List.drop_left, List.drop_one, List.tail_cons]
    simp [hne, percentEncode_eq_self hpass]

/-- A host ends where the port or the path begins. -/
theorem nameLength_append {host rest : List Char} (hh : ∀ c ∈ host, isHostChar c = true)
    (hr : ∀ c ∈ rest.head?, c = ':' ∨ c = '/') : nameLength false (host ++ rest) = host.length := by
  induction host with
  | nil =>
    cases rest with
    | nil => rfl
    | cons c rest => obtain rfl | rfl := hr c rfl <;> rfl
  | cons c host ih =>
    have hc := isForbiddenInHost_of_isHostChar (hh c (.head _))
    have hcolon : c ≠ ':' := ne_of_class hc (by decide)
    have hslash : c ≠ '/' := ne_of_class hc (by decide)
    have hquery : c ≠ '?' := ne_of_class hc (by decide)
    have hhash : c ≠ '#' := ne_of_class hc (by decide)
    have hopen : c ≠ '[' := ne_of_class hc (by decide)
    have hrest := ih fun d hd => hh d (.tail _ hd)
    simp [nameLength, hcolon, hslash, hquery, hhash, hopen, hrest]

theorem readHost_toList (ha : a.Written) : readHost a.host.toList = .ok a.host := by
  have hforbidden : a.host.toList.any isForbiddenInHost = false := by
    rw [List.any_eq_false]
    intro c hc
    simp [isForbiddenInHost_of_isHostChar (ha.host c hc)]
  have hopen : a.host.toList.head? ≠ some '[' := by
    intro h
    exact absurd (ha.host '[' (List.mem_of_mem_head? h)) (by decide)
  have hencoded : percentEncode isControl a.host.toList = a.host.toList :=
    percentEncode_eq_self fun c hc => isControl_of_isHostChar (ha.host c hc)
  rw [readHost]
  simp [hopen, hforbidden, hencoded]

/-- A port in decimal comes back, and with it what follows. -/
theorem readPort_toDigits (port : UInt16) (hb : StartsPath behind) :
    readPort (Nat.toDigits 10 port.toNat ++ behind) = .ok (some port, behind) := by
  have hdigits := Number.isDigit_toDigits port.toNat
  have hstop : ∀ c, behind.head? = some c → c.isDigit = false := fun c hc => by rw [hb c hc]; rfl
  have htake := Text.takeWhile_run hdigits hstop
  have hdrop := Text.dropWhile_run hdigits hstop
  have hsize : ¬65535 < port.toNat := by have := port.toNat_lt; omega
  have hends : (behind.head?.any fun c => !endsAuthority c) = false := by
    cases behind with
    | nil => rfl
    | cons c rest => rw [hb c rfl]; rfl
  have hfault : portFault? (Nat.toDigits 10 port.toNat ++ behind) = none := by
    rw [portFault?]
    simp [htake, hdrop, Number.natOfDigits_toDigits, hsize, hends]
  rw [readPort]
  simp [htake, hfault, Number.natOfDigits_toDigits, Nat.toDigits_ne_nil]

/-- The characters of an address are printed and begin no path, query or fragment. -/
theorem Authority.Written.isAuthorityChar (ha : a.Written) {c : Char} (h : c ∈ a.text.toList) :
    isAuthorityChar c = true := by
  have huser : ∀ c ∈ a.userText.toList, Url.isAuthorityChar c = true := by
    intro c hc
    rw [Authority.userText] at hc
    split at hc
    · rename_i p hp
      simp only [String.toList_append, List.mem_append] at hc
      obtain ((hc | hc) | hc) | hc := hc
      · exact isAuthorityChar_of_isUserEncoded (ha.username c hc)
      · obtain rfl := List.mem_singleton.1 hc; decide
      · exact isAuthorityChar_of_isUserEncoded ((ha.password p hp).2 c hc)
      · obtain rfl := List.mem_singleton.1 hc; decide
    · split at hc
      · simp at hc
      · obtain hc | hc := List.mem_append.1 (String.toList_append ▸ hc)
        · exact isAuthorityChar_of_isUserEncoded (ha.username c hc)
        · obtain rfl := List.mem_singleton.1 hc; decide
  rw [Authority.text, String.toList_append, String.toList_append, List.mem_append,
    List.mem_append] at h
  obtain (hc | hc) | hc := h
  · exact huser c hc
  · exact isAuthorityChar_of_isHostChar (ha.host c hc)
  · obtain rfl | hd := Authority.mem_portText hc
    · decide
    · exact isAuthorityChar_of_isHostChar (isHostChar_of_isDigit hd)

/-- An address comes back from its text, and with it the path behind. -/
theorem readAuthority_text (ha : a.Written) (hb : StartsPath behind) :
    readAuthority (a.text.toList ++ behind) = .ok (a, behind) := by
  have hchars : ∀ c ∈ a.text.toList, (c != '/' && c != '?' && c != '#') = true := fun c hc => by
    have h := ha.isAuthorityChar hc
    simp only [Url.isAuthorityChar, Bool.and_eq_true] at h ⊢
    exact ⟨⟨h.1.1.2, h.1.2⟩, h.2⟩
  have hslash : ∀ c, behind.head? = some c → (c != '/' && c != '?' && c != '#') = false :=
    fun c hc => by rw [hb c hc]; rfl
  have hinside := Text.takeWhile_run hchars hslash
  have htext : a.text.toList = a.userText.toList ++ (a.host.toList ++ a.portText.toList) := by
    rw [Authority.text, String.toList_append, String.toList_append, List.append_assoc]
  have huser : userinfo a.text.toList =
      (a.username, a.password, a.host.toList ++ a.portText.toList) := by
    rw [htext, userinfo_userText ha fun c hc => ha.ne_at hc]
  have hstop : ∀ c ∈ (a.portText.toList ++ behind).head?, c = ':' ∨ c = '/' := by
    rw [Authority.toList_portText]
    cases a.port with
    | none => exact fun c hc => .inr (hb c hc)
    | some port => rintro c ⟨⟩; exact .inl rfl
  have hname : nameLength false (a.host.toList ++ (a.portText.toList ++ behind)) =
      a.host.toList.length := nameLength_append ha.host hstop
  -- A host that is not empty keeps the authority from being a lone `@`.
  have hlone : a.text.toList ≠ ['@'] := by
    intro h
    obtain ⟨c, cs, hc⟩ := List.exists_cons_of_ne_nil ha.host_ne
    have hmem : c ∈ a.host.toList := by rw [hc]; exact .head _
    have hat : c ∈ a.text.toList := by rw [htext]; simp [hmem]
    rw [h, List.mem_singleton] at hat
    exact ha.ne_at (List.mem_append_left _ hmem) hat
  have hhost : a.host.toList.isEmpty = false := by simpa using ha.host_ne
  unfold readAuthority
  simp only [hinside, huser, List.drop_left, List.append_assoc, hname, List.take_left,
    readHost_toList ha, hlone, hhost, bind, Except.bind, decide_false, Bool.false_and,
    Bool.false_eq_true, if_false]
  rw [Authority.toList_portText]
  cases hport : a.port with
  | none =>
    have ha' : ({ username := a.username, password := a.password, host := a.host } : Authority) =
        a := by rw [← hport]
    cases behind with
    | nil => exact congrArg (fun b => Except.ok (b, [])) ha'
    | cons c rest =>
      obtain rfl := hb c rfl
      exact congrArg (fun b => Except.ok (b, '/' :: rest)) ha'
  | some port =>
    simp only [List.cons_append, readPort_toDigits port hb, ← hport]
    rfl

end

/-! ### Paths -/

/-- A path of at most one segment that reads as it is written. -/
inductive WrittenPath : List Char → Prop
  | none : WrittenPath []
  | segment {cs : List Char} (hslash : '/' ∉ cs) (hc : ∀ c ∈ cs, isPathEncoded c = false)
      (hdot : isDot cs = false) (hdots : isDoubleDot cs = false) : WrittenPath ('/' :: cs)

section

variable {cs : List Char}

/-- What a text without slashes becomes behind the slash of a path. -/
theorem normalPath_segment (h : '/' ∉ cs) :
    normalPath cs = '/' :: (if isDoubleDot (percentEncode isPathEncoded cs) then []
      else if isDot (percentEncode isPathEncoded cs) then []
      else percentEncode isPathEncoded cs) := by
  have hpieces : Text.pieces (· == '/') cs = [cs] :=
    Text.pieces_of_forall fun c hc => by simpa using ne_of_mem_of_not_mem hc h
  simp only [normalPath, hpieces, List.map_cons, List.map_nil, List.dropLast_singleton,
    List.foldl_nil, List.getLast?_singleton, Option.getD_some]
  split
  · rfl
  · split <;> rfl

theorem writtenPath_normalPath (h : '/' ∉ cs) : WrittenPath (normalPath cs) := by
  rw [normalPath_segment h]
  split
  · exact .segment (by simp) (by simp) rfl rfl
  · split
    · exact .segment (by simp) (by simp) rfl rfl
    · rename_i hdots hdot
      have hencoded : ∀ c ∈ percentEncode isPathEncoded cs, isPathEncoded c = false :=
        fun c hc => encoded_eq_false_of_mem sparesEscapes_isPathEncoded hc
      exact .segment (slash_notMem_percentEncode h) hencoded (by simpa using hdot)
        (by simpa using hdots)

/-- Behind a host, a text without slashes is one segment, unless it is empty or begins like a query
or a fragment. -/
theorem pathBehindHost_segment (h : '/' ∉ cs) :
    pathBehindHost cs = if cs.head?.all ['?', '#'].contains then [] else normalPath cs := by
  unfold pathBehindHost
  split
  · rfl
  · rfl
  · rfl
  · exact absurd (.head _) h
  · rename_i hnil hquery hhash _
    cases cs with
    | nil => exact absurd rfl hnil
    | cons c cs =>
      have hc : c ≠ '?' ∧ c ≠ '#' :=
        ⟨fun h => hquery cs (by rw [h]), fun h => hhash cs (by rw [h])⟩
      rw [if_neg (by simp [hc])]

/-- Whatever is put behind a host reads as it is written. -/
theorem writtenPath_pathBehindHost (h : '/' ∉ cs) : WrittenPath (pathBehindHost cs) := by
  rw [pathBehindHost_segment h]
  split
  · exact .none
  · exact writtenPath_normalPath h

namespace WrittenPath

theorem startsPath (h : WrittenPath cs) : StartsPath cs := by
  cases h with
  | none => rintro c ⟨⟩
  | segment => rintro c ⟨⟩; rfl

theorem isPathChar (h : WrittenPath cs) {c : Char} (hc : c ∈ cs) : isPathEncoded c = false := by
  cases h with
  | none => simp at hc
  | segment _ hcs =>
    obtain rfl | hc := List.mem_cons.1 hc
    · decide
    · exact hcs c hc

theorem pathBehindHost_eq (h : WrittenPath cs) : pathBehindHost cs = cs := by
  cases h with
  | none => rfl
  | segment hslash hcs hdot hdots =>
    rw [pathBehindHost, normalPath_segment hslash, percentEncode_eq_self hcs,
      if_neg (by simp [hdots]), if_neg (by simp [hdot])]

theorem withQueryAndFragment_eq (h : WrittenPath cs) :
    withQueryAndFragment cs = (cs, Option.none, Option.none) := by
  have htake : cs.takeWhile (fun c => c != '?' && c != '#') = cs := by
    rw [List.takeWhile_eq_self_iff]
    intro c hc
    have hquery : c ≠ '?' := ne_of_class (h.isPathChar hc) (by decide)
    have hhash : c ≠ '#' := ne_of_class (h.isPathChar hc) (by decide)
    simp [hquery, hhash]
  simp only [withQueryAndFragment, htake, List.drop_length]

end WrittenPath

end

/-! ### Reading what was written -/

/-- Nothing is cleaned off a text of printed characters. -/
theorem cleaned_eq_toList {s : String} (h : ∀ c ∈ s.toList, isPrinted c = true) :
    cleaned s = s.toList := by
  have houter : ∀ c ∈ s.toList, decide (c.toNat ≤ 0x20) = false := fun c hc => by
    have hc := h c hc
    simp only [isPrinted, Bool.and_eq_true, decide_eq_true_eq] at hc
    simpa using hc.1
  have hkept : ∀ c ∈ s.toList, (!isPassedOver c) = true := fun c hc => by
    simp [isPassedOver_of_isPrinted (h c hc)]
  have hdrop : ∀ cs : List Char, (∀ c ∈ cs, decide (c.toNat ≤ 0x20) = false) →
      cs.dropWhile (fun c => decide (c.toNat ≤ 0x20)) = cs := by
    intro cs hcs
    cases cs with
    | nil => rfl
    | cons c cs => exact List.dropWhile_cons_of_neg (by simp [hcs c (.head _)])
  simp only [cleaned]
  rw [hdrop _ houter, hdrop _ fun c hc => houter c (List.mem_reverse.1 hc), List.reverse_reverse,
    List.filter_eq_self.2 hkept]

/-- Behind its scheme, the URL of a server comes back from its text. -/
theorem ofRest_text {scheme : String} {a : Authority} {path : String} (ha : a.Written)
    (hp : WrittenPath path.toList) :
    ofRest scheme ('/' :: '/' :: (a.text.toList ++ path.toList)) =
      .ok { scheme, authority := some a, path } := by
  have hread := readAuthority_text ha hp.startsPath
  simp only [ofRest, hread, bind, Except.bind, hp.withQueryAndFragment_eq, hp.pathBehindHost_eq,
    String.ofList_toList]
  rfl

end OneTable.Url
