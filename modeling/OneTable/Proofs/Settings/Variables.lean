import OneTable.Settings.Variables

/-!
# Empty variables

A variable of this library that is empty counts as unset: where the settings are read, it is seen
through a look-up that tells nothing of empty values (`given?_withoutEmpty`). `DATABASE_URL` is
looked up as it is. It counts only without a URL of this library, and an empty one is then read as a
URL, which it is not. So hiding the empty variables changes nothing exactly if there is such a URL or
`DATABASE_URL` is not empty (`empty_counts_as_unset_iff`).
-/

namespace OneTable

theorem bind_eq_error_iff {ε α β : Type} {x : Except ε α} {f : α → Except ε β} {e : ε} :
    x >>= f = .error e ↔ x = .error e ∨ ∃ a, x = .ok a ∧ f a = .error e := by
  cases x <;> simp [bind, Except.bind]

namespace Settings

/-- The same variables but for the empty ones. -/
def withoutEmpty (lookup : String → Option String) (name : String) : Option String :=
  (lookup name).filter fun value => !value.toList.isEmpty

variable {lookup lookup' : String → Option String} {f : Url.Fault}

theorem given?_withoutEmpty (lookup : String → Option String) :
    given? (withoutEmpty lookup) = given? lookup := by
  funext name
  rw [given?, given?, withoutEmpty, Option.filter_filter]
  simp only [Bool.and_self]

theorem given?_url_eq_some_iff {url : String} :
    given? lookup "URL" = some url ↔ lookup "LITEORM_URL" = some url ∧ url ≠ "" := by
  have hname : variableStart ++ "URL" = "LITEORM_URL" := by decide +kernel
  rw [given?, hname, Option.filter_eq_some_iff]
  simp

theorem given?_url_eq_none (h : ∀ url, lookup "LITEORM_URL" = some url → url = "") :
    given? lookup "URL" = none := by
  rw [Option.eq_none_iff_forall_ne_some]
  intro url hurl
  obtain ⟨hset, hne⟩ := given?_url_eq_some_iff.1 hurl
  exact hne (h url hset)

/-! ### Reading the URL -/

theorem fromLookup_congr (hgiven : given? lookup = given? lookup')
    (hbase : baseFrom lookup = baseFrom lookup') : fromLookup lookup = fromLookup lookup' := by
  simp only [fromLookup, hgiven, hbase]

theorem baseFrom_withoutEmpty
    (h : given? lookup "URL" = none → lookup "DATABASE_URL" ≠ some "") :
    baseFrom (withoutEmpty lookup) = baseFrom lookup := by
  rw [baseFrom, baseFrom, given?_withoutEmpty]
  cases hurl : given? lookup "URL" with
  | some url => rfl
  | none =>
    have hfilter : withoutEmpty lookup "DATABASE_URL" = lookup "DATABASE_URL" := by
      cases hlookup : lookup "DATABASE_URL" with
      | none => rw [withoutEmpty, hlookup, Option.filter_none]
      | some url =>
        have hne : url.toList ≠ [] := fun hnil =>
          h hurl (hlookup.trans (congrArg some (String.toList_eq_nil_iff.1 hnil)))
        rw [withoutEmpty, hlookup, Option.filter_some_pos (by simpa using hne)]
    rw [hfilter]

theorem ofUrl_empty : ofUrl "" = .error (.badUrl .relative) := by rfl

theorem fromLookup_of_empty (hurl : given? lookup "URL" = none)
    (hempty : lookup "DATABASE_URL" = some "") :
    fromLookup lookup = .error (.badUrl .relative) := by
  rw [fromLookup, baseFrom, hurl, hempty, Option.none_or]
  dsimp only
  rw [ofUrl_empty]
  rfl

/-! ### Reading the other variables -/

theorem portFrom_ne_badUrl {text : String} :
    (portFrom text).map some ≠ .error (.badUrl f) := by
  unfold portFrom
  split <;> simp [Except.map]

theorem flagFrom_ne_badUrl {name text : String} : flagFrom name text ≠ .error (.badUrl f) := by
  unfold flagFrom
  split <;> simp

theorem check_ne_badUrl {s : Settings} : s.check ≠ .error (.badUrl f) := by
  unfold check
  repeat' split
  all_goals simp

/-- What a variable says, if it is given, in place of the setting that there is. -/
def overridden {α : Type} (read : String → Except Fault α) (value : Option String) (field : α) :
    Except Fault α :=
  match value with
  | some value => read value
  | none => .ok field

theorem overridden_ne_badUrl {α : Type} {read : String → Except Fault α} {value : Option String}
    {field : α} (h : ∀ value, read value ≠ .error (.badUrl f)) :
    overridden read value field ≠ .error (.badUrl f) := by
  cases value with
  | none => exact nofun
  | some value => exact h value

theorem fromLookup_eq (lookup : String → Option String) : fromLookup lookup = (do
    let base ← baseFrom lookup
    let port ← overridden (fun value => (portFrom value).map some) (given? lookup "PORT") base.port
    let persistent ← overridden (flagFrom "PERSISTENT") (given? lookup "PERSISTENT") base.persistent
    let logging ← overridden (flagFrom "LOGGING") (given? lookup "LOGGING") base.logging
    check {
      host := (given? lookup "HOST").or base.host
      port
      username := (given? lookup "USERNAME").or base.username
      password := (given? lookup "PASSWORD").or base.password
      database := (given? lookup "DATABASE").or base.database
      table := (given? lookup "TABLE").or base.table
      primaryKey := (given? lookup "PRIMARY_KEY").or base.primaryKey
      persistent
      logging }) := by
  rw [fromLookup]
  cases given? lookup "PORT" <;> rfl

/-- Only a URL can be at fault as a URL. -/
theorem baseFrom_of_badUrl (h : fromLookup lookup = .error (.badUrl f)) :
    baseFrom lookup = .error (.badUrl f) := by
  rw [fromLookup_eq] at h
  rcases bind_eq_error_iff.1 h with hbase | ⟨base, -, h⟩
  · exact hbase
  rcases bind_eq_error_iff.1 h with hport | ⟨port, -, h⟩
  · exact absurd hport (overridden_ne_badUrl fun _ => portFrom_ne_badUrl)
  rcases bind_eq_error_iff.1 h with hflag | ⟨persistent, -, h⟩
  · exact absurd hflag (overridden_ne_badUrl fun _ => flagFrom_ne_badUrl)
  rcases bind_eq_error_iff.1 h with hflag | ⟨logging, -, h⟩
  · exact absurd hflag (overridden_ne_badUrl fun _ => flagFrom_ne_badUrl)
  exact absurd h check_ne_badUrl

/-- Settings from variables, or the fault in them, are those from the variables that are not empty
exactly if `LITEORM_URL` is set and not empty or `DATABASE_URL` is not set to the empty text. Else
the empty text is read as a URL, and that is the fault. -/
theorem empty_counts_as_unset_iff (lookup : String → Option String) :
    (fromLookup (withoutEmpty lookup) = fromLookup lookup ↔
      (∃ url, lookup "LITEORM_URL" = some url ∧ url ≠ "") ∨ lookup "DATABASE_URL" ≠ some "") ∧
    ((∀ url, lookup "LITEORM_URL" = some url → url = "") → lookup "DATABASE_URL" = some "" →
      fromLookup lookup = .error (.badUrl .relative)) := by
  refine ⟨⟨fun hsame => ?_, fun h => ?_⟩, fun hurl => fromLookup_of_empty (given?_url_eq_none hurl)⟩
  · cases hurl : given? lookup "URL" with
    | some url => exact .inl ⟨url, given?_url_eq_some_iff.1 hurl⟩
    | none =>
      refine .inr fun hempty => ?_
      -- without the empty text there is no URL at all, and so none at fault
      have hbase : baseFrom (withoutEmpty lookup) = .ok {} := by
        rw [baseFrom, given?_withoutEmpty, hurl, withoutEmpty, hempty]
        rfl
      have hfault := baseFrom_of_badUrl (hsame.trans (fromLookup_of_empty hurl hempty))
      exact nomatch hbase.symm.trans hfault
  · refine fromLookup_congr (given?_withoutEmpty lookup) (baseFrom_withoutEmpty fun hurl => ?_)
    rcases h with ⟨url, hset⟩ | hother
    · exact nomatch hurl.symm.trans (given?_url_eq_some_iff.2 hset)
    · exact hother

/-- With an empty `LITEORM_URL` and an empty host, an empty `DATABASE_URL` is the fault, and one that
names a server is not. -/
theorem empty_counts_as_unset_fallback :
    let lookup (url : String) (name : String) : Option String :=
      if name = "LITEORM_URL" ∨ name = "LITEORM_HOST" then some ""
      else if name = "DATABASE_URL" then some url else none
    fromLookup (withoutEmpty (lookup "mysql://db/blog")) = fromLookup (lookup "mysql://db/blog") ∧
      fromLookup (lookup "") = .error (.badUrl .relative) := by
  intro lookup
  refine ⟨(empty_counts_as_unset_iff _).1.2 (.inr (by decide)), ?_⟩
  refine (empty_counts_as_unset_iff _).2 ?_ rfl
  rintro url ⟨⟩
  rfl

/-- An empty `DATABASE_URL` is read as a URL where it should count as unset. -/
theorem empty_url_is_read :
    let lookup (name : String) : Option String :=
      if name = "LITEORM_HOST" then some "db" else if name = "DATABASE_URL" then some "" else none
    fromLookup (withoutEmpty lookup) = .ok { host := some "db" } ∧
      fromLookup lookup = .error (.badUrl .relative) ∧
      fromLookup (withoutEmpty lookup) ≠ fromLookup lookup := by
  intro lookup
  have hunset : fromLookup (withoutEmpty lookup) = .ok { host := some "db" } := rfl
  have hread : fromLookup lookup = .error (.badUrl .relative) :=
    fromLookup_of_empty rfl rfl
  exact ⟨hunset, hread, fun hsame => nomatch hunset.symm.trans (hsame.trans hread)⟩

end Settings
end OneTable
