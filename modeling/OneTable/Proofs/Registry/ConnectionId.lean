import Mathlib.Data.List.TakeWhile
import OneTable.Settings.Basic
import OneTable.Text.Split

/-!
# What a connection id says

A connection id is made of the user name, the password, the host and a mark for settings that keep
one pool, with `:` and `@` between them and nothing encoded. Where no part holds the separator that
follows it, equal ids come from equal parts (`sameConnection_of_connectionId_eq`).
-/

namespace OneTable.Settings

/-- The separators in the connection id stand where they are put: the user name holds no colon, and
the host no at sign and not the mark at its end. -/
structure Delimited (s : Settings) : Prop where
  username : ':' ∉ (s.username.getD "").toList
  host : '@' ∉ (s.host.getD "").toList
  host_end : ¬ "?persistent".toList <:+ (s.host.getD "").toList

instance (s : Settings) : Decidable s.Delimited :=
  decidable_of_iff (':' ∉ (s.username.getD "").toList ∧ '@' ∉ (s.host.getD "").toList ∧
      ¬ "?persistent".toList <:+ (s.host.getD "").toList)
    ⟨fun ⟨hu, hh, he⟩ => ⟨hu, hh, he⟩, fun h => ⟨h.username, h.host, h.host_end⟩⟩

/-- Both name the same host, user and password, and both keep one pool or neither does. A part that
is left out counts as empty. -/
structure SameConnection (s s' : Settings) : Prop where
  host : s.host.getD "" = s'.host.getD ""
  username : s.username.getD "" = s'.username.getD ""
  password : s.password.getD "" = s'.password.getD ""
  persistent : s.persistent = s'.persistent

variable {s s' : Settings}

/-! ### Taking a connection id apart -/

theorem toList_connectionId (s : Settings) :
    s.connectionId.toList =
      ((s.username.getD "").toList ++ ':' :: (s.password.getD "").toList) ++ '@' ::
        ((s.host.getD "").toList ++ (if s.persistent then "?persistent" else "").toList) := by
  simp [connectionId]

/-- A text has one way to be cut at its first separator. -/
theorem append_cons_inj {α : Type} [DecidableEq α] {sep : α} {a a' b b' : List α} (ha : sep ∉ a)
    (ha' : sep ∉ a') (h : a ++ sep :: b = a' ++ sep :: b') : a = a' ∧ b = b' := by
  have hfirst {l r : List α} (hl : sep ∉ l) :
      (l ++ sep :: r).takeWhile (fun x => decide (x ≠ sep)) = l := by
    rw [List.takeWhile_append_of_pos, List.takeWhile_cons_of_neg (by simp), List.append_nil]
    exact fun x hx => decide_eq_true (ne_of_mem_of_not_mem hx hl)
  obtain rfl : a = a' := by rw [← hfirst (r := b) ha, h, hfirst ha']
  exact ⟨rfl, (List.cons.inj (List.append_cancel_left h)).2⟩

theorem Delimited.splitLast?_connectionId (h : s.Delimited) :
    Text.splitLast? (· == '@') s.connectionId.toList =
      some ((s.username.getD "").toList ++ ':' :: (s.password.getD "").toList,
        (s.host.getD "").toList ++ (if s.persistent then "?persistent" else "").toList) := by
  have hmark : '@' ∉ (if s.persistent then "?persistent" else "").toList := by
    cases s.persistent
    · exact List.not_mem_nil
    · show '@' ∉ ['?', 'p', 'e', 'r', 's', 'i', 's', 't', 'e', 'n', 't']
      decide
  rw [toList_connectionId]
  refine Text.splitLast?_append (by decide) fun c hc => ?_
  rcases List.mem_append.1 hc with hc | hc
  · exact beq_false_of_ne (ne_of_mem_of_not_mem hc h.host)
  · exact beq_false_of_ne (ne_of_mem_of_not_mem hc hmark)

theorem sameConnection_of_connectionId_eq (h : s.Delimited) (h' : s'.Delimited)
    (hid : s.connectionId = s'.connectionId) : s.SameConnection s' := by
  -- the last at sign ends the credentials, and the first colon in them ends the user name
  have hsplit := h.splitLast?_connectionId
  rw [hid, h'.splitLast?_connectionId, Option.some.injEq, Prod.mk.injEq] at hsplit
  obtain ⟨hcredentials, hhost⟩ := hsplit
  obtain ⟨husername, hpassword⟩ := append_cons_inj h'.username h.username hcredentials
  have hparts : s.host.getD "" = s'.host.getD "" ∧ s.persistent = s'.persistent := by
    cases hp : s.persistent <;> cases hp' : s'.persistent <;> rw [hp, hp'] at hhost
    · exact ⟨(String.toList_inj.1 (List.append_cancel_right hhost)).symm, rfl⟩
    · exact absurd ⟨_, hhost.trans (List.append_nil _)⟩ h.host_end
    · exact absurd ⟨_, hhost.symm.trans (List.append_nil _)⟩ h'.host_end
    · exact ⟨(String.toList_inj.1 (List.append_cancel_right hhost)).symm, rfl⟩
  exact ⟨hparts.1, (String.toList_inj.1 husername).symm, (String.toList_inj.1 hpassword).symm,
    hparts.2⟩

end OneTable.Settings
