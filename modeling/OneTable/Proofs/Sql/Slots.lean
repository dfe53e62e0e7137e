import Mathlib.Data.List.Basic
import OneTable.Proofs.Sql.Reader
import OneTable.Text.Split

/-!
# What stands between commas

A list of values is written with commas between its items, and so is a list inside it: how deep an
item stands does not show. `Value.slots` says what stands between the commas of a value: the
constants of its scalars from left to right, and nothing in the place of an empty list
(`Value.slots_eq_leaves`, `Value.hole_mem_slots_iff`). Between brackets the slots read back one by
one (`Sql.readSlots_bracketed`).

A value takes up one slot and fills it exactly if it is a scalar or a list of one such value
(`Value.single_iff`).
-/

namespace OneTable

namespace Sql

/-! ### Slots -/

inductive Slot
  | hole
  | constant (k : Constant)
deriving DecidableEq, Repr

namespace Slot

def chars : Slot → List Char
  | .hole => []
  | .constant k => k.chars

end Slot

/-- A constant, if there is one. -/
def readSlot : Reader Slot := fun cs =>
  match readConstant cs with
  | some (k, rest) => some (.constant k, rest)
  | none => some (.hole, cs)

/-- A slot that stands before `rest` ends there. -/
def Closes (rest : List Char) : Prop := ∃ c ∈ [',', ')', ' '], rest.head? = some c

theorem closes_cons {c : Char} (h : c ∈ [',', ')', ' ']) (rest : List Char) : Closes (c :: rest) :=
  ⟨c, h, rfl⟩

namespace Closes

variable {rest : List Char}

theorem delimits (h : Closes rest) : Delimits rest := by
  obtain ⟨c, hc, hrest⟩ := h
  intro d hd
  cases hrest.symm.trans hd
  simp only [List.mem_cons, List.not_mem_nil, or_false] at hc
  rcases hc with rfl | rfl | rfl <;> decide

theorem readConstant_eq (h : Closes rest) : readConstant rest = none := by
  -- what closes a slot begins neither a bare run nor a text nor NULL
  have hrun : rest.takeWhile Literal.isBareChar = [] :=
    Text.takeWhile_append_of_head h.delimits.not_isBareChar []
  have hbare : Literal.isBare (String.ofList (rest.takeWhile Literal.isBareChar)) = false := by
    rw [hrun]
    decide
  obtain ⟨c, hc, hrest⟩ := h
  obtain ⟨cs, rfl⟩ : ∃ cs, rest = c :: cs := List.head?_eq_some_iff.1 hrest
  have htext : readText (c :: cs) = none := by
    rw [readText]
    rintro ds h
    cases h
    revert hc
    decide
  have hnull : skip ['N', 'U', 'L', 'L'] (c :: cs) = none := by
    rw [skip, if_neg]
    rintro rfl
    revert hc
    decide
  rw [readConstant, htext, hnull]
  simp only [hbare]
  rfl

end Closes

/-- A slot reads back before whatever closes it. -/
theorem readSlot_chars (s : Slot) {rest : List Char} (h : Closes rest) :
    readSlot (s.chars ++ rest) = some (s, rest) := by
  cases s with
  | hole => rw [Slot.chars, List.nil_append, readSlot, h.readConstant_eq]
  | constant k => rw [Slot.chars, readSlot, readConstant_chars k h.delimits]

def readSlots : Reader (List Slot) := fun cs => do
  let cs ← skip ['('] cs
  let (ss, cs) ← readSeparated [','] readSlot cs
  let cs ← skip [')'] cs
  return (ss, cs)

def bracketed (ss : List Slot) : List Char := '(' :: [','].intercalate (ss.map Slot.chars) ++ [')']

theorem readSlots_bracketed {ss : List Slot} (hss : ss ≠ []) (rest : List Char) :
    readSlots (bracketed ss ++ rest) = some (ss, rest) := by
  have hlist := readSeparated_intercalate [','] Closes (by simp) (closes_cons (by decide)) hss
    (fun s _ _ hrest => readSlot_chars s hrest) (closes_cons (c := ')') (by decide) rest) rfl
  rw [List.map_id'] at hlist
  have e : bracketed ss ++ rest =
      '(' :: ([','].intercalate (ss.map Slot.chars) ++ ')' :: rest) := by
    simp [bracketed]
  rw [e, readSlots]
  simp [hlist]

end Sql

namespace Value

open Sql

variable {t : Option ColumnType} {v : Value} {items : List Value}

/-! ### The slots of a value -/

mutual

/-- What a value puts between commas: a scalar its constant, a list what its items put there. A list
without items leaves its place empty. -/
def slots (t : Option ColumnType) : Value → List Slot
  | .list items => if items.isEmpty then [.hole] else slotsOf t items
  | v => [.constant (.ofValue t v)]

def slotsOf (t : Option ColumnType) : List Value → List Slot
  | [] => []
  | v :: vs => slots t v ++ slotsOf t vs

end

theorem slotsOf_eq_flatMap (t : Option ColumnType) (items : List Value) :
    slotsOf t items = items.flatMap (slots t) := by
  induction items with
  | nil => rfl
  | cons v items ih => rw [slotsOf, ih, List.flatMap_cons]

theorem slots_scalar (t : Option ColumnType) (hv : v.isList = false) :
    slots t v = [.constant (.ofValue t v)] := by
  cases v with
  | list items => cases hv
  | _ => rfl

theorem slots_list (t : Option ColumnType) (h : items ≠ []) :
    slots t (.list items) = items.flatMap (slots t) := by
  rw [slots, if_neg (by simpa using h), slotsOf_eq_flatMap]

theorem slots_ne_nil (t : Option ColumnType) (v : Value) : slots t v ≠ [] := by
  induction v using listInduction with
  | scalar v hv => simp [slots_scalar t hv]
  | list items ih =>
    cases items with
    | nil => simp [slots]
    | cons v vs =>
      rw [slots_list t (List.cons_ne_nil _ _), List.flatMap_cons]
      exact fun h => ih v List.mem_cons_self (List.append_eq_nil_iff.1 h).1

/-- The text of a value is its slots with commas between them. -/
theorem toList_literal (t : Option ColumnType) (v : Value) :
    (v.literal t).toList = [','].intercalate ((slots t v).map Slot.chars) := by
  induction v using listInduction with
  | scalar v hv => simp [slots_scalar t hv, Slot.chars, Constant.chars_ofValue t hv]
  | list items ih =>
    by_cases hitems : items = []
    · simp [hitems, literal, literals, slots, Slot.chars]
    · have hne : ∀ v ∈ items, (slots t v).map Slot.chars ≠ [] := fun v _ => by
        simpa using slots_ne_nil t v
      rw [literal, literals_eq_map, String.toList_intercalate, List.map_map, slots_list t hitems,
        List.map_flatMap, ← Text.intercalate_flatMap hne]
      exact congrArg _ (List.map_congr_left ih)

/-! ### Empty lists -/

/-- An empty list stands somewhere in the value. -/
inductive HasEmpty : Value → Prop
  | here : HasEmpty (.list [])
  | within {v : Value} {items : List Value} (hv : v ∈ items) (h : HasEmpty v) :
    HasEmpty (.list items)

theorem not_hasEmpty_scalar (hv : v.isList = false) : ¬ v.HasEmpty := by
  intro h
  cases h with
  | here => cases hv
  | within => cases hv

theorem hasEmpty_list_iff (h : items ≠ []) : (list items).HasEmpty ↔ ∃ v ∈ items, v.HasEmpty := by
  constructor
  · intro hempty
    cases hempty with
    | here => exact absurd rfl h
    | within hv hempty => exact ⟨_, hv, hempty⟩
  · rintro ⟨v, hv, hempty⟩
    exact .within hv hempty

theorem hole_mem_slots_iff (t : Option ColumnType) (v : Value) :
    .hole ∈ slots t v ↔ v.HasEmpty := by
  induction v using listInduction with
  | scalar v hv => exact iff_of_false (by simp [slots_scalar t hv]) (not_hasEmpty_scalar hv)
  | list items ih =>
    by_cases hitems : items = []
    · subst hitems
      exact iff_of_true (by simp [slots]) .here
    · rw [slots_list t hitems, List.mem_flatMap, hasEmpty_list_iff hitems]
      exact exists_congr fun v => and_congr_right fun hv => ih v hv

/-! ### The scalars of a value -/

mutual

/-- The scalars of a value from left to right, however deep they stand. -/
def leaves : Value → List Value
  | .list items => leavesOf items
  | v => [v]

def leavesOf : List Value → List Value
  | [] => []
  | v :: vs => leaves v ++ leavesOf vs

end

theorem leavesOf_eq_flatMap (items : List Value) : leavesOf items = items.flatMap leaves := by
  induction items with
  | nil => rfl
  | cons v items ih => rw [leavesOf, ih, List.flatMap_cons]

theorem leaves_scalar (hv : v.isList = false) : leaves v = [v] := by
  cases v with
  | list items => cases hv
  | _ => rfl

theorem isList_of_mem_leaves {l : Value} (h : l ∈ v.leaves) : l.isList = false := by
  induction v using listInduction with
  | scalar v hv =>
    rw [leaves_scalar hv, List.mem_singleton] at h
    rw [h, hv]
  | list items ih =>
    rw [leaves, leavesOf_eq_flatMap, List.mem_flatMap] at h
    obtain ⟨v, hv, hl⟩ := h
    exact ih v hv hl

/-- Without an empty list the slots are the constants of the scalars. -/
theorem slots_eq_leaves (t : Option ColumnType) (h : ¬ v.HasEmpty) :
    slots t v = v.leaves.map fun l => .constant (.ofValue t l) := by
  induction v using listInduction with
  | scalar v hv => rw [slots_scalar t hv, leaves_scalar hv, List.map_singleton]
  | list items ih =>
    have hitems : items ≠ [] := by
      rintro rfl
      exact h .here
    rw [slots_list t hitems, leaves, leavesOf_eq_flatMap, List.map_flatMap]
    exact List.flatMap_congr fun v hv => ih v hv fun hempty => h (.within hv hempty)

/-! ### Single values -/

/-- A scalar, or a list of one such value. -/
inductive Single : Value → Prop
  | scalar {v : Value} (hv : v.isList = false) : Single v
  | list {v : Value} (h : Single v) : Single (.list [v])

theorem single_list_iff : (list items).Single ↔ ∃ v, items = [v] ∧ v.Single := by
  constructor
  · intro h
    cases h with
    | scalar hv => cases hv
    | list h => exact ⟨_, rfl, h⟩
  · rintro ⟨v, rfl, h⟩
    exact .list h

end Value

/-- Parts that are never empty are at least as many together, and as many only if each is one. -/
theorem Sql.length_flatMap {α β : Type} {f : α → List β} {as : List α} (hf : ∀ a ∈ as, f a ≠ []) :
    as.length ≤ (as.flatMap f).length ∧
      ((as.flatMap f).length = as.length ↔ ∀ a ∈ as, (f a).length = 1) := by
  induction as with
  | nil => simp
  | cons a as ih =>
    obtain ⟨ha, has⟩ := List.forall_mem_cons.1 hf
    have ha : 0 < (f a).length := List.length_pos_iff.2 ha
    obtain ⟨hle, hiff⟩ := ih has
    simp only [List.flatMap_cons, List.length_append, List.length_cons, List.forall_mem_cons,
      ← hiff]
    omega

/-- A value takes up one slot and fills it exactly if it is a single one. -/
theorem Value.single_iff (t : Option ColumnType) (v : Value) :
    v.Single ↔ (slots t v).length = 1 ∧ .hole ∉ slots t v := by
  induction v using listInduction with
  | scalar v hv => exact iff_of_true (.scalar hv) (by simp [slots_scalar t hv])
  | list items ih =>
    rw [single_list_iff]
    match items with
    | [] => exact iff_of_false (by simp) (by simp [slots])
    | [v] =>
      rw [slots_list t (List.cons_ne_nil _ _), List.flatMap_singleton, ← ih v List.mem_cons_self]
      simp
    | u :: v :: vs =>
      have hle : (u :: v :: vs).length ≤ ((u :: v :: vs).flatMap (slots t)).length :=
        (Sql.length_flatMap fun v _ => slots_ne_nil t v).1
      rw [slots_list t (List.cons_ne_nil _ _)]
      simp only [List.length_cons] at hle
      exact iff_of_false (by simp) fun h => by omega

end OneTable
