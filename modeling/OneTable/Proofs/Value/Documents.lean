import OneTable.Value

/-!
# Documents as values and back

A document becomes a value item by item; only an object has no value of its own and becomes its
compact text. Written again, the value is the document with every object that stands in no other one
replaced by a string (`document_returns`). So a document comes back unchanged exactly if no object
stands in it. An integer keeps its number whether or not it fits with a sign, and a number that is
finite is not lost.
-/

namespace OneTable

namespace Json

variable {i j : Json} {items : List Json}

/-- Induction on how deep arrays stand in a document, whatever its objects hold. -/
@[elab_as_elim]
theorem arrayInduction {p : Json → Prop} (scalar : ∀ j, (∀ items, j ≠ .array items) → p j)
    (array : ∀ items, (∀ j ∈ items, p j) → p (.array items)) : ∀ j, p j
  | .null => scalar _ nofun
  | .bool _ => scalar _ nofun
  | .integer _ _ => scalar _ nofun
  | .float _ => scalar _ nofun
  | .string _ => scalar _ nofun
  | .object _ => scalar _ nofun
  | .array items => array items fun j _ => arrayInduction scalar array j

/-! ### What stands in a document -/

/-- `i` is the document itself or stands in it at any depth. -/
inductive Within (i : Json) : Json → Prop
  | refl : Within i i
  | item {j : Json} {items : List Json} (hj : j ∈ items) (h : Within i j) : Within i (.array items)
  | member {e : String × Json} {members : List (String × Json)} (he : e ∈ members)
    (h : Within i e.2) : Within i (.object members)

/-- Every number with a point or an exponent that stands in the document is finite. -/
def Finite (j : Json) : Prop := ∀ x : Float, (Json.float x).Within j → x.isFinite = true

/-- No object stands in the document. -/
def WithoutObjects (j : Json) : Prop := ∀ members, ¬ (Json.object members).Within j

/-- What is no array stands in an array only by standing in its items. -/
theorem forall_within_array_iff {α : Type} {f : α → Json} (hf : ∀ a items, f a ≠ .array items)
    {p : α → Prop} :
    (∀ a, (f a).Within (.array items) → p a) ↔ ∀ j ∈ items, ∀ a, (f a).Within j → p a := by
  constructor
  · exact fun h j hj a ha => h a (.item hj ha)
  · intro h a ha
    generalize hi : f a = i at ha
    cases ha with
    | refl => exact absurd hi (hf a items)
    | item hj hin => exact h _ hj a (hi ▸ hin)

theorem finite_array_iff : (Json.array items).Finite ↔ ∀ j ∈ items, j.Finite :=
  forall_within_array_iff nofun

theorem withoutObjects_array_iff :
    (Json.array items).WithoutObjects ↔ ∀ j ∈ items, j.WithoutObjects :=
  forall_within_array_iff nofun

/-! ### Objects as text -/

mutual

/-- The document with its outermost objects replaced by strings that hold their compact text. -/
def objectsAsText : Json → Json
  | .array items => .array (objectsAsTexts items)
  | .object members => .string (Json.object members).text
  | j => j

def objectsAsTexts : List Json → List Json
  | [] => []
  | j :: js => j.objectsAsText :: objectsAsTexts js

end

theorem objectsAsTexts_eq_map (items : List Json) :
    objectsAsTexts items = items.map objectsAsText := by
  induction items with
  | nil => rfl
  | cons j items ih => rw [objectsAsTexts, ih, List.map_cons]

/-- The replacement leaves a document alone exactly if there is nothing to replace. -/
theorem objectsAsText_eq_self_iff (j : Json) : j.objectsAsText = j ↔ j.WithoutObjects := by
  induction j using arrayInduction with
  | scalar j hj =>
    cases j with
    | array items => exact absurd rfl (hj items)
    | object members =>
      exact iff_of_false (fun h => by cases h) fun h => h members .refl
    | _ => exact iff_of_true rfl (by rintro _ ⟨⟩)
  | array items ih =>
    have hmap : items.map objectsAsText = items.map id ↔ ∀ j ∈ items, j.objectsAsText = j :=
      List.map_inj_left
    rw [List.map_id] at hmap
    rw [objectsAsText, objectsAsTexts_eq_map, array.injEq, hmap, withoutObjects_array_iff]
    exact ⟨fun h j hj => (ih j hj).1 (h j hj), fun h j hj => (ih j hj).2 (h j hj)⟩

end Json

namespace Value

theorem toJsons_eq_map (vs : List Value) : toJsons vs = vs.map toJson := by
  induction vs with
  | nil => rfl
  | cons v vs ih => rw [toJsons, ih, List.map_cons]

theorem ofJsons_eq_map (items : List Json) : ofJsons items = items.map ofJson := by
  induction items with
  | nil => rfl
  | cons j items ih => rw [ofJsons, ih, List.map_cons]

theorem toJson_ofInteger (n : Int) (fits : -0x8000000000000000 ≤ n ∧ n < 0x10000000000000000) :
    (ofInteger n fits).toJson = .integer n fits := by
  rw [ofInteger]
  split
  · rw [toJson]
    simp
  · rw [toJson]
    simp
    omega

theorem toJson_float {x : Float} (h : x.isFinite = true) : (Value.float x).toJson = .float x := by
  rw [toJson, Json.ofFloat, if_pos h]

theorem toJson_ofJson {j : Json} (h : j.Finite) : (ofJson j).toJson = j.objectsAsText := by
  induction j using Json.arrayInduction with
  | scalar j hj =>
    cases j with
    | array items => exact absurd rfl (hj items)
    | integer n fits => exact toJson_ofInteger n fits
    | float x => exact toJson_float (h x .refl)
    | _ => rfl
  | array items ih =>
    have hitems := Json.finite_array_iff.1 h
    rw [ofJson, toJson, Json.objectsAsText, ofJsons_eq_map, toJsons_eq_map,
      Json.objectsAsTexts_eq_map, List.map_map]
    exact congrArg Json.array (List.map_congr_left fun j hj => ih j hj (hitems j hj))

/-- A document with finite numbers comes back from its value with its outermost objects as text,
and it comes back unchanged exactly if no object stands in it. -/
theorem document_returns (j : Json) (h : j.Finite) :
    (ofJson j).toJson = j.objectsAsText ∧ ((ofJson j).toJson = j ↔ j.WithoutObjects) := by
  rw [toJson_ofJson h]
  exact ⟨rfl, j.objectsAsText_eq_self_iff⟩

/-- The least integer that fits with a sign, the first and the last that only fit without one, a
number that is not whole, and an object that holds another, below two arrays. -/
theorem document_returns_nested :
    let numbers : Json := .array [.integer (-0x8000000000000000) (by decide),
      .integer 0x8000000000000000 (by decide), .integer 0xffffffffffffffff (by decide), .float 2.5]
    let inner : Json := .object [("a", .object [("b\x22", .array [])])]
    (ofJson (.array [numbers, .array [inner, .null]])).toJson = .array [numbers,
      .array [.string "\x7b\x22a\x22:\x7b\x22b\\\x22\x22:[]\x7d\x7d", .null]] ∧
    (ofJson numbers).toJson = numbers := by
  intro numbers inner
  have hnumbers : numbers.Finite := by
    refine Json.finite_array_iff.2 fun j hj x hx => ?_
    simp only [List.mem_cons, List.not_mem_nil, or_false] at hj
    rcases hj with rfl | rfl | rfl | rfl <;> cases hx
    decide
  have hinner : inner.Finite := by
    intro x hx
    simp only [inner] at hx
    rcases hx with _ | _ | ⟨he, hx⟩
    obtain rfl := List.mem_singleton.1 he
    rcases hx with _ | _ | ⟨he, hx⟩
    obtain rfl := List.mem_singleton.1 he
    rcases hx with _ | ⟨he, hx⟩
    cases he
  have hwhole : (Json.array [numbers, .array [inner, .null]]).Finite := by
    have hnull : Json.null.Finite := nofun
    simp only [Json.finite_array_iff, List.forall_mem_cons]
    exact ⟨hnumbers, ⟨hinner, hnull, nofun⟩, nofun⟩
  have htext : inner.text = "\x7b\x22a\x22:\x7b\x22b\\\x22\x22:[]\x7d\x7d" := by
    decide +kernel
  refine ⟨(document_returns _ hwhole).1.trans ?_, (document_returns _ hnumbers).2.2 ?_⟩
  · rw [← htext]
    rfl
  · exact (Json.objectsAsText_eq_self_iff _).1 rfl

end Value

end OneTable
