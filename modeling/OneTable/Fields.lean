/-!
# Named entries in order of arrival

A list of entries with pairwise distinct names. An entry whose name is new goes to the end; one
whose name is taken replaces the old entry in its place (`names_upsert`). So a name keeps its first
position and its last value.
-/

namespace OneTable

universe u

variable {α : Type u}

/-- Puts `a` in the place of the entry of the same name, or at the end. -/
def upsert (name : α → String) (a : α) : List α → List α
  | [] => [a]
  | b :: bs => if name b = name a then a :: bs else b :: upsert name a bs

theorem names_upsert (name : α → String) (a : α) (l : List α) :
    (upsert name a l).map name =
      if name a ∈ l.map name then l.map name else l.map name ++ [name a] := by
  induction l with
  | nil => simp [upsert]
  | cons b bs ih =>
    by_cases h : name b = name a
    · simp [upsert, h]
    · have h' : ¬ name a = name b := fun e => h e.symm
      rw [upsert, if_neg h, List.map_cons, ih]
      by_cases hm : name a ∈ bs.map name <;> simp [hm, h']

/-- An entry under a new name goes to the end. -/
theorem upsert_of_notMem {name : α → String} {a : α} {l : List α} (h : name a ∉ l.map name) :
    upsert name a l = l ++ [a] := by
  induction l with
  | nil => rfl
  | cons b bs ih =>
    rw [List.map_cons, List.mem_cons, not_or] at h
    rw [upsert, if_neg (Ne.symm h.1), ih h.2, List.cons_append]

theorem nodup_append_new {names : List String} (name : String) (h : names.Nodup) :
    (if name ∈ names then names else names ++ [name]).Nodup := by
  split
  · exact h
  · rename_i hm
    refine List.nodup_append.2 ⟨h, by simp, ?_⟩
    rintro x hx y hy rfl
    exact hm (List.mem_singleton.1 hy ▸ hx)

theorem nodup_upsert {name : α → String} (a : α) {l : List α} (h : (l.map name).Nodup) :
    ((upsert name a l).map name).Nodup := by
  rw [names_upsert]
  exact nodup_append_new _ h

theorem map_upsert {β : Type u} (name : α → String) (name' : β → String) (f : α → β)
    (hname : ∀ a, name' (f a) = name a) (a : α) (l : List α) :
    (upsert name a l).map f = upsert name' (f a) (l.map f) := by
  induction l with
  | nil => rfl
  | cons b bs ih =>
    rw [upsert, List.map_cons, upsert, hname, hname]
    split
    · rfl
    · rw [List.map_cons, ih]

theorem find?_upsert (a : String × α) (l : List (String × α)) (name : String) :
    (upsert Prod.fst a l).find? (fun e => e.1 == name) =
      if a.1 = name then some a else l.find? fun e => e.1 == name := by
  induction l with
  | nil => by_cases h : a.1 = name <;> simp [upsert, h]
  | cons e es ih =>
    by_cases h : a.1 = name <;> by_cases he : e.1 = a.1 <;> simp_all [upsert, List.find?_cons]

theorem find?_of_mem {name : α → String} {l : List α} (h : (l.map name).Nodup) {a : α}
    (ha : a ∈ l) : l.find? (fun b => name b == name a) = some a := by
  induction l with
  | nil => cases ha
  | cons b bs ih =>
    rw [List.map_cons, List.nodup_cons] at h
    rcases List.mem_cons.1 ha with rfl | ha
    · simp
    · have hne : name b ≠ name a := fun heq => h.1 (heq ▸ List.mem_map_of_mem ha)
      rw [List.find?_cons, beq_false_of_ne hne]
      exact ih h.2 ha

/-- Values under pairwise distinct names, in order. -/
structure Fields (α : Type u) where
  toList : List (String × α)
  distinct : (toList.map Prod.fst).Nodup

namespace Fields

@[ext] theorem ext {f g : Fields α} (h : f.toList = g.toList) : f = g := by
  cases f; cases g; cases h; rfl

def empty : Fields α := ⟨[], List.nodup_nil⟩

instance : Inhabited (Fields α) := ⟨empty⟩

instance : EmptyCollection (Fields α) := ⟨empty⟩

def insert (f : Fields α) (name : String) (a : α) : Fields α :=
  ⟨upsert Prod.fst (name, a) f.toList, nodup_upsert _ f.distinct⟩

def ofList (l : List (String × α)) : Fields α := l.foldl (fun f e => f.insert e.1 e.2) empty

def get? (f : Fields α) (name : String) : Option α :=
  (f.toList.find? fun e => e.1 == name).map Prod.snd

def contains (f : Fields α) (name : String) : Bool := f.toList.any fun e => e.1 == name

def names (f : Fields α) : List String := f.toList.map Prod.fst

def values (f : Fields α) : List α := f.toList.map Prod.snd

def size (f : Fields α) : Nat := f.toList.length

def isEmpty (f : Fields α) : Bool := f.toList.isEmpty

theorem length_names (f : Fields α) : f.names.length = f.size := List.length_map ..

theorem length_values (f : Fields α) : f.values.length = f.size := List.length_map ..

theorem toList_ofList_singleton (name : String) (a : α) :
    (ofList [(name, a)]).toList = [(name, a)] := rfl

theorem get?_insert (f : Fields α) (name name' : String) (a : α) :
    (f.insert name a).get? name' = if name = name' then some a else f.get? name' := by
  rw [get?, get?, insert, find?_upsert]
  split <;> rfl

theorem contains_eq_true_iff {f : Fields α} {name : String} :
    f.contains name = true ↔ name ∈ f.names := by
  simp [contains, names]

theorem get?_eq_none_iff {f : Fields α} {name : String} : f.get? name = none ↔ name ∉ f.names := by
  rw [get?, Option.map_eq_none_iff, List.find?_eq_none, names, List.mem_map]
  simp only [beq_iff_eq, not_exists, not_and]

/-- A name stands for one value. -/
theorem get?_eq_some_iff {f : Fields α} {name : String} {a : α} :
    f.get? name = some a ↔ (name, a) ∈ f.toList := by
  rw [get?, Option.map_eq_some_iff]
  constructor
  · rintro ⟨⟨n, b⟩, hfind, rfl⟩
    have hname := List.find?_some hfind
    obtain rfl : n = name := beq_iff_eq.1 hname
    exact List.mem_of_find?_eq_some hfind
  · intro hmem
    exact ⟨(name, a), find?_of_mem f.distinct hmem, rfl⟩

/-- What is looked up does not depend on the order. -/
theorem get?_eq_of_perm {f g : Fields α} (h : f.toList.Perm g.toList) (name : String) :
    f.get? name = g.get? name := by
  ext a
  rw [get?_eq_some_iff, get?_eq_some_iff, h.mem_iff]

theorem toList_foldl_insert {l : List (String × α)} {f : Fields α}
    (h : ((f.toList ++ l).map Prod.fst).Nodup) :
    (l.foldl (fun f e => f.insert e.1 e.2) f).toList = f.toList ++ l := by
  induction l generalizing f with
  | nil => simp
  | cons e l ih =>
    have hnew : e.1 ∉ f.toList.map Prod.fst := by
      rw [List.map_append, List.map_cons, List.nodup_append] at h
      exact fun hmem => h.2.2 _ hmem _ List.mem_cons_self rfl
    have hinsert : (f.insert e.1 e.2).toList = f.toList ++ [e] := upsert_of_notMem hnew
    rw [List.foldl_cons, ih (by rw [hinsert, List.append_assoc]; exact h), hinsert,
      List.append_assoc, List.singleton_append]

/-- Entries with distinct names are kept as they come. -/
theorem toList_ofList {l : List (String × α)} (h : (l.map Prod.fst).Nodup) :
    (ofList l).toList = l := by
  have hempty : (empty : Fields α).toList = [] := rfl
  rw [ofList, toList_foldl_insert (by rwa [hempty, List.nil_append]), hempty, List.nil_append]

end Fields

end OneTable
