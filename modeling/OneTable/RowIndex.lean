import OneTable.Row

/-!
# Rows under keys

Rows are put under the text of one column. A text that is taken already gets the first free of the
suffixes `_1`, `_2` and so on, which are counted in 32 bits with a sign. A row without such a text
gets a number, the next above all numbers used as keys so far, and after the largest of 64 bits the
first that is free.
-/

namespace OneTable.RowIndex

/-- The first key that is free among `n + 1` candidates: with `n` keys taken and all candidates
different, there always is one. -/
def firstFree {α : Type} (taken : Fields Row) (name : α → String) : List α → Option α
  | [] => none
  | a :: as => if taken.contains (name a) then firstFree taken name as else some a

def suffixed (key : String) (i : Int) : String := key ++ "_" ++ toString i

/-- The `n`-th suffix. The counter has 32 bits and a sign: it starts with `1`, goes on with the
least number after the largest and comes to `0` last. A search that finds all of them taken does not
end; the numbers behind stand for that, and more than `Int32.size` rows come before it. -/
def suffix (n : Nat) : Int := if n ≤ Int32.size then (Int32.ofNat n).toInt else n

/-- The key of a row whose text is `key`. -/
def keyFor (taken : Fields Row) (key : String) : String :=
  if taken.contains key then
    let candidates := (List.range (taken.size + 1)).map fun n => suffix (n + 1)
    suffixed key ((firstFree taken (suffixed key) candidates).getD (suffix (taken.size + 1)))
  else key

/-- The number of a row without a text, from `next` on and around after the largest. -/
def positionFor (taken : Fields Row) (next : UInt64) : UInt64 :=
  let candidates := (List.range (taken.size + 1)).map fun (i : Nat) => next + UInt64.ofNat i
  (firstFree taken (fun (u : UInt64) => toString u.toNat) candidates).getD next

/-- The rows placed so far and the least number to try for a row without a text. -/
structure State where
  placed : Fields Row := {}
  next : UInt64 := 0

/-- One above the number, which stays where it is at the largest. -/
def successor (n : UInt64) : UInt64 := if n = UInt64.ofNat (UInt64.size - 1) then n else n + 1

def State.place (s : State) (column : String) (row : Row) : State :=
  let (key, next) := match row.text? column with
    | some key => (keyFor s.placed key, s.next)
    | none =>
      let n := positionFor s.placed s.next
      (toString n.toNat, n)
  let next := match Number.uint64Of key.toList with
    | .ok n => max next (successor n)
    | .error _ => next
  ⟨s.placed.insert key row, next⟩

/-- All rows under their keys, in order. -/
def ofRows (rows : List Row) (column : String) : Fields Row :=
  (rows.foldl (fun (s : State) row => s.place column row) {}).placed

end OneTable.RowIndex
