import OneTable.Number.Integer
import OneTable.Text.Split

/-!
# Tables of code points

A long table is written as a text: words with blanks or line ends between them, and numbers in
hexadecimal digits.
-/

namespace OneTable.Text

def words (s : String) : List (List Char) :=
  let split (c : Char) (parts : List (List Char)) : List (List Char) :=
    if c == ' ' || c == '\n' then [] :: parts
    else match parts with
      | [] => [[c]]
      | part :: parts => (c :: part) :: parts
  (s.toList.foldr split []).filter fun word => !word.isEmpty

def hexadecimal (ds : List Char) : Nat :=
  ds.foldl (fun n d => n * 16 + (Number.hexValue? d).getD 0) 0

/-- A table of boundaries, one to a word. -/
def boundaries (s : String) : List Nat := (words s).map hexadecimal

/-- Membership in the class that changes at each of the boundaries, starting outside. -/
def isWithin (bounds : List Nat) (n : Nat) : Bool :=
  (bounds.takeWhile (· ≤ n)).length % 2 == 1

/-- A table of steps; a word is a boundary, a colon and the value that holds from there on. -/
def steps (s : String) : List (Nat × Nat) :=
  (words s).map fun word =>
    (hexadecimal (word.takeWhile (· ≠ ':')), hexadecimal ((word.dropWhile (· ≠ ':')).drop 1))

/-- The value that holds at a place, and zero before the first boundary. -/
def stepAt (table : List (Nat × Nat)) (n : Nat) : Nat :=
  ((table.takeWhile fun e => e.1 ≤ n).getLast?.map Prod.snd).getD 0

end OneTable.Text
