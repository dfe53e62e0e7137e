import OneTable.Number.Integer
import OneTable.Text.Split

/-!
# Punycode

A label can be written in ASCII alone: its ASCII characters first, then a hyphen, then one number
for each other character, in ascending order of code points. A number says how many steps lie
between the character before and this one, where the steps run through all places of the label for
one code point and then through those for the next.

A number is a run of digits to the base 36, the lowest first. The digit that lies below the
threshold of its place ends the run, and the thresholds follow the size of the numbers before.
-/

namespace OneTable.Domain.Punycode

/-- Letters are the digits up to 25, in either case, and decimal digits go on from there. -/
def digit? (c : Char) : Option Nat :=
  if c.isDigit then some (c.toNat - '0'.toNat + 26)
  else if c.isAlpha then some (c.toLower.toNat - 'a'.toNat)
  else none

/-- The threshold at a place, which is counted by 36. -/
def threshold (place bias : Nat) : Nat := min 26 (max 1 (place - bias))

/-- Divides a step size down to the range that one place covers, and counts places by 36. -/
def scaledDown (delta places : Nat) : Nat :=
  if h : 455 < delta then scaledDown (delta / 35) (places + 36)
  else places + 36 * delta / (delta + 38)
  termination_by delta
  decreasing_by exact Nat.div_lt_self (by omega) (by omega)

/-- The bias after a number, given how many characters there are with it. -/
def nextBias (number count : Nat) (isFirst : Bool) : Nat :=
  let delta := if isFirst then number / 700 else number / 2
  scaledDown (delta + delta / count) 0

/-- The label so far, and the number that is being read. -/
structure State where
  label : List Char
  codePoint : Nat := 128
  /-- The place in the label from which the next number counts. -/
  start : Nat := 0
  bias : Nat := 72
  number : Nat := 0
  weight : Nat := 1
  place : Nat := 36

/-- Puts in the character that a number leads to. -/
def State.insert? (s : State) (number : Nat) : Option State :=
  let count := s.label.length + 1
  let steps := s.start + number
  let codePoint := s.codePoint + steps / count
  if codePoint.isValidChar then
    some
      { label := s.label.insertIdx (steps % count) (Char.ofNat codePoint)
        codePoint
        start := steps % count + 1
        bias := nextBias number count (s.start == 0) }
  else none

def State.read? (s : State) (c : Char) : Option State := do
  let digit ← digit? c
  let number := s.number + digit * s.weight
  let least := threshold s.place s.bias
  if digit < least then s.insert? number
  else some { s with number, weight := s.weight * (36 - least), place := s.place + 36 }

/-- The label that a text stands for. -/
def decode? (cs : List Char) : Option (List Char) := do
  let (label, digits) := match Text.splitLast? (· == '-') cs with
    | some (c :: before, digits) => (c :: before, digits)
    | _ => ([], cs)
  let s ← digits.foldlM State.read? { label }
  if s.place = 36 then some s.label else none

end OneTable.Domain.Punycode
