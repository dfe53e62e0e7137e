import OneTable.Json.Basic
import OneTable.Number.FloatText

/-!
# Reading JSON

A document is one value with blanks around it. Objects come out with their members in ascending
order of names.

A number that is no integer of 64 bits is read in two steps, each rounded to a double: its leading
digits, as many as 64 bits hold, and then the power of ten that scales them. A number beyond the
largest double is refused.
-/

namespace OneTable.Json

/-- Digits added behind the number `n` as long as it fits 64 bits, and the digits left over. -/
def absorb (n : Nat) : List Char → Nat × List Char
  | [] => (n, [])
  | c :: cs =>
    let m := n * 10 + Number.digitValue c
    if m < 0x10000000000000000 then absorb m cs else (n, c :: cs)

/-- Scales by `10 ^ e` where no power beyond `10 ^ 308` is at hand; a larger division is done in
steps, of which a few reach zero. -/
def scaled? : (steps : Nat) → Float → Int → Option Float
  | steps, x, e =>
    if e.natAbs ≤ 308 then
      let power := Float.ofScientific 1 false e.natAbs
      if 0 ≤ e then
        let y := x * power
        if y.isInf then none else some y
      else some (x / power)
    else if x == 0.0 then some x
    else if 0 ≤ e then none
    else match steps with
      | 0 => some 0.0
      | steps + 1 => scaled? steps (x / Float.ofScientific 1 false 308) (e + 308)

/-- A number from its parts: the sign, the digits before and behind the point, and the exponent. -/
def numeral? (negative : Bool) (whole : List Char) (fraction? : Option (List Char))
    (exponent? : Option Int) : Option Json :=
  let n := Number.natOfDigits whole
  let signed (x : Float) : Json := ofFloat (if negative then -x else x)
  match fraction?, exponent? with
  | none, none =>
    if negative then
      if h : n ≤ 0x8000000000000000 ∧ n ≠ 0 then some (.integer (-(n : Int)) ⟨by omega, by omega⟩)
      else if n < 0x10000000000000000 then some (signed n.toFloat)
      else scaledDigits signed whole [] 0
    else if h : n < 0x10000000000000000 then some (.integer n ⟨by omega, by omega⟩)
    else scaledDigits signed whole [] 0
  | _, _ => scaledDigits signed whole (fraction?.getD []) (exponent?.getD 0)
where
  scaledDigits (signed : Float → Json) (whole fraction : List Char) (e : Int) : Option Json :=
    let (n, extra) := absorb 0 whole
    let (n, unused) := absorb n fraction
    let e := e + extra.length - (fraction.length - unused.length : Nat)
    (scaled? 4 n.toFloat e).map signed

def skipBlanks (cs : List Char) : List Char :=
  cs.dropWhile fun c => c == ' ' || c == '\n' || c == '\r' || c == '\t'

/-- An exponent part behind its letter, and what follows it. -/
def exponent? (cs : List Char) : Option (Int × List Char) :=
  let (negative, rest) := match cs with
    | '-' :: rest => (true, rest)
    | '+' :: rest => (false, rest)
    | rest => (false, rest)
  let ds := rest.takeWhile Char.isDigit
  if ds.isEmpty then none
  else
    let e := Int.ofNat (Number.natOfDigits ds)
    some (if negative then -e else e, rest.dropWhile Char.isDigit)

def number? (cs : List Char) : Option (Json × List Char) := do
  let (negative, cs) := match cs with
    | '-' :: rest => (true, rest)
    | rest => (false, rest)
  let whole := cs.takeWhile Char.isDigit
  let rest := cs.dropWhile Char.isDigit
  if whole.isEmpty || (whole.head? == some '0' && 1 < whole.length) then none
  else
    let (fraction, rest) ← match rest with
      | '.' :: rest =>
        let ds := rest.takeWhile Char.isDigit
        if ds.isEmpty then none else some (some ds, rest.dropWhile Char.isDigit)
      | rest => some (none, rest)
    let (e, rest) ← match rest with
      | 'e' :: rest => (exponent? rest).map fun (e, rest) => (some e, rest)
      | 'E' :: rest => (exponent? rest).map fun (e, rest) => (some e, rest)
      | rest => some (none, rest)
    let j ← numeral? negative whole fraction e
    some (j, rest)

/-- Four hexadecimal digits, and what follows them. -/
def unit? : List Char → Option (Nat × List Char)
  | a :: b :: c :: d :: rest => do
    let a ← Number.hexValue? a
    let b ← Number.hexValue? b
    let c ← Number.hexValue? c
    let d ← Number.hexValue? d
    some (((a * 16 + b) * 16 + c) * 16 + d, rest)
  | _ => none

/-- The character of an escape behind its backslash; a pair of surrogates makes one character. -/
def escape? : List Char → Option (Char × List Char)
  | 'u' :: rest => do
    let (high, rest) ← unit? rest
    if high < 0xd800 || 0xdfff < high then some (Char.ofNat high, rest)
    else if 0xdbff < high then none
    else match rest with
      | '\\' :: 'u' :: rest => do
        let (low, rest) ← unit? rest
        if low < 0xdc00 || 0xdfff < low then none
        else some (Char.ofNat (0x10000 + (high - 0xd800) * 0x400 + (low - 0xdc00)), rest)
      | _ => none
  | '\x22' :: rest => some ('\x22', rest)
  | '\\' :: rest => some ('\\', rest)
  | '/' :: rest => some ('/', rest)
  | 'b' :: rest => some ('\x08', rest)
  | 'f' :: rest => some ('\x0c', rest)
  | 'n' :: rest => some ('\n', rest)
  | 'r' :: rest => some ('\r', rest)
  | 't' :: rest => some ('\t', rest)
  | _ => none

/-- A string behind its opening quote; `read` holds its characters so far, the last first. -/
def string? : (fuel : Nat) → (read : List Char) → List Char → Option (String × List Char)
  | 0, _, _ => none
  | fuel + 1, read, cs =>
    match cs with
    | [] => none
    | '\x22' :: rest => some (String.ofList read.reverse, rest)
    | '\\' :: rest => do
      let (c, rest) ← escape? rest
      string? fuel (c :: read) rest
    | c :: rest => if c.toNat < 0x20 then none else string? fuel (c :: read) rest

mutual

/-- A value, and what follows it. Every step of the reader uses up a character or closes a value,
so the fuel that `parse?` gives is never used up. -/
def value? : (fuel : Nat) → List Char → Option (Json × List Char)
  | 0, _ => none
  | fuel + 1, cs =>
    match skipBlanks cs with
    | 'n' :: 'u' :: 'l' :: 'l' :: rest => some (.null, rest)
    | 't' :: 'r' :: 'u' :: 'e' :: rest => some (.bool true, rest)
    | 'f' :: 'a' :: 'l' :: 's' :: 'e' :: rest => some (.bool false, rest)
    | '\x22' :: rest => (string? (rest.length + 1) [] rest).map fun (s, rest) => (.string s, rest)
    | '[' :: rest =>
      match skipBlanks rest with
      | ']' :: rest => some (.array [], rest)
      | rest => (items? fuel rest).map fun (items, rest) => (.array items, rest)
    | '\x7b' :: rest =>
      match skipBlanks rest with
      | '\x7d' :: rest => some (.object [], rest)
      | rest => (members? fuel rest).map fun (members, rest) => (ofMembers members, rest)
    | rest => number? rest

/-- The items of an array that is not empty, up to and with its closing bracket. -/
def items? : (fuel : Nat) → List Char → Option (List Json × List Char)
  | 0, _ => none
  | fuel + 1, cs => do
    let (item, rest) ← value? fuel cs
    match skipBlanks rest with
    | ',' :: rest => (items? fuel rest).map fun (items, rest) => (item :: items, rest)
    | ']' :: rest => some ([item], rest)
    | _ => none

/-- The members of an object that is not empty, up to and with its closing brace. -/
def members? : (fuel : Nat) → List Char → Option (List (String × Json) × List Char)
  | 0, _ => none
  | fuel + 1, cs =>
    match skipBlanks cs with
    | '\x22' :: rest => do
      let (name, rest) ← string? (rest.length + 1) [] rest
      match skipBlanks rest with
      | ':' :: rest => do
        let (j, rest) ← value? fuel rest
        match skipBlanks rest with
        | ',' :: rest => (members? fuel rest).map fun (more, rest) => ((name, j) :: more, rest)
        | '\x7d' :: rest => some ([(name, j)], rest)
        | _ => none
      | _ => none
    | _ => none

end

def parse? (s : String) : Option Json := do
  let cs := s.toList
  let (j, rest) ← value? (2 * cs.length + 2) cs
  if (skipBlanks rest).isEmpty then some j else none

end OneTable.Json
