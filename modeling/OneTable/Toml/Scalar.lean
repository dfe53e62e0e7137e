import OneTable.Number.FloatText
import OneTable.Text.Split
import OneTable.Toml.Basic

/-!
# Scalars of a TOML document

Truth values, numbers and moments. Digits may be grouped by single underscores, and a decimal number
starts with `0` only if that is its whole integer part. An integer has to fit 64 bits with a sign,
and a number that is too large for a double is refused.
-/

namespace OneTable.Toml

/-- Digits without the underscores that group them. -/
def ungrouped? (isDigit : Char → Bool) (cs : List Char) : Option (List Char) :=
  let groups := Text.pieces (· == '_') cs
  if groups.all fun g => !g.isEmpty && g.all isDigit then some groups.flatten else none

def splitSign : List Char → Bool × List Char
  | '-' :: cs => (true, cs)
  | '+' :: cs => (false, cs)
  | cs => (false, cs)

/-- The digits of a decimal number before its point, without a superfluous zero. -/
def whole? (cs : List Char) : Option (List Char) := do
  let ds ← ungrouped? Char.isDigit cs
  if ds.head? == some '0' && 1 < ds.length then none else some ds

def inBase? (base : Nat) (cs : List Char) : Option Int := do
  let inRange (c : Char) : Bool := (Number.hexValue? c).any (· < base)
  let ds ← ungrouped? inRange cs
  some (Int.ofNat (ds.foldl (fun n c => n * base + (Number.hexValue? c).getD 0) 0))

def integer? (cs : List Char) : Option Int64 := do
  let n ← match cs with
    | '0' :: 'x' :: ds => inBase? 16 ds
    | '0' :: 'o' :: ds => inBase? 8 ds
    | '0' :: 'b' :: ds => inBase? 2 ds
    | cs => do
      let (negative, ds) := splitSign cs
      let n := Int.ofNat (Number.natOfDigits (← whole? ds))
      some (if negative then -n else n)
  Number.int64Of? n

/-- A float without its sign: a whole number with a fraction, an exponent or both. -/
def floatDigits? (cs : List Char) : Option (List Char) := do
  let isExponent (c : Char) : Bool := c == 'e' || c == 'E'
  let mantissa := cs.takeWhile fun c => !isExponent c
  let exponent := cs.drop mantissa.length
  let whole := mantissa.takeWhile (· ≠ '.')
  let fraction := mantissa.drop whole.length
  if fraction.isEmpty && exponent.isEmpty then none
  else
    let w ← whole? whole
    let f ← match fraction with
      | [] => some []
      | point :: ds => (ungrouped? Char.isDigit ds).map (point :: ·)
    let e ← match exponent with
      | [] => some []
      | mark :: ds =>
        let (negative, ds) := splitSign ds
        (ungrouped? Char.isDigit ds).map fun ds => mark :: (if negative then '-' :: ds else ds)
    some (w ++ f ++ e)

def float? (cs : List Char) : Option Float := do
  let (negative, cs) := splitSign cs
  let signed (x : Float) : Float := if negative then -x else x
  if cs == ['i', 'n', 'f'] then some (signed (1.0 / 0.0))
  else if cs == ['n', 'a', 'n'] then some (signed (0.0 / 0.0))
  else
    match Number.floatOf (← floatDigits? cs) with
    | .ok x => if x.isInf then none else some (signed x)
    | .error _ => none

/-- A character of a scalar that is no string. -/
def isScalarChar (c : Char) : Bool :=
  c.isAlphanum || c == '_' || c == '+' || c == '-' || c == '.' || c == ':'

def ofWord? (cs : List Char) : Option Toml :=
  if cs == ['t', 'r', 'u', 'e'] then some (.boolean true)
  else if cs == ['f', 'a', 'l', 's', 'e'] then some (.boolean false)
  else match Moment.read? cs with
    | some m => some (.moment m)
    | none =>
      match integer? cs with
      | some n => some (.integer n)
      | none => (float? cs).map .float

/-- A scalar that is no string, and what follows it. A date takes a time behind one space along. -/
def scalar? (cs : List Char) : Option (Toml × List Char) :=
  let word := cs.takeWhile isScalarChar
  let rest := cs.dropWhile isScalarChar
  match Date.read? word, rest with
  | some (_, []), ' ' :: c :: more =>
    if c.isDigit then
      let time := (c :: more).takeWhile isScalarChar
      (ofWord? (word ++ ' ' :: time)).map fun v => (v, (c :: more).dropWhile isScalarChar)
    else (ofWord? word).map fun v => (v, rest)
  | _, _ => (ofWord? word).map fun v => (v, rest)

end OneTable.Toml
