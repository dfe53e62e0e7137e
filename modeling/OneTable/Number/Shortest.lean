/-!
# Shortest decimals of floating-point numbers

A finite double is an integer times a power of two. Of the decimals that a correctly rounding
reader takes back to it, `shortest` picks one with the fewest digits, and of those the nearest to
it. All comparisons are exact, in natural numbers.

A `Style` says how the digits are laid out: when an exponent is used, how it looks, and which way
the choice goes when two shortest decimals are equally near.
-/

namespace OneTable.Number

/-- A positive number `mantissa * 2 ^ exponent`. With `narrowBelow` the next double below is only
half as far away as the next above. -/
structure Binary where
  mantissa : Nat
  exponent : Int
  narrowBelow : Bool
deriving DecidableEq, Repr

/-- The number `digits * 10 ^ exponent`. -/
structure Decimal where
  digits : Nat
  exponent : Int
deriving DecidableEq, Repr

/-- Which of two equally near decimals is taken. -/
inductive Tie
  | away
  | even
deriving DecidableEq, Repr

namespace Binary

/-- The magnitude of a finite double other than zero, from its bits. -/
def ofBits (bits : Nat) : Binary :=
  let fraction : Nat := bits % 0x10000000000000
  let scale : Nat := bits / 0x10000000000000 % 0x800
  if scale = 0 then ⟨fraction, -1074, false⟩
  else ⟨fraction + 0x10000000000000, (scale : Int) - 1075, fraction = 0 && scale ≠ 1⟩

/-- Compares `d * 10 ^ k` with `n * 2 ^ q`. -/
def compareScaled (d : Nat) (k : Int) (n : Nat) (q : Int) : Ordering :=
  compare (d * Nat.pow 10 k.toNat * Nat.pow 2 (-q).toNat)
    (n * Nat.pow 2 q.toNat * Nat.pow 10 (-k).toNat)

/-- A correctly rounding reader takes the decimal back to this number. -/
def readsBack (b : Binary) (d : Decimal) : Bool :=
  let low := 4 * b.mantissa - (if b.narrowBelow then 1 else 2)
  let high := 4 * b.mantissa + 2
  let closed := b.mantissa % 2 == 0
  let above := compareScaled d.digits d.exponent low (b.exponent - 2)
  let below := compareScaled d.digits d.exponent high (b.exponent - 2)
  (above == .gt || closed && above == .eq) && (below == .lt || closed && below == .eq)

/-- The integer part of the number divided by `10 ^ k`. -/
def floorAt (b : Binary) (k : Int) : Nat :=
  (b.mantissa * Nat.pow 2 b.exponent.toNat * Nat.pow 10 (-k).toNat) /
    (Nat.pow 10 k.toNat * Nat.pow 2 (-b.exponent).toNat)

/-- The nearer of the two multiples of `10 ^ k` around the number, `d` and `d + 1` times. -/
def nearer (b : Binary) (tie : Tie) (d : Nat) (k : Int) : Nat :=
  match compareScaled (2 * d + 1) k (2 * b.mantissa) b.exponent with
  | .lt => d + 1
  | .gt => d
  | .eq => if tie = .even && d % 2 == 0 then d else d + 1

/-- A multiple of `10 ^ k` that reads back as the number, if there is one. -/
def onGrid? (b : Binary) (tie : Tie) (k : Int) : Option Decimal :=
  let d := b.floorAt k
  match b.readsBack ⟨d, k⟩, b.readsBack ⟨d + 1, k⟩ with
  | true, true => some ⟨b.nearer tie d k, k⟩
  | true, false => some ⟨d, k⟩
  | false, true => some ⟨d + 1, k⟩
  | false, false => none

/-- An exponent whose power of ten is above the number. -/
def ceiling (b : Binary) : Int :=
  let bits : Int := Nat.log2 b.mantissa + 1 + b.exponent
  if 0 ≤ bits then bits * 30103 / 100000 + 1 else -((-bits) * 30102 / 100000)

/-- Tries ever finer grids down from the first power of ten above the number. The number itself is
on the grid of `10 ^ exponent` when that is below one, and of `1` otherwise. -/
def shortest (b : Binary) (tie : Tie) : Decimal :=
  let top := b.ceiling
  let bottom := min b.exponent 0
  let grids := (List.range ((top - bottom).toNat + 1)).map fun (i : Nat) => top - Int.ofNat i
  (grids.findSome? (b.onGrid? tie)).getD ⟨b.floorAt bottom, bottom⟩

end Binary

/-- How a floating-point number is written. -/
structure Style where
  /-- No exponent is written when that of the leading digit satisfies this. -/
  plain : Int → Bool
  /-- A whole number is written with `.0` behind it. -/
  pointZero : Bool
  /-- An exponent that is not negative is written with `+`. -/
  plusExponent : Bool
  tie : Tie

/-- Digits with the point `places` digits from the right, which may lie outside of them. -/
def pointed (ds : List Char) (exponent : Int) (pointZero : Bool) : List Char :=
  if 0 ≤ exponent then
    ds ++ List.replicate exponent.toNat '0' ++ (if pointZero then ['.', '0'] else [])
  else
    let places := (-exponent).toNat
    if places < ds.length then ds.take (ds.length - places) ++ '.' :: ds.drop (ds.length - places)
    else '0' :: '.' :: List.replicate (places - ds.length) '0' ++ ds

/-- Digits with the point behind the first and an exponent. -/
def scientific (ds : List Char) (lead : Int) (plus : Bool) : List Char :=
  let fraction := ds.drop 1
  ds.take 1 ++ (if fraction.isEmpty then [] else '.' :: fraction) ++
    'e' :: (if plus && 0 ≤ lead then ['+'] else []) ++ (toString lead).toList

def Decimal.layout (style : Style) (d : Decimal) : List Char :=
  let ds := Nat.toDigits 10 d.digits
  let lead := d.exponent + ds.length - 1
  if style.plain lead then pointed ds d.exponent style.pointZero
  else scientific ds lead style.plusExponent

/-- The text of a number; the special ones are written `NaN`, `inf` and `-inf`. -/
def Style.render (style : Style) (x : Float) : String :=
  let bits := x.toBits.toNat
  let magnitude := bits % 0x8000000000000000
  let negative := bits / 0x8000000000000000 == 1
  if 0x7ff0000000000000 < magnitude then "NaN"
  else
    let digits :=
      if magnitude = 0x7ff0000000000000 then ['i', 'n', 'f']
      else if magnitude = 0 then pointed ['0'] 0 style.pointZero
      else ((Binary.ofBits magnitude).shortest style.tie).layout style
    String.ofList (if negative then '-' :: digits else digits)

end OneTable.Number
