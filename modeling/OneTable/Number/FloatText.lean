import OneTable.Number.Integer
import OneTable.Number.Shortest

/-!
# Texts of floating-point numbers

`plainText` writes a number for a statement: all digits, no exponent, no superfluous `.0`.
`exactText` writes it for a message, where it must show that it is no integer. Reading takes both,
with any number of digits, and rounds once.
-/

namespace OneTable.Number

/-- Without an exponent, a whole number without a point. -/
def plainStyle : Style := ⟨fun _ => true, false, false, .away⟩

/-- With an exponent below `10 ^ -4` and from `10 ^ 16` on. -/
def exactStyle : Style := ⟨fun e => -4 ≤ e && e < 16, true, false, .away⟩

def plainText (x : Float) : String := plainStyle.render x

def exactText (x : Float) : String := exactStyle.render x

/-- Why a text is no floating-point number. -/
inductive FloatFault
  | empty
  | invalid
deriving DecidableEq, Repr

def FloatFault.message : FloatFault → String
  | .empty => "cannot parse float from empty string"
  | .invalid => "invalid float literal"

/-- What a text says before any rounding. -/
inductive Literal
  | nan
  | infinite
  | decimal (d : Decimal)
deriving DecidableEq, Repr

/-- An exponent part, from its sign on. -/
def exponentOf? (cs : List Char) : Option Int :=
  let (negative, ds) := match cs with
    | '-' :: ds => (true, ds)
    | '+' :: ds => (false, ds)
    | ds => (false, ds)
  if !ds.isEmpty && ds.all Char.isDigit then
    let n := Int.ofNat (natOfDigits ds)
    some (if negative then -n else n)
  else none

/-- A number without its sign: a name in any case, or digits with at most one point among them and
perhaps an exponent behind. -/
def literalOf? (cs : List Char) : Option Literal :=
  let name := String.ofList (cs.map Char.toLower)
  if name == "nan" then some .nan
  else if name == "inf" || name == "infinity" then some .infinite
  else
    let whole := cs.takeWhile Char.isDigit
    let rest := cs.dropWhile Char.isDigit
    let (fraction, rest) := match rest with
      | '.' :: rest => (rest.takeWhile Char.isDigit, rest.dropWhile Char.isDigit)
      | rest => ([], rest)
    if whole.isEmpty && fraction.isEmpty then none
    else
      let exponent? := match rest with
        | [] => some 0
        | 'e' :: rest => exponentOf? rest
        | 'E' :: rest => exponentOf? rest
        | _ => none
      exponent?.map fun e => .decimal ⟨natOfDigits (whole ++ fraction), e - fraction.length⟩

/-- Where the leading digit of a decimal stands decides whether it can be told from zero and from
infinity; only between these bounds its digits matter. -/
def Decimal.clamped (d : Decimal) : Option Decimal × Bool :=
  let lead := d.exponent + (Nat.toDigits 10 d.digits).length
  if d.digits = 0 || lead < -400 then (none, false)
  else if 400 < lead then (none, true)
  else (some d, false)

def Decimal.toFloat (d : Decimal) : Float :=
  match d.clamped with
  | (some d, _) => Float.ofScientific d.digits (d.exponent < 0) d.exponent.natAbs
  | (none, large) => if large then 1.0 / 0.0 else 0.0

def Decimal.toFloat32 (d : Decimal) : Float32 :=
  match d.clamped with
  | (some d, _) => Float32.ofScientific d.digits (d.exponent < 0) d.exponent.natAbs
  | (none, large) => if large then 1.0 / 0.0 else 0.0

def Literal.toFloat : Literal → Float
  | .nan => 0.0 / 0.0
  | .infinite => 1.0 / 0.0
  | .decimal d => d.toFloat

def Literal.toFloat32 : Literal → Float32
  | .nan => 0.0 / 0.0
  | .infinite => 1.0 / 0.0
  | .decimal d => d.toFloat32

/-- A sign, if there is one, and the literal behind it. -/
def signedLiteral (cs : List Char) : Except FloatFault (Bool × Literal) :=
  let (negative, rest) := match cs with
    | '-' :: rest => (true, rest)
    | '+' :: rest => (false, rest)
    | rest => (false, rest)
  if cs.isEmpty then .error .empty
  else match literalOf? rest with
    | some literal => .ok (negative, literal)
    | none => .error .invalid

def floatOf (cs : List Char) : Except FloatFault Float :=
  (signedLiteral cs).map fun (negative, x) => if negative then -x.toFloat else x.toFloat

/-- Reads a number of 32 bits, rounding to it directly. -/
def float32Of (cs : List Char) : Except FloatFault Float32 :=
  (signedLiteral cs).map fun (negative, x) => if negative then -x.toFloat32 else x.toFloat32

end OneTable.Number
