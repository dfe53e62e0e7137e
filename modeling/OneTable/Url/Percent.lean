import OneTable.Number.Integer
import OneTable.Text.Bytes
import OneTable.Text.Split

/-!
# Percent-encoding

Characters that may not stand in a part of a URL are written as their UTF-8 bytes, each with `%` and
two hexadecimal digits. Controls and characters beyond ASCII are written so everywhere; each part
adds characters of its own. A `%` stands for itself in every part, so encoding an encoded text
leaves it alone.

A query is read as a list of parameters with `&` between them, each a name and a value with the
first `=` between them. A `+` stands for a space there.
-/

namespace OneTable.Url

def hexDigit (n : Nat) : Char := if n < 10 then Char.ofNat (48 + n) else Char.ofNat (55 + n)

def encodeByte (b : UInt8) : List Char := ['%', hexDigit (b.toNat / 16), hexDigit (b.toNat % 16)]

/-- Encoded in every part. -/
def isControl (c : Char) : Bool := c.toNat < 0x20 || 0x7f ≤ c.toNat

def isFragmentEncoded (c : Char) : Bool :=
  isControl c || [' ', '\x22', '<', '>', '\x60'].contains c

def isQueryEncoded (c : Char) : Bool :=
  isControl c || [' ', '\x22', '#', '<', '>'].contains c

def isPathEncoded (c : Char) : Bool :=
  isFragmentEncoded c || ['#', '?', '\x7b', '\x7d'].contains c

/-- Encoded in a user name and in a password. -/
def isUserEncoded (c : Char) : Bool :=
  isPathEncoded c || ['/', ':', ';', '=', '@', '[', '\\', ']', '^', '|'].contains c

/-- Encodes the characters that satisfy `encoded`. -/
def percentEncode (encoded : Char → Bool) (cs : List Char) : List Char :=
  cs.flatMap fun c => if encoded c then (String.utf8EncodeChar c).flatMap encodeByte else [c]

/-- Percent-decoded bytes of a text. -/
def percentDecode : List Char → List UInt8
  | [] => []
  | '%' :: a :: b :: rest =>
    match Number.hexValue? a, Number.hexValue? b with
    | some x, some y => UInt8.ofNat (x * 16 + y) :: percentDecode rest
    | _, _ => 0x25 :: percentDecode (a :: b :: rest)
  | c :: rest => String.utf8EncodeChar c ++ percentDecode rest
  termination_by cs => cs.length

def decodedPart (cs : List Char) : String :=
  Text.ofBytesLossy (percentDecode (cs.map fun c => if c == '+' then ' ' else c))

/-- The parameters of a query; empty ones do not count. -/
def parameters (query : String) : List (String × String) :=
  ((Text.pieces (· == '&') query.toList).filter fun cs => !cs.isEmpty).map fun cs =>
    let name := cs.takeWhile (· ≠ '=')
    (decodedPart name, decodedPart (cs.drop (name.length + 1)))

end OneTable.Url
