import OneTable.Number.Integer
import OneTable.Text.Split

/-!
# IPv6 addresses

Eight groups of up to four hexadecimal digits between colons. One run of zero groups may be left
out between two colons, and the last two groups may be written as four decimal numbers. Written out,
an address leaves out its first longest run of at least two zero groups.
-/

namespace OneTable.Url.Ipv6

/-- The groups of an address, from left to right. -/
abbrev Address := List Nat

/-- A group of one to four hexadecimal digits. -/
def group? (cs : List Char) : Option Nat :=
  if cs.isEmpty || 4 < cs.length then none
  else (cs.mapM Number.hexValue?).map fun ds => ds.foldl (fun n d => n * 16 + d) 0

/-- A decimal number below 256 without leading zeros. -/
def octet? (cs : List Char) : Option Nat :=
  let n := Number.natOfDigits cs
  let padded := cs.head? == some '0' && 1 < cs.length
  if cs.isEmpty || !cs.all Char.isDigit || 255 < n || padded then none else some n

/-- Two groups written as four decimal numbers. -/
def quad? (cs : List Char) : Option Address :=
  match (Text.pieces (· == '.') cs).mapM octet? with
  | some [a, b, c, d] => some [a * 256 + b, c * 256 + d]
  | _ => none

/-- Groups between single colons; the last may be four decimal numbers if `quad` says so. -/
def groups? (quad : Bool) : List (List Char) → Option Address
  | [] => some []
  | [last] => if quad && last.contains '.' then quad? last else (group? last).map ([·])
  | g :: gs => do
    let n ← group? g
    let ns ← groups? quad gs
    some (n :: ns)

/-- No characters are no groups. -/
def run? (quad : Bool) (cs : List Char) : Option Address :=
  if cs.isEmpty then some [] else groups? quad (Text.pieces (· == ':') cs)

/-- What stands before and after the first `::`. -/
def splitGap? : List Char → Option (List Char × List Char)
  | ':' :: ':' :: rest => some ([], rest)
  | c :: cs => (splitGap? cs).map fun (before, after) => (c :: before, after)
  | [] => none

def ofChars? (cs : List Char) : Option Address :=
  match splitGap? cs with
  | some (before, after) => do
    let head ← run? false before
    let tail ← run? true after
    if head.length + tail.length < 8 then
      some (head ++ List.replicate (8 - head.length - tail.length) 0 ++ tail)
    else none
  | none => do
    let all ← run? true cs
    if !cs.isEmpty && all.length = 8 then some all else none

/-- The start and the length of the first longest run of zeros. -/
def longestZeros (a : Address) : Nat × Nat :=
  let runs := (List.range a.length).map fun i => (i, ((a.drop i).takeWhile (· == 0)).length)
  runs.foldl (fun best run => if best.2 < run.2 then run else best) (0, 0)

def groupText (n : Nat) : List Char := Nat.toDigits 16 n

def joined (a : Address) : List Char := [':'].intercalate (a.map groupText)

def text (a : Address) : List Char :=
  let (start, length) := longestZeros a
  if length < 2 then joined a
  else joined (a.take start) ++ [':', ':'] ++ joined (a.drop (start + length))

end OneTable.Url.Ipv6
