import OneTable.Domain.Classes
import OneTable.Domain.Mapping
import OneTable.Domain.Punycode
import OneTable.Text.Composition

/-!
# Domains

A domain is a list of labels with points between them. It is read in its composed form, in the form
of each character that domains hold. A label in ASCII that begins with `xn--` stands for one beyond
ASCII.

A label does not begin with a mark, and characters that join or part their neighbours stand only
where they do so. If any character is written from right to left, all labels keep to one direction
each.
-/

namespace OneTable.Domain

/-- Characters that no domain holds, of those in ASCII. -/
def isForbidden (c : Char) : Bool :=
  c.toNat ≤ 0x20 || c.toNat == 0x7f ||
    ['%', '#', '/', ':', '<', '>', '?', '@', '[', '\\', ']', '^', '|'].contains c

def isAscii (c : Char) : Bool := c.toNat < 0x80

/-! ### Joiners -/

def nonJoiner : Char := '\u200c'

def joiner : Char := '\u200d'

/-- The mark silences the vowel of its letter, and asks what follows to join. -/
def isVirama (c : Char) : Bool := Text.combiningClass c == 9

/-- A joiner stands behind a virama; so does a non-joiner, or else between letters that would join.
The characters before are given with the last first. -/
def joinersFit : (before : List Char) → List Char → Bool
  | _, [] => true
  | before, c :: cs =>
    let afterVirama := before.head?.any isVirama
    let parts := (before.dropWhile isNonspacing).head?.any joinsNext &&
      (cs.dropWhile isNonspacing).head?.any joinsPrevious
    let fits :=
      if c == joiner then afterVirama
      else if c == nonJoiner then afterVirama || parts
      else true
    fits && joinersFit (c :: before) cs

/-! ### Labels -/

def isWellFormed (label : List Char) : Bool := !label.head?.any isMark && joinersFit [] label

/-- A label as it reads. -/
def label? (cs : List Char) : Option (List Char) :=
  if cs.take 4 == ['x', 'n', '-', '-'] then
    if cs.all isAscii then do
      let label ← Punycode.decode? (cs.drop 4)
      if label.all isKept && Text.composed label == label && label.any (fun c => !isAscii c) &&
          isWellFormed label then
        some label
      else none
    else none
  else if cs.all isAscii || isWellFormed cs then some cs
  else none

/-! ### Directions -/

/-- A label from left to right ends in a letter or a digit; one from right to left has digits of one
kind. Marks at the end do not count. -/
def keepsDirection (label : List Direction) : Bool :=
  match label with
  | [] => true
  | first :: rest =>
    let last := ((first :: rest).reverse.dropWhile (· == .mark)).head?
    match first with
    | .left =>
      rest.all (fun d => d != .right && d != .arabicDigit) && last.any [.left, .digit].contains
    | .right =>
      rest.all (fun d => d != .left) && last.any [.right, .digit, .arabicDigit].contains &&
        !(rest.contains .digit && rest.contains .arabicDigit)
    | _ => false

def directionsFit (labels : List (List Char)) : Bool :=
  let labels := labels.map fun label => label.map Direction.of
  let isMixed := labels.any fun label => label.any fun d => d == .right || d == .arabicDigit
  !isMixed || labels.all keepsDirection

/-- The domain that a text stands for, unless it stands for none. -/
def read? (text : List Char) : Option (List Char) := do
  let domain := Text.composed (← text.mapM formOf?).flatten
  if domain.any isForbidden then none
  else
    let labels ← (Text.pieces (· == '.') domain).mapM label?
    if directionsFit labels then some domain else none

end OneTable.Domain
