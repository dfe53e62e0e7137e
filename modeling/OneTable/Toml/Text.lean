import OneTable.Number.Integer

/-!
# Lines and strings of a TOML document

A line ends with a line feed, which may have a carriage return before it. A comment goes from `#` to
the end of its line. Controls other than the tab stand nowhere in a document.

A string stands between double quotes, with escapes, or between single quotes, as it is. Three
quotes of a kind enclose a string of several lines: a line end right behind the opening quotes does
not count, any other stays as it is, and up to two quotes of the kind may stand before the closing
ones.
-/

namespace OneTable.Toml

/-! ### Lines, blanks and comments -/

def isBlank (c : Char) : Bool := c == ' ' || c == '\t'

/-- A character that may stand in a comment and in a string. -/
def isText (c : Char) : Bool := c == '\t' || (0x20 ≤ c.toNat && c.toNat != 0x7f)

/-- A character of a key without quotes. -/
def isBareKeyChar (c : Char) : Bool := c.isAlphanum || c == '_' || c == '-'

def dropBlanks (cs : List Char) : List Char := cs.dropWhile isBlank

/-- What follows blanks, comments and line ends. -/
def skip? : (inComment : Bool) → List Char → Option (List Char)
  | _, [] => some []
  | _, '\n' :: cs => skip? false cs
  | _, '\r' :: '\n' :: cs => skip? false cs
  | true, c :: cs => if isText c then skip? true cs else none
  | false, '#' :: cs => skip? true cs
  | false, c :: cs => if isBlank c then skip? false cs else some (c :: cs)

/-- What follows the end of the line, with nothing but blanks and a comment before it. -/
def endLine? : (inComment : Bool) → List Char → Option (List Char)
  | _, [] => some []
  | _, '\n' :: cs => some cs
  | _, '\r' :: '\n' :: cs => some cs
  | true, c :: cs => if isText c then endLine? true cs else none
  | false, '#' :: cs => endLine? true cs
  | false, c :: cs => if isBlank c then endLine? false cs else none

/-! ### Strings -/

/-- The character of a code point, unless it is a surrogate or too large. -/
def charOf? (n : Nat) : Option Char := if n.isValidChar then some (Char.ofNat n) else none

/-- The character of so many hexadecimal digits, and what follows them. -/
def codePoint? (count : Nat) (cs : List Char) : Option (Char × List Char) := do
  let ds ← (cs.take count).mapM Number.hexValue?
  if ds.length = count then
    some (← charOf? (ds.foldl (fun n d => n * 16 + d) 0), cs.drop count)
  else none

/-- The character of an escape behind its backslash, and what follows it. -/
def escape? : List Char → Option (Char × List Char)
  | 'b' :: rest => some ('\x08', rest)
  | 't' :: rest => some ('\t', rest)
  | 'n' :: rest => some ('\n', rest)
  | 'f' :: rest => some ('\x0c', rest)
  | 'r' :: rest => some ('\r', rest)
  | 'e' :: rest => some ('\x1b', rest)
  | '\x22' :: rest => some ('\x22', rest)
  | '\\' :: rest => some ('\\', rest)
  | 'x' :: rest => codePoint? 2 rest
  | 'u' :: rest => codePoint? 4 rest
  | 'U' :: rest => codePoint? 8 rest
  | _ => none

/-- A string behind its opening double quote; `read` holds its characters so far, the last first.
Every step uses up a character, so the length of the text is fuel enough. -/
def basic? : (fuel : Nat) → (read : List Char) → List Char → Option (String × List Char)
  | 0, _, _ => none
  | _ + 1, _, [] => none
  | fuel + 1, read, c :: rest =>
    if c == '\x22' then some (String.ofList read.reverse, rest)
    else if c == '\\' then do
      let (c, rest) ← escape? rest
      basic? fuel (c :: read) rest
    else if isText c then basic? fuel (c :: read) rest
    else none

/-- A string behind its opening single quote. -/
def literal? (cs : List Char) : Option (String × List Char) :=
  let inside := cs.takeWhile fun c => isText c && c != '\x27'
  match cs.drop inside.length with
  | '\x27' :: rest => some (String.ofList inside, rest)
  | _ => none

/-- Without one line end at the start. -/
def dropLineEnd : List Char → List Char
  | '\n' :: cs => cs
  | '\r' :: '\n' :: cs => cs
  | cs => cs

/-- What follows a backslash at the end of a line: blanks and line ends do not count up to the next
character. -/
def continuation? (cs : List Char) : Option (List Char) :=
  match dropBlanks cs with
  | '\n' :: rest => some (dropSpace rest)
  | '\r' :: '\n' :: rest => some (dropSpace rest)
  | _ => none
where
  dropSpace : List Char → List Char
    | '\r' :: '\n' :: cs => dropSpace cs
    | '\n' :: cs => dropSpace cs
    | c :: cs => if isBlank c then dropSpace cs else c :: cs
    | [] => []

/-- How many of the characters at the start are `c`. -/
def runLength (c : Char) (cs : List Char) : Nat := (cs.takeWhile (· == c)).length

/-- A string of several lines behind its opening quotes and the line end there. With `escapes` a
backslash starts an escape. -/
def lines? (quote : Char) (escapes : Bool) :
    (fuel : Nat) → (read : List Char) → List Char → Option (String × List Char)
  | 0, _, _ => none
  | _ + 1, _, [] => none
  | fuel + 1, read, c :: rest =>
    let run := runLength quote (c :: rest)
    if 3 ≤ run then
      let inside := min (run - 3) 2
      some (String.ofList (List.replicate inside quote ++ read).reverse, rest.drop (inside + 2))
    else if c == '\\' && escapes then
      match continuation? rest with
      | some rest => lines? quote escapes fuel read rest
      | none => do
        let (c, rest) ← escape? rest
        lines? quote escapes fuel (c :: read) rest
    else if c == '\n' then lines? quote escapes fuel (c :: read) rest
    else if c == '\r' && rest.head? == some '\n' then lines? quote escapes fuel (c :: read) rest
    else if isText c then lines? quote escapes fuel (c :: read) rest
    else none

/-- A string of one line, as it may stand for a key as well. -/
def oneLine? : List Char → Option (String × List Char)
  | '\x22' :: rest => basic? (rest.length + 1) [] rest
  | '\x27' :: rest => literal? rest
  | _ => none

/-- A string of any kind, and what follows it. -/
def string? : List Char → Option (String × List Char)
  | '\x22' :: '\x22' :: '\x22' :: rest =>
    lines? '\x22' true (rest.length + 1) [] (dropLineEnd rest)
  | '\x27' :: '\x27' :: '\x27' :: rest =>
    lines? '\x27' false (rest.length + 1) [] (dropLineEnd rest)
  | cs => oneLine? cs

end OneTable.Toml
