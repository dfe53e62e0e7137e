import OneTable.Fields
import OneTable.Text.Blank
import OneTable.Text.Classes

/-!
# Variables and files of them

Each variable of a process is held as one text `name=value`. A look-up takes the first variable that
begins with the name and an equals sign, so a name may reach into a value up to one of its equals
signs.

A file assigns variables line by line. A quoted value goes on over several lines, and what follows a
`#` behind a blank is a comment. Outside of single quotes `$name` stands for the value of a variable
and `$` with the name in braces too; a name without braces ends at the first character that is
neither a letter nor a digit, and that character is taken as it is.

Variables that are set already keep their value. Reading stops at the first line that is malformed,
without a word; the lines before it count.
-/

namespace OneTable

abbrev Environment := Fields String

namespace Environment

def lookup? (env : Environment) (name : String) : Option String :=
  let start := name.toList ++ ['=']
  env.toList.findSome? fun e =>
    let held := e.1.toList ++ '=' :: e.2.toList
    if start.isPrefixOf held then some (String.ofList (held.drop start.length)) else none

/-- Sets a variable that is not set. An empty one is set. -/
def setDefault (env : Environment) (name value : String) : Environment :=
  if (env.lookup? name).isSome then env else env.insert name value

end Environment

namespace EnvFile

/-! ### Lines -/

/-- Where in a line the reader stands. -/
inductive Place
  | bare
  /-- Behind a blank that is not quoted. -/
  | blank
  | escape
  | single
  | singleEscape
  | double
  | doubleEscape
  | comment
deriving DecidableEq, Repr

namespace Place

/-- A line end here ends the line. -/
def endsLine : Place → Bool
  | .bare | .blank | .escape | .comment => true
  | _ => false

def afterBare (c : Char) : Place :=
  match c with
  | '\\' => .escape
  | '\x22' => .double
  | '\x27' => .single
  | _ => .bare

def next (c : Char) : Place → Place
  | .bare => if Text.isBlank c && c != '\n' && c != '\r' then .blank else afterBare c
  | .blank => if c == '#' then .comment else afterBare c
  | .escape => .bare
  | .single => if c == '\\' then .singleEscape else if c == '\x27' then .bare else .single
  | .singleEscape => .single
  | .double => if c == '\\' then .doubleEscape else if c == '\x22' then .bare else .double
  | .doubleEscape => .double
  | .comment => .comment

end Place

/-- The lines of a file without their comments, and `none` for a last line that is not complete;
`read` holds the characters of the line so far, the last first. -/
def lines : Place → (read : List Char) → List Char → List (Option (List Char))
  | .bare, read, [] => [some read.reverse]
  | .comment, read, [] => [some read.reverse]
  | _, _, [] => [none]
  | place, read, c :: cs =>
    if c == '\n' && place.endsLine then some read.reverse :: lines .bare [] cs
    else if c == '#' && read.all Text.isBlank then lines .comment read cs
    else match place.next c with
      | .comment => lines .comment read cs
      | place => lines place (c :: read) cs

/-! ### Values -/

/-- What the reader of a value is about to read. -/
inductive Mode
  | plain
  | escape
  | single
  /-- A name without braces, its characters so far, the last first. -/
  | name (read : List Char)
  | braced (read : List Char)
  /-- Nothing but blanks and a comment. -/
  | ending

/-- The character that a backslash and `c` stand for. -/
def escaped? (c : Char) : Option Char :=
  if c == 'n' then some '\n'
  else if ['\\', '\x27', '\x22', '$', ' '].contains c then some c
  else none

/-- The value that a text denotes, given the values of all names. With `double` the reader stands
between double quotes. -/
def value? (of : String → String) : (double : Bool) → Mode → List Char → Option (List Char)
  | double, .name read, [] => if double then none else some (of (String.ofList read.reverse)).toList
  | _, .single, [] => none
  | _, .braced _, [] => none
  | double, _, [] => if double then none else some []
  | double, .plain, c :: cs =>
    if c == '$' then value? of double (.name []) cs
    else if c == '\\' then value? of double .escape cs
    else if c == '\x22' then value? of (!double) .plain cs
    else if double then (value? of double .plain cs).map (c :: ·)
    else if c == '\x27' then value? of double .single cs
    else if c == ' ' || c == '\t' then value? of double .ending cs
    else (value? of double .plain cs).map (c :: ·)
  | double, .escape, c :: cs => do
    let c ← escaped? c
    (value? of double .plain cs).map (c :: ·)
  | double, .single, c :: cs =>
    if c == '\x27' then value? of double .plain cs
    else (value? of double .single cs).map (c :: ·)
  | double, .name read, c :: cs =>
    if Text.isAlphanumeric c then value? of double (.name (c :: read)) cs
    else if c == '\x7b' && read.isEmpty then value? of double (.braced []) cs
    else
      let inserted := (of (String.ofList read.reverse)).toList
      if c == '$' then (value? of double (.name []) cs).map (inserted ++ ·)
      else (value? of double .plain cs).map (inserted ++ c :: ·)
  | double, .braced read, c :: cs =>
    if c == '\x7d' then
      (value? of double .plain cs).map ((of (String.ofList read.reverse)).toList ++ ·)
    else value? of double (.braced (c :: read)) cs
  | double, .ending, c :: cs =>
    if c == ' ' || c == '\t' then value? of double .ending cs
    else if c == '#' then some []
    else none

/-! ### Assignments -/

inductive Line
  | empty
  | assignment (name value : String)
  | malformed
deriving DecidableEq, Repr

def isNameStart (c : Char) : Bool := c.isAlpha || c == '_'

def isNameChar (c : Char) : Bool := c.isAlphanum || c == '_' || c == '.'

/-- A name, and what follows it and the blanks behind. -/
def name? (cs : List Char) : Option (List Char × List Char) :=
  if cs.head?.any isNameStart then
    some (cs.takeWhile isNameChar, Text.trimStart (cs.dropWhile isNameChar))
  else none

/-- A name with its equals sign, and what follows them. The word `export` may stand before the
name. -/
def target? (cs : List Char) : Option (List Char × List Char) := do
  match ← name? cs with
  | (name, '=' :: rest) => some (name, rest)
  | (name, rest) =>
    if String.ofList name == "export" then
      match ← name? rest with
      | (name, '=' :: rest) => some (name, rest)
      | _ => none
    else none

def startsComment (cs : List Char) : Bool := cs.isEmpty || cs.head? == some '#'

def Line.read (of : String → String) (cs : List Char) : Line :=
  let cs := Text.trimStart (Text.trimEnd cs)
  if startsComment cs then .empty
  else match target? cs with
    | none => .malformed
    | some (name, rest) =>
      let rest := Text.trimStart rest
      let value := if startsComment rest then some [] else value? of false .plain rest
      match value with
      | some value => .assignment (String.ofList name) (String.ofList value)
      | none => .malformed

/-- Carries out lines one after the other, each with the variables that the ones before have set. -/
def run (env : Environment) : List (Option (List Char)) → Environment
  | [] => env
  | none :: _ => env
  | some cs :: rest =>
    match Line.read (fun name => (env.lookup? name).getD "") cs with
    | .empty => run env rest
    | .assignment name value => run (env.setDefault name value) rest
    | .malformed => env

/-- The environment after a file was read. A byte order mark at its start does not count. -/
def load (env : Environment) (file : String) : Environment :=
  let cs := match file.toList with
    | '\uFEFF' :: cs => cs
    | cs => cs
  run env (lines .bare [] cs)

end EnvFile

end OneTable
