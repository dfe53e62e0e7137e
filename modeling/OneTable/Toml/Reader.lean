import OneTable.Toml.Basic
import OneTable.Toml.Scalar
import OneTable.Toml.Text
import OneTable.Toml.Tree

/-!
# Reading TOML

A document is a list of lines, each a header or an assignment. Only arrays, inline tables and long
strings go on over several lines. Arrays and inline tables may be nested 80 deep, and a path may
have 80 keys.
-/

namespace OneTable.Toml

/-- One key of a path, and what follows it. -/
def key? (cs : List Char) : Option (String × List Char) :=
  match oneLine? cs with
  | some result => some result
  | none =>
    let key := cs.takeWhile isBareKeyChar
    if key.isEmpty then none else some (String.ofList key, cs.drop key.length)

/-- How deep arrays and inline tables may be nested, and how many keys a path may have. -/
def maxDepth : Nat := 80

/-- At most so many keys with points between them, and what follows them and the blanks behind. -/
def keys? : (count : Nat) → List Char → Option (List String × List Char)
  | 0, _ => none
  | count + 1, cs => do
    let (key, rest) ← key? (dropBlanks cs)
    match dropBlanks rest with
    | '.' :: rest => (keys? count rest).map fun (path, rest) => (key :: path, rest)
    | rest => some ([key], rest)

def path? (cs : List Char) : Option (List String × List Char) := keys? maxDepth cs

mutual

/-- A value, and what follows it. Every step of the reader uses up a character or closes a value,
so the fuel that `parse?` gives is never used up. -/
def value? : (fuel depth : Nat) → List Char → Option (Toml × List Char)
  | 0, _, _ => none
  | fuel + 1, depth, cs =>
    match cs, depth with
    | '[' :: _, 0 => none
    | '[' :: rest, depth + 1 =>
      (items? fuel depth rest).map fun (items, rest) => (.array items, rest)
    | '\x7b' :: _, 0 => none
    | '\x7b' :: rest, depth + 1 => do
      let (assignments, rest) ← assignments? fuel depth rest
      some (← ofAssignments? assignments, rest)
    | '\x22' :: _, _ => (string? cs).map fun (s, rest) => (.string s, rest)
    | '\x27' :: _, _ => (string? cs).map fun (s, rest) => (.string s, rest)
    | _, _ => scalar? cs

/-- The items of an array, up to and with its closing bracket. -/
def items? : (fuel depth : Nat) → List Char → Option (List Toml × List Char)
  | 0, _, _ => none
  | fuel + 1, depth, cs => do
    match ← skip? false cs with
    | ']' :: rest => some ([], rest)
    | cs => do
      let (v, rest) ← value? fuel depth cs
      match ← skip? false rest with
      | ',' :: rest => (items? fuel depth rest).map fun (items, rest) => (v :: items, rest)
      | ']' :: rest => some ([v], rest)
      | _ => none

/-- The assignments of an inline table, up to and with its closing brace. -/
def assignments? : (fuel depth : Nat) → List Char → Option (List (List String × Toml) × List Char)
  | 0, _, _ => none
  | fuel + 1, depth, cs => do
    match ← skip? false cs with
    | '\x7d' :: rest => some ([], rest)
    | cs => do
      let (path, rest) ← path? cs
      match ← skip? false rest with
      | '=' :: rest => do
        let (v, rest) ← value? fuel depth (← skip? false rest)
        match ← skip? false rest with
        | ',' :: rest =>
          (assignments? fuel depth rest).map fun (more, rest) => ((path, v) :: more, rest)
        | '\x7d' :: rest => some ([(path, v)], rest)
        | _ => none
      | _ => none

end

/-- A header or an assignment, and what follows it. -/
def line? (cs : List Char) : Option (Line × List Char) :=
  match cs with
  | '[' :: '[' :: rest =>
    match path? rest with
    | some (path, ']' :: ']' :: rest) => some (.item path, rest)
    | _ => none
  | '[' :: rest =>
    match path? rest with
    | some (path, ']' :: rest) => some (.header path, rest)
    | _ => none
  | cs =>
    match path? cs with
    | some (path, '=' :: rest) =>
      (value? (2 * rest.length + 2) maxDepth (dropBlanks rest)).map fun (v, rest) =>
        (.assignment path v, rest)
    | _ => none

def document? : (fuel : Nat) → List Char → Option (List Line)
  | 0, _ => none
  | fuel + 1, cs => do
    match ← skip? false cs with
    | [] => some []
    | cs => do
      let (line, rest) ← line? cs
      let rest ← endLine? false rest
      (document? fuel rest).map (line :: ·)

/-- The entries of a document. A byte order mark at its start does not count. -/
def parse? (s : String) : Option (List (String × Toml)) := do
  let cs := match s.toList with
    | '\uFEFF' :: cs => cs
    | cs => cs
  settledEntries? (← ofLines? (← document? (cs.length + 1) cs))

end OneTable.Toml
