import OneTable.Url.Basic
import OneTable.Url.Ipv6
import OneTable.Url.Web

/-!
# Reading URLs

Controls and spaces around a URL do not count, nor do tabs and line ends anywhere in it. The scheme
is read without regard to case. What follows is an authority and a path, a path alone, or a text
without structure; each part comes out percent-encoded.
-/

namespace OneTable.Url

/-- Without controls and spaces around it, and without tabs and line ends. -/
def cleaned (s : String) : List Char :=
  let outer (c : Char) : Bool := c.toNat ≤ 0x20
  let inner := ((s.toList.dropWhile outer).reverse.dropWhile outer).reverse
  inner.filter fun c => !isPassedOver c

def isSchemeChar (c : Char) : Bool := c.isAlphanum || c == '+' || c == '-' || c == '.'

/-- The scheme in lower case, and what follows its colon. -/
def scheme? (cs : List Char) : Option (String × List Char) :=
  match cs.dropWhile isSchemeChar with
  | ':' :: rest =>
    if cs.head?.any Char.isAlpha then
      some (String.ofList ((cs.takeWhile isSchemeChar).map Char.toLower), rest)
    else none
  | _ => none

/-- A text up to a query or a fragment, and both of these. -/
def withQueryAndFragment (cs : List Char) : List Char × Option String × Option String :=
  let before := cs.takeWhile fun c => c != '?' && c != '#'
  let encodedFragment (cs : List Char) : String :=
    String.ofList (percentEncode isFragmentEncoded cs)
  match cs.drop before.length with
  | '?' :: rest =>
    let query := rest.takeWhile (· ≠ '#')
    let fragment := match rest.drop query.length with
      | '#' :: fragment => some (encodedFragment fragment)
      | _ => none
    (before, some (String.ofList (percentEncode isQueryEncoded query)), fragment)
  | '#' :: fragment => (before, none, some (encodedFragment fragment))
  | _ => (before, none, none)

/-- The user name and the password before the last `@` of an authority, and the host behind it. An
empty password is none. -/
def userinfo (authority : List Char) : String × Option String × List Char :=
  match Text.splitLast? (· == '@') authority with
  | none => ("", none, authority)
  | some (user, host) =>
    let name := user.takeWhile (· ≠ ':')
    let password := (user.drop name.length).drop 1
    let encoded (cs : List Char) : String := String.ofList (percentEncode isUserEncoded cs)
    (encoded name, if password.isEmpty then none else some (encoded password), host)

/-- Characters that no host holds. -/
def isForbiddenInHost (c : Char) : Bool :=
  c == '\x00' || [' ', '#', '/', ':', '<', '>', '?', '@', '[', '\\', ']', '^', '|'].contains c

/-- A host as it is written: an IPv6 address in brackets, or a name. -/
def readHost (cs : List Char) : Except Fault String :=
  if cs.head? == some '[' then
    match if cs.getLast? == some ']' then Ipv6.ofChars? (cs.drop 1).dropLast else none with
    | some a => .ok (String.ofList ('[' :: Ipv6.text a ++ [']']))
    | none => .error .ipv6
  else if cs.any isForbiddenInHost then .error .hostCharacter
  else .ok (String.ofList (percentEncode isControl cs))

/-- A port and what follows it; no digits are no port. -/
def readPort (cs : List Char) : Except Fault (Option UInt16 × List Char) :=
  let ds := cs.takeWhile Char.isDigit
  let n := Number.natOfDigits ds
  match portFault? cs with
  | some f => .error f
  | none => .ok (if ds.isEmpty then none else some (UInt16.ofNat n), cs.drop ds.length)

/-- The length of a host: up to a colon outside of brackets, a slash, a query or a fragment. -/
def nameLength : (inBrackets : Bool) → List Char → Nat
  | _, [] => 0
  | inBrackets, c :: cs =>
    if (c == ':' && !inBrackets) || c == '/' || c == '?' || c == '#' then 0
    else nameLength (if c == '[' then true else if c == ']' then false else inBrackets) cs + 1

/-- An authority behind its two slashes, and the path with all that follows it. -/
def readAuthority (cs : List Char) : Except Fault (Authority × List Char) := do
  let inside := cs.takeWhile fun c => c != '/' && c != '?' && c != '#'
  let behind := cs.drop inside.length
  let (username, password, rest) := userinfo inside
  let rest := rest ++ behind
  let name := rest.take (nameLength false rest)
  let rest := rest.drop name.length
  if inside = ['@'] && !behind.isEmpty then
    throw .emptyHost
  let host ← readHost name
  if host.toList.isEmpty && rest.head? == some ':' then throw .emptyHost
  let (port, rest) ← match rest with
    | ':' :: rest => readPort rest
    | rest => .ok (none, rest)
  let authority : Authority := { username, password, host, port }
  if host.toList.isEmpty && !authority.userText.toList.isEmpty then throw .emptyHost
  return (authority, rest)

/-- A URL whose scheme is neither one of the web nor that of files, without its scheme. -/
def ofRest (scheme : String) (cs : List Char) : Except Fault Url :=
  match cs with
  | '/' :: '/' :: rest => do
    let (authority, rest) ← readAuthority rest
    let (path, query, fragment) := withQueryAndFragment rest
    return { scheme, authority := some authority, path := String.ofList (pathBehindHost path)
             query, fragment }
  | '/' :: rest =>
    let (path, query, fragment) := withQueryAndFragment rest
    .ok { scheme, authority := none, path := String.ofList (normalPath path), query, fragment }
  | rest =>
    let (path, query, fragment) := withQueryAndFragment rest
    .ok { scheme, authority := none, path := String.ofList (percentEncode isControl path)
          query, fragment }

/-- A URL that names no database: its scheme alone, or what is wrong with it. -/
def nameless (scheme : String) : Option Fault → Except Fault Url
  | some f => .error f
  | none => .ok { scheme, authority := none, path := "" }

def parse (s : String) : Except Fault Url :=
  match scheme? (cleaned s) with
  | none => .error .relative
  | some (scheme, rest) =>
    if webSchemes.contains scheme then nameless scheme (webFault? rest)
    else if scheme == "file" then nameless scheme (fileFault? rest)
    else ofRest scheme rest

end OneTable.Url
