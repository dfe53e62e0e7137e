import OneTable.Domain.Basic
import OneTable.Text.Bytes
import OneTable.Url.Basic
import OneTable.Url.Ipv6

/-!
# URLs of the web

No database is reached by a URL of a web scheme, so of such a URL only its faults count: a host that
is missing or malformed, and a port that is none.
-/

namespace OneTable.Url

/-- Schemes whose URLs always name a host. -/
def webSchemes : List String := ["http", "https", "ws", "wss", "ftp"]

def isSlash (c : Char) : Bool := c == '/' || c == '\\'

/-- A host is over at a slash of either kind, at a query or at a fragment. -/
def endsAuthority (c : Char) : Bool := isSlash c || c == '?' || c == '#'

/-- A number of an IPv4 address: decimal, octal behind `0`, hexadecimal behind `0x`. -/
def ipv4Number? (cs : List Char) : Option Nat :=
  let inBase (base : Nat) (cs : List Char) : Option Nat := do
    let ds ← cs.mapM Number.hexValue?
    if ds.all (· < base) then some (ds.foldl (fun n d => n * base + d) 0) else none
  match cs with
  | [] => none
  | '0' :: 'x' :: rest => inBase 16 rest
  | '0' :: 'X' :: rest => inBase 16 rest
  | ['0'] => some 0
  | '0' :: rest => inBase 8 rest
  | cs => inBase 10 cs

/-- The parts of a host between dots, without an empty one at the end. -/
def dotted (host : List Char) : List (List Char) :=
  let parts := Text.pieces (· == '.') host
  if 1 < parts.length && parts.getLast? == some [] then parts.dropLast else parts

def endsInNumber (host : List Char) : Bool :=
  match (dotted host).getLast? with
  | some last => (!last.isEmpty && last.all Char.isDigit) || (ipv4Number? last).isSome
  | none => false

def isIpv4 (host : List Char) : Bool :=
  let parts := dotted host
  match parts.mapM ipv4Number? with
  | some numbers =>
    parts.length ≤ 4 && numbers.dropLast.all (· ≤ 255) &&
      (numbers.getLast?.getD 0) < Nat.pow 256 (5 - parts.length)
  | none => false

/-- What is wrong with a host of a web URL. -/
def hostFault? (host : List Char) : Option Fault :=
  if host.head? == some '[' then
    if host.getLast? == some ']' && (Ipv6.ofChars? (host.drop 1).dropLast).isSome then none
    else some .ipv6
  else
    match Domain.read? (Text.ofBytesLossy (percentDecode host)).toList with
    | none => some .domain
    | some domain =>
      if domain.isEmpty then some .emptyHost
      else if endsInNumber domain && !isIpv4 domain then some .ipv4
      else none

/-- What is wrong with a port, given with what follows it. -/
def portFault? (cs : List Char) : Option Fault :=
  let ds := cs.takeWhile Char.isDigit
  let rest := cs.dropWhile Char.isDigit
  if 65535 < Number.natOfDigits ds then some .port
  else if rest.head?.any fun c => !endsAuthority c then some .port
  else none

/-- The end of a host: a colon outside of brackets, or the end of the authority. -/
def hostLength : (inBrackets : Bool) → List Char → Nat
  | _, [] => 0
  | inBrackets, c :: cs =>
    if (c == ':' && !inBrackets) || endsAuthority c then 0
    else hostLength (if c == '[' then true else if c == ']' then false else inBrackets) cs + 1

/-- What is wrong with a web URL, given without its scheme. -/
def webFault? (cs : List Char) : Option Fault :=
  let cs := cs.dropWhile isSlash
  let authority := cs.takeWhile fun c => !endsAuthority c
  let rest := match Text.splitLast? (· == '@') authority with
    | some (_, host) => host
    | none => authority
  let host := rest.take (hostLength false rest)
  if host.isEmpty then some .emptyHost
  else match hostFault? host with
    | some f => some f
    | none =>
      match rest.drop host.length with
      | ':' :: port => portFault? port
      | _ => none

/-- What is wrong with a URL of a file, given without its scheme. -/
def fileFault? : List Char → Option Fault
  | a :: b :: rest =>
    if isSlash a && isSlash b then
      let host := rest.takeWhile fun c => !endsAuthority c
      if host.isEmpty || isDrive host then none else hostFault? host
    else none
  | _ => none

end OneTable.Url
