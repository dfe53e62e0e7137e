import OneTable.Url.Path

/-!
# URLs

A URL in its parts, each percent-encoded as it is written. With an authority a URL names a server;
the host may be left out, and then there are no credentials and no port either.
-/

namespace OneTable

structure Url.Authority where
  username : String := ""
  /-- Never empty when it is there. -/
  password : Option String := none
  host : String
  port : Option UInt16 := none
deriving DecidableEq, Repr

structure Url where
  scheme : String
  authority : Option Url.Authority
  path : String
  query : Option String := none
  fragment : Option String := none
deriving DecidableEq, Repr

namespace Url

/-- Why a text is no URL. -/
inductive Fault
  | relative
  | emptyHost
  | port
  | hostCharacter
  | domain
  | ipv4
  | ipv6
deriving DecidableEq, Repr

def Fault.message : Fault → String
  | .relative => "relative URL without a base"
  | .emptyHost => "empty host"
  | .port => "invalid port number"
  | .hostCharacter => "invalid domain character"
  | .domain => "invalid international domain name"
  | .ipv4 => "invalid IPv4 address"
  | .ipv6 => "invalid IPv6 address"

def Authority.userText (a : Authority) : String :=
  match a.password with
  | some password => a.username ++ ":" ++ password ++ "@"
  | none => if a.username.toList.isEmpty then "" else a.username ++ "@"

def Authority.portText (a : Authority) : String :=
  match a.port with
  | some port => ":" ++ toString port.toNat
  | none => ""

def Authority.text (a : Authority) : String := a.userText ++ a.host ++ a.portText

/-- A part with its mark before it, or nothing. -/
def marked (mark : String) : Option String → String
  | some part => mark ++ part
  | none => ""

/-- The URL as it is written. A path that begins with two slashes would read as an authority where
there is none, and gets `/.` before it. -/
def text (u : Url) : String :=
  let start := match u.authority with
    | some a => "//" ++ a.text
    | none => if ['/', '/'].isPrefixOf u.path.toList then "/." else ""
  u.scheme ++ ":" ++ start ++ u.path ++ marked "?" u.query ++ marked "#" u.fragment

/-- The authority, if it names a host. Only then a URL can carry credentials and a port. -/
def server? (u : Url) : Option Authority := u.authority.filter fun a => !a.host.toList.isEmpty

def userEncoded (s : String) : String := String.ofList (percentEncode isUserEncoded s.toList)

def withUsername? (u : Url) (username : String) : Option Url :=
  u.server?.map fun a => { u with authority := some { a with username := userEncoded username } }

/-- An empty password is none. -/
def withPassword? (u : Url) (password : String) : Option Url :=
  u.server?.map fun a =>
    let password := if password.toList.isEmpty then none else some (userEncoded password)
    { u with authority := some { a with password } }

def withPort? (u : Url) (port : UInt16) : Option Url :=
  u.server?.map fun a => { u with authority := some { a with port := some port } }

/-- Tabs and line ends have no place in a URL and are passed over. -/
def isPassedOver (c : Char) : Bool := c == '\t' || c == '\n' || c == '\r'

/-- Puts another path behind the host; query and fragment stay. -/
def withPath (u : Url) (path : String) : Url :=
  { u with path := String.ofList (pathBehindHost (path.toList.filter fun c => !isPassedOver c)) }

end Url

end OneTable
