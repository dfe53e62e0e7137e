import OneTable.Monitor.Event
import OneTable.Settings.Address
import OneTable.Url.Web
import OneTable.Wire.Fault

/-!
# Pools of connections

A registry keeps one pool per connection id. A pool is opened for a URL at first use and handed out
from then on. No connection is made before a statement needs one, so opening fails only for a URL
that no pool accepts.
-/

namespace OneTable

/-- The connections to one server with one set of credentials. -/
structure Pool where
  url : String
deriving DecidableEq, Repr

namespace Pool

/-- What a parameter in the query of a pool's URL takes for a value. -/
inductive ParameterKind
  | number
  /-- A number of 32 bits. -/
  | short
  | flag
  | compression
  | text
deriving DecidableEq, Repr

/-- Compression is on or off in words, or has a level of one digit. -/
def isCompression (value : String) : Bool :=
  ["fast", "on", "true", "best"].contains value ||
    match value.toList with
    | [c] => c.isDigit
    | _ => false

def ParameterKind.accepts (value : String) : ParameterKind → Bool
  | .number => (Number.uint64Of value.toList).isOk
  | .short =>
    match Number.uint64Of value.toList with
    | .ok n => n.toNat < UInt32.size
    | .error _ => false
  | .flag => value == "true" || value == "false"
  | .compression => isCompression value
  | .text => true

def parameterKind? (name : String) : Option ParameterKind :=
  if ["pool_min", "pool_max", "inactive_connection_ttl", "ttl_check_interval", "conn_ttl",
      "abs_conn_ttl", "abs_conn_ttl_jitter", "max_allowed_packet", "wait_timeout",
      "stmt_cache_size"].contains name then some .number
  else if ["enable_cleartext_plugin", "reset_connection", "tcp_nodelay", "prefer_socket",
      "secure_auth", "client_found_rows", "require_ssl", "verify_ca", "verify_identity",
      "built_in_roots"].contains name then some .flag
  else match name with
    | "tcp_keepalive" => some .short
    | "compression" => some .compression
    | "socket" => some .text
    | _ => none

/-- What is wrong with one parameter. -/
def parameterFault? (name value : String) : Option Fault :=
  match parameterKind? name with
  | none => some (.unknownParameter name)
  | some kind => if kind.accepts value then none else some (.parameterValue name value)

/-- The number that the last parameter of a name gives. -/
def numberOf (parameters : List (String × String)) (name : String) (default : Nat) : Nat :=
  match parameters.reverse.find? fun p => p.1 == name with
  | some (_, value) =>
    match Number.uint64Of value.toList with
    | .ok n => n.toNat
    | .error _ => default
  | none => default

/-- A pool keeps 10 to 100 connections unless its parameters say otherwise. -/
def boundsFault? (parameters : List (String × String)) : Option Fault :=
  let least := numberOf parameters "pool_min" 10
  let most := numberOf parameters "pool_max" 100
  if most < least then some (.bounds least most) else none

def parametersFault? (parameters : List (String × String)) : Option Fault :=
  match parameters.findSome? fun (name, value) => parameterFault? name value with
  | some f => some f
  | none => boundsFault? parameters

/-- What keeps a pool from being opened for a URL. -/
def fault? (text : String) : Option Fault :=
  match Url.parse text with
  | .error _ => some .incomplete
  | .ok url =>
    if url.server?.isNone then some .incomplete
    else parametersFault? (Url.parameters (url.query.getD ""))

def openFor (url : String) : Except Fault Pool :=
  match fault? url with
  | none => .ok ⟨url⟩
  | some f => .error f

end Pool

structure Registry where
  pools : Fields Pool := {}

namespace Registry

instance : Inhabited Registry := ⟨{}⟩

def contains (r : Registry) (s : Settings) : Bool := r.pools.contains s.connectionId

def size (r : Registry) : Nat := r.pools.size

def isEmpty (r : Registry) : Bool := r.pools.isEmpty

/-- What asking for a pool leads to. -/
structure Opened where
  result : Except Error Pool
  registry : Registry
  events : List Event := []

def opening (s : Settings) : Except Error Pool := do
  let url ← s.toUrl.mapError Settings.Fault.toError
  (Pool.openFor url).mapError Pool.Fault.toError

/-- The pool of the settings, opened unless there is one already. -/
def pool (r : Registry) (s : Settings) : Opened :=
  match r.pools.get? s.connectionId with
  | some pool => ⟨.ok pool, r, []⟩
  | none =>
    match opening s with
    | .error e => ⟨.error e, r, []⟩
    | .ok pool =>
      ⟨.ok pool, ⟨r.pools.insert s.connectionId pool⟩, [.poolCreated (s.host.getD "") s.persistent]⟩

/-- Gives up all pools. -/
def disconnectAll (_ : Registry) : Registry := {}

end Registry

end OneTable
