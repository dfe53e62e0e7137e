import OneTable.Error

/-!
# Faults of the server, the connection and the pool

The server gives each of its faults a number, which says whether a constraint was violated. A pool
has no faults but those of the URL that it is opened for.
-/

namespace OneTable

namespace Wire

inductive Fault
  /-- The server refused a statement. -/
  | server (code : UInt16) (message : String)
  /-- The connection failed. -/
  | io (text : String)
  | other (text : String)
deriving DecidableEq, Repr

def Fault.toError : Fault → Error
  | .server code message =>
    let text := message ++ " (" ++ toString code.toNat ++ ")"
    if code == 1062 then .uniqueViolation text
    else if code == 1451 || code == 1452 then .foreignKeyViolation text
    else if code == 3819 then .checkViolation text
    else .query text
  | .io text => .connection ("Input/output error: " ++ text)
  | .other text => .query ("Other error: " ++ text)

end Wire

namespace Pool

inductive Fault
  | incomplete
  | unknownParameter (name : String)
  | parameterValue (name value : String)
  /-- The least number of connections is above the largest. -/
  | bounds (least most : Nat)
deriving DecidableEq, Repr

def Fault.message : Fault → String
  | .incomplete => "Invalid or incomplete connection URL"
  | .unknownParameter name => "Unknown connection URL parameter \x60" ++ name ++ "'"
  | .parameterValue name value =>
    "Invalid value \x60" ++ value ++ "' for connection URL parameter \x60" ++ name ++ "'"
  | .bounds least most =>
    "Invalid pool constraints: pool_min (" ++ toString least ++ ") > pool_max (" ++
      toString most ++ ")."

def Fault.toError (f : Fault) : Error := .connection f.message

end Pool

end OneTable
