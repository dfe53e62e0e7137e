import OneTable.Error
import OneTable.Text.Blank
import OneTable.Url.Basic

/-!
# Settings

Where the server is, who asks, and which table a session starts with. Every field may be left out.
Settings are read from a document, from variables or from a URL; each reading ends with the same
check of the host, the port and the primary key, except that a URL is taken as it is.
-/

namespace OneTable

structure Settings where
  host : Option String := none
  port : Option UInt16 := none
  username : Option String := none
  password : Option String := none
  database : Option String := none
  table : Option String := none
  primaryKey : Option String := none
  /-- One pool of connections is to be kept. -/
  persistent : Bool := false
  /-- Statements are to be logged. -/
  logging : Bool := false
deriving DecidableEq, Repr

namespace Settings

instance : Inhabited Settings := ⟨{}⟩

/-- Why a file cannot be read. -/
inductive ReadFault
  | missing
  | notText
deriving DecidableEq, Repr

def ReadFault.message : ReadFault → String
  | .missing => "No such file or directory (os error 2)"
  | .notText => "stream did not contain valid UTF-8"

inductive Fault
  /-- The document is malformed, or it holds something that is no setting. -/
  | document
  | unterminated (key : String)
  | emptyReference
  | unset (key : String)
  | emptyHost
  | zeroPort
  | emptyPrimaryKey
  | badPort (text : String)
  | badFlag (name text : String)
  | badUrl (f : Url.Fault)
  | badScheme (scheme : String)
  | noHost
  | badHost (host : String) (f : Url.Fault)
  | noCredentials
  | unreadable (path : String) (f : ReadFault)
  | inFile (path : String) (f : Fault)
deriving DecidableEq, Repr

/-- The start of the names of all variables with settings. -/
def variableStart : String := "LITEORM_"

namespace Fault

def message : Fault → String
  | .document => "malformed settings document"
  | .unterminated key => "unterminated env var reference: $\x7b" ++ key
  | .emptyReference => "invalid env var reference: $\x7b\x7d"
  | .unset key => "missing env var for config expansion: " ++ key
  | .emptyHost => "host must not be empty"
  | .zeroPort => "port must not be 0"
  | .emptyPrimaryKey => "primary_key must not be empty"
  | .badPort text => "invalid " ++ variableStart ++ "PORT: " ++ Text.quoted text
  | .badFlag name text => "invalid " ++ variableStart ++ name ++ ": " ++ Text.quoted text
  | .badUrl f => "invalid URL: " ++ f.message
  | .badScheme scheme => "unsupported URL scheme: " ++ scheme
  | .noHost => "no host configured"
  | .badHost host f => "invalid host " ++ Text.quoted host ++ ": " ++ f.message
  | .noCredentials => "URL cannot carry credentials"
  | .unreadable path f => "failed to read config file " ++ path ++ ": " ++ f.message
  | .inFile path f => path ++ ": " ++ f.message

def toError (f : Fault) : Error := .config f.message

/-- The fault lies in the document as such, in a file or not. -/
def isDocument : Fault → Bool
  | .document => true
  | .inFile _ f => f.isDocument
  | _ => false

end Fault

def isBlankText (s : String) : Bool := (Text.trim s.toList).isEmpty

/-- Lets settings pass, or says what is wrong with them. -/
def check (s : Settings) : Except Fault Settings :=
  if s.host.any isBlankText then .error .emptyHost
  else if s.port = some 0 then .error .zeroPort
  else if s.primaryKey.any isBlankText then .error .emptyPrimaryKey
  else .ok s

/-- The key under which connections with these settings are shared. -/
def connectionId (s : Settings) : String :=
  s.username.getD "" ++ ":" ++ s.password.getD "" ++ "@" ++ s.host.getD "" ++
    (if s.persistent then "?persistent" else "")

end Settings

end OneTable
