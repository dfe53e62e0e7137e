import OneTable.Settings.Basic
import OneTable.Url.Reader

/-!
# Settings and URLs

A URL of the scheme `mysql` carries the host, the port, the credentials and the database. Reading
takes each part as it is written in the URL; writing encodes it.
-/

namespace OneTable.Settings

/-- The scheme of the URLs of servers. -/
def scheme : String := "mysql"

def nonEmpty? (s : String) : Option String := if s.toList.isEmpty then none else some s

def ofUrl (text : String) : Except Fault Settings := do
  let url ← (Url.parse text).mapError .badUrl
  if url.scheme = scheme then
    let authority? := url.authority
    return {
      host := authority?.bind fun a => nonEmpty? a.host
      port := authority?.bind fun a => a.port
      username := authority?.bind fun a => nonEmpty? a.username
      password := authority?.bind fun a => a.password.bind nonEmpty?
      database := nonEmpty? (String.ofList (url.path.toList.dropWhile (· == '/'))) }
  else throw (.badScheme url.scheme)

/-- Changes a URL by a setting, if there is that setting. -/
def amended {α : Type} (change : Url → α → Option Url) (setting : Option α) (url : Url) :
    Except Fault Url :=
  match setting with
  | none => .ok url
  | some a =>
    match change url a with
    | some url => .ok url
    | none => .error .noCredentials

def toUrl (s : Settings) : Except Fault String := do
  match s.host with
  | none => throw .noHost
  | some host =>
    let url ← (Url.parse (scheme ++ "://" ++ host)).mapError (.badHost host)
    let url ← amended Url.withUsername? s.username url
    let url ← amended Url.withPassword? s.password url
    let url ← amended Url.withPort? s.port url
    return (match s.database with | some database => url.withPath database | none => url).text

end OneTable.Settings
