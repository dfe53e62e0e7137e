import OneTable.Session.Start
import OneTable.Statement.Forms

/-!
# Sessions at work

A session announces and logs every statement it runs, and leaves the server to a client.

An operation is an `Action`: it starts from a session at work, which is the session, the server and
the events so far, and ends in a result or an error with everything it did up to then. What a
session does to its own state comes after the statement that it depends on, so an error leaves it
where it was.
-/

namespace OneTable

/-- A session at work on a server whose state is `σ`. -/
structure Work (σ : Type) where
  session : Session
  server : σ
  events : List Event := []

abbrev Action (σ : Type) := ExceptT Error (StateM (Work σ))

namespace Session

variable {σ : Type}

/-- The error of an operation that needs a table. -/
def noTable : Error := .inputRejected "no table selected"

def emit (events : List Event) : Action σ Unit :=
  modify fun w => { w with events := w.events ++ events }

def amend (f : Session → Session) : Action σ Unit :=
  modify fun w => { w with session := f w.session }

def current : Action σ Session := do return (← get).session

def dropCache : Action σ Unit := do
  let s ← current
  emit s.cache.dropEvents
  amend fun s => { s with cache := {} }

/-- Runs one statement, announces it and logs it. -/
def send (client : Client σ) (sql : String) : Action σ Answer := do
  let w ← get
  let (answer, server) := client.execute sql w.server
  let outcome := Outcome.ofAnswer answer
  set { w with
    server
    events := w.events ++ [w.session.hook.event sql outcome]
    session := { w.session with log := w.session.log.record sql none outcome } }
  liftExcept answer
where
  liftExcept : Except Error Answer → Action σ Answer
    | .ok a => pure a
    | .error e => throw e

/-- The columns of the table, asked for at first use. -/
def columns (client : Client σ) : Action σ Columns := do
  let w ← get
  let loaded := w.session.cache.load client w.session.table w.server
  set { w with
    server := loaded.server
    events := w.events ++ loaded.events
    session := { w.session with cache := loaded.cache } }
  match loaded.result with
  | .ok columns => pure columns
  | .error e => throw e

def requireTable : Action σ String := do
  match (← current).table with
  | some table => pure table
  | none => throw noTable

/-- Learns the columns of the table and builds a statement about it. -/
def prepare (client : Client σ) (build : Table → Except Rejection Statement) :
    Action σ Statement := do
  let name ← requireTable
  let columns ← columns client
  match build { name, primaryKey := (← current).primaryKey, columns } with
  | .ok statement => pure statement
  | .error r => do
    emit [.statementRejected r]
    throw r.toError

/-- Builds a statement about the table and runs it. -/
def run (client : Client σ) (build : Table → Except Rejection Statement) : Action σ Answer := do
  let statement ← prepare client build
  send client statement.sql

end Session

end OneTable
