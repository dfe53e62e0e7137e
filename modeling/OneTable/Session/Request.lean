import OneTable.Session.Operations

/-!
# Requests

An operation of a session with its arguments, and what it replies. `Session.perform` carries out one
request and `Session.performAll` one after the other.
-/

namespace OneTable

inductive Request
  | withTable (table : String)
  | withPrimaryKey (key : String)
  | withLog (on : Bool)
  | withHook (hook : Hook)
  | selectTable (table : String)
  | selectDatabase (database : String)
  | columns
  | refreshColumns
  | columnType (column : String)
  | find (c : Condition) (o : Options)
  | findOne (c : Condition) (o : Options)
  | findAll (c : Condition) (o : Options)
  | findAllIndexed (c : Condition) (o : Options) (index : String)
  | random (limit : Option UInt64) (c : Condition)
  | count (c : Condition) (o : Options)
  | countGrouped (c : Condition) (o : Options)
  | insert (rs : List Record)
  | updateFirst (c : Condition) (r : Record) (o : Options)
  | updateAll (c : Condition) (r : Record) (o : Options)
  | increment (c : Condition) (column : String) (step : Value) (o : Options)
  | deleteFirst (c : Condition) (o : Options)
  | deleteAll (c : Condition) (o : Options)
  | query (sql : String)
  | optimize (unlogged : Bool)
  | truncate (sure : Bool)
  | takeLog

inductive Reply
  | done
  | flag (b : Bool)
  | columns (cs : Columns)
  | columnType (t : Option ColumnType)
  | row (r : Option Row)
  | rows (rs : List Row)
  | indexed (rs : Fields Row)
  | count (n : UInt64)
  | counts (ns : List (Value × UInt64))
  | affected (a : Option Affected)
  | answer (a : Answer)
  | statements (sqls : List String)

namespace Session

variable {σ : Type}

/-- Takes a table and tells what the cache held. -/
def takeTable (table : String) : Action σ Unit := do
  emit (← current).cache.dropEvents
  amend fun s => s.withTable table

def perform (client : Client σ) : Request → Action σ Reply
  | .withTable table => do takeTable table; return .done
  | .withPrimaryKey key => do amend fun s => s.withPrimaryKey key; return .done
  | .withLog on => do amend fun s => s.withLog on; return .done
  | .withHook hook => do amend fun s => s.withHook hook; return .done
  | .selectTable table => do selectTable table; return .done
  | .selectDatabase database => return .flag (← selectDatabase client database)
  | .columns => return .columns (← columns client)
  | .refreshColumns => return .columns (← refreshColumns client)
  | .columnType column => return .columnType (← columnType client column)
  | .find c o => return .row (← find client c o)
  | .findOne c o => return .row (some (← findOne client c o))
  | .findAll c o => return .rows (← findAll client c o)
  | .findAllIndexed c o index => return .indexed (← findAllIndexed client c o index)
  | .random limit c => return .rows (← random client limit c)
  | .count c o => return .count (← count client c o)
  | .countGrouped c o => return .counts (← countGrouped client c o)
  | .insert rs => return .affected (some (← insert client rs))
  | .updateFirst c r o => return .affected (some (← updateFirst client c r o))
  | .updateAll c r o => return .affected (some (← updateAll client c r o))
  | .increment c column step o => return .affected (some (← increment client c column step o))
  | .deleteFirst c o => return .affected (some (← deleteFirst client c o))
  | .deleteAll c o => return .affected (some (← deleteAll client c o))
  | .query sql => return .answer (← query client sql)
  | .optimize unlogged => return .answer (← optimize client unlogged)
  | .truncate sure => return .affected (← truncate client sure)
  | .takeLog => return .statements (← takeLog)

/-- Carries out requests in order; an error of one does not stop the others. -/
def performAll (client : Client σ) : List Request → Work σ → List (Except Error Reply) × Work σ
  | [], w => ([], w)
  | r :: rs, w =>
    let (reply, w) := (perform client r).run w
    let (replies, w) := performAll client rs w
    (reply :: replies, w)

theorem performAll_cons (client : Client σ) (r : Request) (rs : List Request) (w : Work σ) :
    performAll client (r :: rs) w =
      (((perform client r).run w).1 :: (performAll client rs ((perform client r).run w).2).1,
        (performAll client rs ((perform client r).run w).2).2) :=
  rfl

end Session

end OneTable
