import OneTable.Toml.Moment

/-!
# Values of a TOML document

Scalars, arrays and tables. The keys of a table are pairwise distinct; the reader refuses a document
that defines one twice.

A moment may also be written as a table. It has one key that says so, and under it the text of the
moment; the key counts if no key of the table comes before it in the order of code points, and then
the rest of the table does not count.
-/

namespace OneTable

inductive Toml
  | string (s : String)
  | integer (n : Int64)
  | float (x : Float)
  | boolean (b : Bool)
  | moment (m : Moment)
  | array (items : List Toml)
  | table (entries : List (String × Toml))

instance : Inhabited Toml := ⟨.table []⟩

namespace Toml

/-! ### Moments spelled as tables -/

def momentKey : String := "$__toml_private_datetime"

def spelledMoment? : Toml → Option Moment
  | .string s => Moment.read? s.toList
  | _ => none

/-- What stands under the key of a moment, in a table that has it as its first. -/
def momentText? (entries : List (String × Toml)) : Option Toml :=
  match entries.find? fun e => e.1 == momentKey with
  | some (_, v) => if entries.all fun e => momentKey ≤ e.1 then some v else none
  | none => none

mutual

/-- The value with its moments in place of the tables that spell them. -/
def settled? : Toml → Option Toml
  | .array items => (settledItems? items).map .array
  | .table entries =>
    match momentText? entries with
    | some v => (spelledMoment? v).map .moment
    | none => (settledEntries? entries).map .table
  | v => some v

def settledItems? : List Toml → Option (List Toml)
  | [] => some []
  | v :: items => do some ((← settled? v) :: (← settledItems? items))

def settledEntries? : List (String × Toml) → Option (List (String × Toml))
  | [] => some []
  | (key, v) :: entries => do some ((key, ← settled? v) :: (← settledEntries? entries))

end

end Toml

end OneTable
