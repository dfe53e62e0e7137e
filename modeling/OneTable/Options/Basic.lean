import OneTable.Condition
import OneTable.Options.Order

/-!
# Options of a statement

What a statement says besides its table and its condition: what it selects and joins, how it groups,
orders and limits. Options are entries under names in lower case, or one raw clause.

Every text is cut at its first `;`, so that none can add a second statement. Six clauses have their
own place in a statement; any other option is passed on as its name in upper case and its text.
-/

namespace OneTable

inductive Options
  | entries (e : Fields String)
  | raw (clause : String)

namespace Options

instance : Inhabited Options := ⟨.entries {}⟩

def empty : Options := .entries {}

/-- The text before the first `;`. -/
def cut (s : String) : String := String.ofList (s.toList.takeWhile (· ≠ ';'))

def set (o : Options) (name value : String) : Options :=
  match o with
  | .entries e => .entries (e.insert (Text.lower name) value)
  | .raw clause => .raw clause

/-- Sets an option that is not there yet. -/
def setDefault (o : Options) (name value : String) : Options :=
  match o with
  | .entries e => if e.contains (Text.lower name) then o else o.set name value
  | .raw clause => .raw clause

def ofList (l : List (String × String)) : Options :=
  .entries (.ofList (l.map fun e => (Text.lower e.1, e.2)))

/-- Names that differ in the case of letters become one. -/
def ofFields (f : Fields String) : Options := .ofList f.toList

def ofOption : Option Options → Options
  | some o => o
  | none => empty

def get? (o : Options) (name : String) : Option String :=
  match o with
  | .entries e => (e.get? (Text.lower name)).map cut
  | .raw _ => none

def contains (o : Options) (name : String) : Bool :=
  match o with
  | .entries e => e.contains (Text.lower name)
  | .raw _ => false

/-- The first of the named options whose text is not blank, without the blanks around it. -/
def first? (o : Options) (names : List String) : Option String :=
  ((names.filterMap o.get?).map Text.trimmed).find? fun s => !s.toList.isEmpty

def selected? (o : Options) : Option String := o.first? ["select"]

def projection (o : Options) : String := o.selected?.getD "*"

def joins? (o : Options) : Option String := o.first? ["joins"]

def operator (o : Options) : String := (o.first? ["operator"]).getD Condition.defaultOperator

/-- A clause with a space before it and its word in front, or nothing. -/
def clause (word : String) : Option String → String
  | some s => " " ++ word ++ " " ++ s
  | none => ""

def limitClause (o : Options) : String := clause "LIMIT" (o.first? ["limit"])

/-- The options that have a place of their own. -/
def placed : List String :=
  ["operator", "select", "joins", "group", "group_by", "order", "order_by", "limit", "offset"]

/-- The clause of an option without a place of its own. -/
def passed (name value : String) : String :=
  let value := Text.trimmed (cut value)
  if placed.contains name || value.toList.isEmpty then "" else clause (Text.upper name) value

/-- The clauses behind the condition, each with a space before it. -/
def compile (o : Options) : String :=
  match o with
  | .raw s =>
    let s := cut s
    if (Text.trim s.toList).isEmpty then "" else " " ++ s
  | .entries e =>
    clause "GROUP BY" (o.first? ["group", "group_by"]) ++
      clause "ORDER BY" ((o.first? ["order", "order_by"]).map Order.compile) ++
      "".intercalate (e.toList.map fun (name, value) => passed name value) ++
      o.limitClause ++
      clause "OFFSET" (o.first? ["offset"])

/-- What follows the condition of a statement that changes rows: a limit, or the raw clause. -/
def updateTail (o : Options) : String :=
  match o with
  | .entries _ => o.limitClause
  | .raw _ => o.compile

end Options

end OneTable
