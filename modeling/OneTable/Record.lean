import OneTable.Fields
import OneTable.Value

/-!
# Records

The values a caller supplies for the columns of a row to insert or update. A `null` counts as not
supplied.
-/

namespace OneTable

abbrev Record := Fields Value

namespace Record

/-- The value for a column unless it is missing or `null`. -/
def supplied? (r : Record) (column : String) : Option Value :=
  (r.get? column).filter fun v => !v.isNull

def ofMembers (members : List (String × Json)) : Record :=
  .ofList (members.map fun (name, j) => (name, Value.ofJson j))

/-- None of the records holds anything. -/
def allEmpty (rs : List Record) : Bool := rs.all Fields.isEmpty

/-- An object is one record, an array one for each object in it; anything else holds none. -/
def listOfJson : Json → List Record
  | .object members => [ofMembers members]
  | .array items => items.filterMap fun
    | .object members => some (ofMembers members)
    | _ => none
  | _ => []

/-- The first record of a document, or the empty one. -/
def ofJson (j : Json) : Record := (listOfJson j).head?.getD {}

end Record

end OneTable
