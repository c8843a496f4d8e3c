import RecordQuery.SortedMap

/-!
# JSON values

`Json` keeps integers and other numbers apart, as their spelling does. The members of an object
are listed in ascending order of their names, each name once; `Json.objectOfList` puts a list of
members into that form.
-/

namespace RecordQuery

inductive Json where
  | null
  | bool (value : Bool)
  | int (value : Int)
  | float (value : Float)
  | string (value : String)
  | array (items : List Json)
  | object (members : List (String × Json))
deriving Inhabited

namespace Json

/-- The object with the given members, of which the last one of each name counts. -/
def objectOfList (members : List (String × Json)) : Json :=
  .object (SortedMap.ofList members).entries

def member? (name : String) : Json → Option Json
  | .object members => members.lookup name
  | _ => none

end Json

end RecordQuery
