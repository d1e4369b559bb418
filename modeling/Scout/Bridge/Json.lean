import Scout.Number.Binary64

/-! JSON values as the bridge and its clients exchange them. -/

namespace Scout

/-- A JSON value, with integers kept apart from floating-point numbers. -/
inductive Json where
  | null
  | bool (value : Bool)
  | int (value : Int)
  | float (value : F64)
  | text (value : String)
  | array (items : List Json)
  | object (fields : List (String × Json))

namespace Json

/-- The value stored under a name, where a repeated name keeps its last value. -/
def get (name : String) : Json → Option Json
  | .object fields => (fields.reverse.find? fun field => field.1 == name).map Prod.snd
  | _ => none

end Json
end Scout
