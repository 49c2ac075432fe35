/-!
JSON data with integers. An object is a list of pairs: order counts, and keys may repeat.
-/

namespace DocFilter

inductive Json
  | null
  | bool (b : Bool)
  | int (n : Int)
  | str (s : String)
  | arr (items : List Json)
  | obj (fields : List (String × Json))
  deriving Repr

namespace Json

/-- An object with a single field. -/
def single (key : String) (value : Json) : Json := .obj [(key, value)]

end Json

end DocFilter
