import ClassAtlas.Value

/-!
Values of the JSON data format. Members keep their order; a name stands at most once.
-/
namespace ClassAtlas

inductive Json where
  | null
  | bool (b : Bool)
  | int (n : Int)
  | float (x : Decimal.Binary64)
  | str (s : String)
  | arr (items : List Json)
  | obj (members : List (String × Json))
  deriving Repr, Inhabited

namespace Json

mutual

/-- Every JSON value is a document value. -/
def toValue : Json → Value
  | .null => .null
  | .bool b => .bool b
  | .int n => .int n
  | .float x => .float x
  | .str s => .str s
  | .arr items => .seq (itemValues items)
  | .obj members => .map (memberValues members)

def itemValues : List Json → List Value
  | [] => []
  | v :: rest => toValue v :: itemValues rest

def memberValues : List (String × Json) → List (Value × Value)
  | [] => []
  | (name, v) :: rest => (.str name, toValue v) :: memberValues rest

end

/-- The member of a name in a list of members. -/
def find? (name : String) : List (String × Json) → Option Json
  | [] => none
  | (n, v) :: rest => if n = name then some v else find? name rest

/-- A member written over one of its name takes that one's place. -/
def put (name : String) (value : Json) : List (String × Json) → List (String × Json)
  | [] => [(name, value)]
  | (n, v) :: rest => if n = name then (n, value) :: rest else (n, v) :: put name value rest

def field? (name : String) : Json → Option Json
  | .obj members => find? name members
  | _ => none

end Json
end ClassAtlas
