/-! JSON values; fields are sorted by name, and whole numbers differ from floats. -/

namespace BoundSql

inductive Json where
  | null
  | bool (b : Bool)
  | integer (n : Int)
  | float (x : Float)
  | text (s : String)
  | array (items : List Json)
  | object (fields : List (String × Json))
  deriving Inhabited

namespace Json

def put (name : String) (value : Json) : List (String × Json) → List (String × Json)
  | [] => [(name, value)]
  | (other, old) :: rest =>
    if name < other then (name, value) :: (other, old) :: rest
    else if name = other then (name, value) :: rest
    else (other, old) :: put name value rest

/-- An object from fields in any order; of several fields with one name the last stays. -/
def ofFields (fields : List (String × Json)) : Json :=
  object (fields.foldl (fun sorted f => put f.1 f.2 sorted) [])

def field? (name : String) : Json → Option Json
  | object fields => (fields.find? (·.1 == name)).map (·.2)
  | _ => none

mutual

def eqv : Json → Json → Bool
  | null, null => true
  | bool a, bool b => a == b
  | integer a, integer b => a == b
  | float a, float b => a == b
  | text a, text b => a == b
  | array a, array b => itemsEqv a b
  | object a, object b => fieldsEqv a b
  | _, _ => false

def itemsEqv : List Json → List Json → Bool
  | [], [] => true
  | a :: as, b :: bs => eqv a b && itemsEqv as bs
  | _, _ => false

def fieldsEqv : List (String × Json) → List (String × Json) → Bool
  | [], [] => true
  | (n, a) :: as, (m, b) :: bs => n == m && eqv a b && fieldsEqv as bs
  | _, _ => false

end

instance : BEq Json := ⟨eqv⟩

end Json

end BoundSql
