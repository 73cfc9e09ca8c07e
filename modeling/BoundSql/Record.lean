import BoundSql.Error
import BoundSql.Value.Text

/-! Rows as pairs of column name and value in the order of the select list; names may repeat. -/

namespace BoundSql

structure Record where
  fields : List (String × Value)

namespace Record

def empty : Record := ⟨[]⟩

def push (r : Record) (column : String) (value : Value) : Record := ⟨r.fields ++ [(column, value)]⟩

def get? (r : Record) (column : String) : Option Value :=
  (r.fields.find? (·.1 == column)).map (·.2)

def missing (column : String) : Error := .decode column "column not present in row"

def get (r : Record) (column : String) : Except Error Value :=
  match r.get? column with
  | some v => .ok v
  | none => .error (missing column)

def columns (r : Record) : List String := r.fields.map (·.1)

def size (r : Record) : Nat := r.fields.length

def isEmpty (r : Record) : Bool := r.fields.isEmpty

def firstValue? (r : Record) : Option Value := r.fields.head?.map (·.2)

def toJson (r : Record) : Json := Json.ofFields (r.fields.map fun f => (f.1, f.2.toJson))

def fieldsEqv : List (String × Value) → List (String × Value) → Bool
  | [], [] => true
  | (n, v) :: as, (m, w) :: bs => n == m && v == w && fieldsEqv as bs
  | _, _ => false

instance : BEq Record := ⟨fun a b => fieldsEqv a.fields b.fields⟩

end Record

end BoundSql
