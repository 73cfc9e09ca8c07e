import BoundSql.Calendar
import BoundSql.Decimal.Basic
import BoundSql.Json.Basic
import BoundSql.Uuid

/-! Values that are bound to placeholders and held by rows; a list is bound only. -/

namespace BoundSql

inductive Value where
  | null
  | bool (b : Bool)
  | int (n : Int64)
  | float (x : Float)
  | decimal (d : Decimal)
  | text (s : String)
  | timestamp (t : Timestamp)
  | uuid (u : Uuid)
  | json (j : Json)
  | list (items : List Value)

inductive ParamType where
  | integer
  | boolean
  | null
  | dateTime
  | integerList
  | stringList
  | string
  deriving DecidableEq

def ParamType.name : ParamType → String
  | .integer => "Integer"
  | .boolean => "Boolean"
  | .null => "Null"
  | .dateTime => "DateTime"
  | .integerList => "IntegerList"
  | .stringList => "StringList"
  | .string => "String"

namespace Value

/-- A list counts as integers when its first item is one, else as strings. -/
def paramType : Value → ParamType
  | int _ => .integer
  | bool _ => .boolean
  | null => .null
  | timestamp _ => .dateTime
  | list (int _ :: _) => .integerList
  | list _ => .stringList
  | _ => .string

def isNull : Value → Bool
  | null => true
  | _ => false

def isList : Value → Bool
  | list _ => true
  | _ => false

def asInt? : Value → Option Int64
  | int n => some n
  | _ => none

def asDecimal? : Value → Option Decimal
  | decimal d => some d
  | int n => some (.ofInt64 n)
  | _ => none

def asText? : Value → Option String
  | text s => some s
  | _ => none

def asBool? : Value → Option Bool
  | bool b => some b
  | _ => none

mutual

/-- Equality of values: values of different kinds are never equal, a float that is no number differs
from itself, and decimals are compared as numbers. -/
def eqv : Value → Value → Bool
  | null, null => true
  | bool a, bool b => a == b
  | int a, int b => a == b
  | float a, float b => a == b
  | decimal a, decimal b => a == b
  | text a, text b => a == b
  | timestamp a, timestamp b => decide (a = b)
  | uuid a, uuid b => decide (a = b)
  | json a, json b => a == b
  | list a, list b => itemsEqv a b
  | _, _ => false

def itemsEqv : List Value → List Value → Bool
  | [], [] => true
  | a :: as, b :: bs => eqv a b && itemsEqv as bs
  | _, _ => false

end

instance : BEq Value := ⟨eqv⟩

end Value

class ToValue (α : Type) where
  toValue : α → Value

export ToValue (toValue)

instance : ToValue Value := ⟨id⟩
instance : ToValue Bool := ⟨.bool⟩
instance : ToValue Int16 := ⟨fun n => .int n.toInt64⟩
instance : ToValue Int32 := ⟨fun n => .int n.toInt64⟩
instance : ToValue Int64 := ⟨.int⟩
instance : ToValue UInt32 := ⟨fun n => .int n.toUInt64.toInt64⟩
instance : ToValue Float32 := ⟨fun x => .float x.toFloat⟩
instance : ToValue Float := ⟨.float⟩
instance : ToValue Decimal := ⟨.decimal⟩
instance : ToValue String := ⟨.text⟩
instance : ToValue Timestamp := ⟨.timestamp⟩
instance : ToValue Day := ⟨fun d => .timestamp d.midnight⟩
instance : ToValue Uuid := ⟨.uuid⟩
instance : ToValue Json := ⟨.json⟩

instance [ToValue α] : ToValue (Option α) :=
  ⟨fun
    | none => .null
    | some a => toValue a⟩

instance [ToValue α] : ToValue (List α) := ⟨fun as => .list (as.map toValue)⟩

end BoundSql
