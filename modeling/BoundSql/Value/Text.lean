import BoundSql.Json.Printer
import BoundSql.Value.Basic

/-! The written forms of a value: the display of messages, and the JSON value of a column. -/

namespace BoundSql.Value

mutual

def display : Value → String
  | null => "NULL"
  | bool b => if b then "true" else "false"
  | int n => toString n.toInt
  | float x => Number.plain.text x
  | decimal d => d.render
  | text s => Text.quoted s
  | timestamp t => t.render
  | uuid u => u.render
  | json j => j.compact
  | list items => Text.listText (displays items)

def displays : List Value → List String
  | [] => []
  | item :: rest => display item :: displays rest

end

mutual

/-- Values without a JSON form of their own are texts there, and a float that is no number is null. -/
def toJson : Value → Json
  | null => .null
  | bool b => .bool b
  | int n => .integer n.toInt
  | float x => if x.isFinite then .float x else .null
  | decimal d => .text d.render
  | text s => .text s
  | timestamp t => .text t.render
  | uuid u => .text u.render
  | json j => j
  | list items => .array (toJsons items)

def toJsons : List Value → List Json
  | [] => []
  | item :: rest => toJson item :: toJsons rest

end

end BoundSql.Value
