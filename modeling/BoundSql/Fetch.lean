import BoundSql.Record
import BoundSql.Text.Blank

/-! Fetch strategies: two built-in ones that fit one type each, and functions of the caller. -/

namespace BoundSql

class RowType (α : Type) where
  typeName : String
  ofRecord? : Option (Record → α)
  ofObject? : Option (Json → α)

instance : RowType Record := ⟨"querymap::record::Record", some id, none⟩

instance : RowType Json := ⟨"serde_json::value::Value", none, some id⟩

inductive Fetch (α : Type) where
  | identity
  | object
  | callback (f : Record → Except Error α)
  | type (f : Record → Except Error α)

namespace Fetch

variable {α : Type}

def text : Fetch α → String
  | identity => "Identity"
  | object => "Object"
  | callback _ => "Callback(..)"
  | type _ => "Type(..)"

def unknown (name : String) : Error := .unexpectedValue ("unknown fetch strategy '" ++ name ++ "'")

def cannotProduce (strategy typeName : String) : Error :=
  .unexpectedValue ("fetch strategy " ++ strategy ++ " cannot produce " ++ typeName)

def cannotHandOut (given wanted : String) : Error :=
  .unexpectedValue ("cannot hand out " ++ given ++ " as " ++ wanted)

variable [RowType α]

def fits : Fetch α → Bool
  | identity => (RowType.ofRecord? (α := α)).isSome
  | object => (RowType.ofObject? (α := α)).isSome
  | callback _ | type _ => true

def check (f : Fetch α) : Except Error Unit :=
  if f.fits then .ok () else .error (cannotProduce f.text (RowType.typeName α))

def map (f : Fetch α) (r : Record) : Except Error α :=
  match f with
  | identity =>
    match RowType.ofRecord? (α := α) with
    | some g => .ok (g r)
    | none => .error (cannotHandOut (RowType.typeName Record) (RowType.typeName α))
  | object =>
    match RowType.ofObject? (α := α) with
    | some g => .ok (g r.toJson)
    | none => .error (cannotHandOut (RowType.typeName Json) (RowType.typeName α))
  | callback g | type g => g r

def ofName (name : String) : Except Error (Fetch α) := do
  let strategy : Fetch α ←
    match Text.keyword name with
    | "record" | "array" | "identity" => pure identity
    | "object" => pure object
    | other => throw (unknown other)
  strategy.check
  return strategy

end Fetch

end BoundSql
