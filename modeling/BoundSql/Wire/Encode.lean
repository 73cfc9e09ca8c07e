import BoundSql.Decimal.Float
import BoundSql.Json.Printer
import BoundSql.Value.Basic
import BoundSql.Wire.Numeric
import BoundSql.Wire.SqlType

/-! Binding values: a holder accepts some types and encodes for them, and the rest is refused. -/

namespace BoundSql.Wire

inductive EncodeError where
  | mismatch (holder : String) (type : SqlType)
  | tooLarge
  | tooSmall
  | noDecimal
  | unexpandedList

def EncodeError.message : EncodeError → String
  | mismatch holder type =>
    "cannot convert between the Rust type `" ++ holder ++ "` and the Postgres type `" ++
      type.typeName ++ "`"
  | tooLarge => "number too large to fit in target type"
  | tooSmall => "number too small to fit in target type"
  | noDecimal => "Error while converting to Decimal"
  | unexpandedList => "list values must be expanded into placeholder groups before binding"

abbrev Encoded := Except EncodeError (Option Bytes)

/-- What values are converted to: the types that take it, and its bytes in such a type. -/
structure Holder (α : Type) where
  name : String
  accepts : SqlType → Bool
  bytes : SqlType → α → Bytes

def Holder.encode {α : Type} (h : Holder α) (a : α) (type : SqlType) : Encoded :=
  if h.accepts type then .ok (some (h.bytes type a)) else .error (.mismatch h.name type)

structure IntRange where
  low : Int
  high : Int

def int2Range : IntRange := ⟨-2 ^ 15, 2 ^ 15 - 1⟩
def int4Range : IntRange := ⟨-2 ^ 31, 2 ^ 31 - 1⟩
def oidRange : IntRange := ⟨0, 2 ^ 32 - 1⟩

def IntRange.narrow (r : IntRange) (n : Int) : Except EncodeError Int :=
  if r.high < n then .error .tooLarge
  else if n < r.low then .error .tooSmall
  else .ok n

def encodeFloat8 (x : Float) : Bytes := bigEndian 8 x.toBits.toNat

def encodeFloat4 (x : Float32) : Bytes := bigEndian 4 x.toBits.toNat

def utf8 (s : String) : Bytes := s.toUTF8.data.toList

def epochDay : Int := 10957

def microseconds (t : Timestamp) : Int :=
  (((t.day.number - epochDay) * 86400 + t.second) * 1000000000 + t.nano).tdiv 1000

def encodeTimestamp (t : Timestamp) : Bytes := signedBytes 8 (microseconds t)

def encodeDate (d : Day) : Bytes := signedBytes 4 (d.number - epochDay)

def encodeJson (j : Json) : Bytes := utf8 j.compact

namespace Holder

def bool : Holder Bool := ⟨"bool", (· == .bool), fun _ b => [if b then 1 else 0]⟩

def fixed (name : String) (type : SqlType) (width : Nat) : Holder Int :=
  ⟨name, (· == type), fun _ => signedBytes width⟩

def int16 : Holder Int := fixed "i16" .int2 2
def int32 : Holder Int := fixed "i32" .int4 4
def int64 : Holder Int := fixed "i64" .int8 8
def uint32 : Holder Int := fixed "u32" .oid 4

def float32 : Holder Float32 := ⟨"f32", (· == .float4), fun _ => encodeFloat4⟩

def float64 : Holder Float := ⟨"f64", (· == .float8), fun _ => encodeFloat8⟩

def decimal : Holder Decimal :=
  ⟨"rust_decimal::decimal::Decimal", (· == .numeric), fun _ => encodeNumeric⟩

def textNames : List String := ["citext", "ltree", "lquery", "ltxtquery"]

/-- Paths of labels have a version byte in front. -/
def text : Holder String where
  name := "alloc::string::String"
  accepts
    | .text | .varchar | .bpchar | .name | .unknown => true
    | .other n => textNames.contains n
    | _ => false
  bytes type s :=
    match type with
    | .other n => if n = "citext" then utf8 s else 1 :: utf8 s
    | _ => utf8 s

def unzoned : Holder Timestamp :=
  ⟨"chrono::naive::datetime::NaiveDateTime", (· == .timestamp), fun _ => encodeTimestamp⟩

def zoned : Holder Timestamp :=
  ⟨"chrono::datetime::DateTime<chrono::offset::utc::Utc>", (· == .timestamptz), fun _ => encodeTimestamp⟩

def day : Holder Day := ⟨"chrono::naive::date::NaiveDate", (· == .date), fun _ => encodeDate⟩

def uuid : Holder Uuid := ⟨"uuid::Uuid", (· == .uuid), fun _ => Uuid.bytes⟩

def json : Holder Json where
  name := "serde_json::value::Value"
  accepts type := type == .json || type == .jsonb
  bytes type j := if type = .jsonb then 1 :: encodeJson j else encodeJson j

end Holder

def encodeInt (n : Int64) (type : SqlType) : Encoded :=
  match type with
  | .int2 => (int2Range.narrow n.toInt).bind (Holder.int16.encode · type)
  | .int4 => (int4Range.narrow n.toInt).bind (Holder.int32.encode · type)
  | .oid => (oidRange.narrow n.toInt).bind (Holder.uint32.encode · type)
  | .float4 => Holder.float32.encode n.toFloat32 type
  | .float8 => Holder.float64.encode n.toFloat type
  | .numeric => Holder.decimal.encode (.ofInt64 n) type
  | _ => Holder.int64.encode n.toInt type

def encodeFloat (x : Float) (type : SqlType) : Encoded :=
  match type with
  | .float4 => Holder.float32.encode x.toFloat32 type
  | .numeric =>
    match Decimal.ofFloat? x with
    | some d => Holder.decimal.encode d type
    | none => .error .noDecimal
  | _ => Holder.float64.encode x type

/-- For either float type a decimal is converted to a long float. -/
def encodeDecimal (d : Decimal) (type : SqlType) : Encoded :=
  match type with
  | .float4 | .float8 => Holder.float64.encode d.toFloat type
  | _ => Holder.decimal.encode d type

def encodePoint (t : Timestamp) (type : SqlType) : Encoded :=
  match type with
  | .timestamptz => Holder.zoned.encode t type
  | .date => Holder.day.encode t.day type
  | _ => Holder.unzoned.encode t type

end BoundSql.Wire

namespace BoundSql

open Wire in
def Value.encode (v : Value) (type : SqlType) : Encoded :=
  match v with
  | null => .ok none
  | bool b => Holder.bool.encode b type
  | int n => encodeInt n type
  | float x => encodeFloat x type
  | decimal d => encodeDecimal d type
  | text s => Holder.text.encode s type
  | timestamp t => encodePoint t type
  | uuid u => Holder.uuid.encode u type
  | json j => Holder.json.encode j type
  | list _ => .error .unexpandedList

end BoundSql
