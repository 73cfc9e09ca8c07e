import BoundSql.Error
import BoundSql.Json.Reader
import BoundSql.Wire.Encode

/-! Reading cells: one decoding for each column type, which must use up all bytes. -/

namespace BoundSql.Wire

inductive DecodeError where
  | malformed (index : Nat)
  | unsupported (type : SqlType)
  | overscaled

def DecodeError.message : DecodeError → String
  | malformed index => "error deserializing column " ++ toString index
  | unsupported type => "unsupported column type " ++ type.typeName
  | overscaled => "power of ten beyond every decimal"

def DecodeError.toError (column : String) : DecodeError → Error
  | overscaled => .aborted DecodeError.overscaled.message
  | e => .decode column e.message

def decodeBool : Bytes → Option Bool
  | [b] => some (b != 0)
  | _ => none

def decodeInt (width : Nat) (bs : Bytes) : Option Int64 := (exactSigned width bs).map Int64.ofInt

def decodeOid (bs : Bytes) : Option Int64 := (exactUnsigned 4 bs).map fun n => Int64.ofInt n

def decodeFloat4 (bs : Bytes) : Option Float :=
  (exactUnsigned 4 bs).map fun n => (Float32.ofBits (UInt32.ofNat n)).toFloat

def decodeFloat8 (bs : Bytes) : Option Float :=
  (exactUnsigned 8 bs).map fun n => Float.ofBits (UInt64.ofNat n)

def decodeText (bs : Bytes) : Option String := String.fromUTF8? ⟨bs.toArray⟩

def timestampOfMicroseconds (n : Int) : Option Timestamp := do
  let perDay : Int := 86400000000
  let day ← Day.ofNumber? (n.fdiv perDay + epochDay)
  let rest := (n.fmod perDay).toNat
  Timestamp.ofParts? day (rest / 1000000) (rest % 1000000 * 1000)

def decodeTimestamp (bs : Bytes) : Option Timestamp := (exactSigned 8 bs).bind timestampOfMicroseconds

def decodeDate (bs : Bytes) : Option Day := (exactSigned 4 bs).bind fun n => Day.ofNumber? (n + epochDay)

def decodeJson (bs : Bytes) : Option Json := (decodeText bs).bind Json.ofText?

def decodeJsonb : Bytes → Option Json
  | 1 :: bs => decodeJson bs
  | _ => none

def readItem (bs : Bytes) : Option (Bytes × Bytes) := do
  let (length, rest) ← readSigned 4 bs
  if length < 0 then none else take? length.toNat rest

def decodeItems (item : Bytes → Except Fault α) : (count : Nat) → Bytes → Except Fault (List α)
  | 0, bs => if bs.isEmpty then .ok [] else .error .malformed
  | count + 1, bs => do
    let (front, rest) ← wellFormed (readItem bs)
    let first ← item front
    return first :: (← decodeItems item count rest)

/-- The head of an array: its dimensions, a null flag and the item type, then the length and lower bound
of the dimension, if there is one. The number of items, and what follows. -/
def readArrayHead (bs : Bytes) : Option (Nat × Bytes) := do
  let (dimensions, rest) ← readSigned 4 bs
  let (_, rest) ← readSigned 4 rest
  let (_, rest) ← readUnsigned 4 rest
  if dimensions = 0 then some (0, rest)
  else if dimensions = 1 then
    let (length, rest) ← readSigned 4 rest
    let (_, rest) ← readSigned 4 rest
    if length < 0 then none else some (length.toNat, rest)
  else none

def decodeArray (item : Bytes → Except Fault α) (bs : Bytes) : Except Fault (List α) := do
  let (count, rest) ← wellFormed (readArrayHead bs)
  decodeItems item count rest

def plain (decode : Bytes → Option α) (bs : Bytes) : Except Fault α := wellFormed (decode bs)

def one (decode : Bytes → Except Fault α) (value : α → Value) (bs : Bytes) : Except Fault Value :=
  (decode bs).map value

def listOf (decode : Bytes → Except Fault α) (value : α → Value) (bs : Bytes) : Except Fault Value :=
  (decodeArray decode bs).map fun items => .list (items.map value)

def decoder : SqlType → Option (Bytes → Except Fault Value)
  | .bool => some (one (plain decodeBool) .bool)
  | .int2 => some (one (plain (decodeInt 2)) .int)
  | .int4 => some (one (plain (decodeInt 4)) .int)
  | .int8 => some (one (plain (decodeInt 8)) .int)
  | .oid => some (one (plain decodeOid) .int)
  | .float4 => some (one (plain decodeFloat4) .float)
  | .float8 => some (one (plain decodeFloat8) .float)
  | .numeric => some (one decodeNumeric .decimal)
  | .text | .varchar | .bpchar | .name | .unknown => some (one (plain decodeText) .text)
  | .timestamp | .timestamptz => some (one (plain decodeTimestamp) .timestamp)
  | .date => some (one (plain decodeDate) fun d => .timestamp d.midnight)
  | .uuid => some (one (plain Uuid.ofBytes?) .uuid)
  | .json => some (one (plain decodeJson) .json)
  | .jsonb => some (one (plain decodeJsonb) .json)
  | .array .bool => some (listOf (plain decodeBool) .bool)
  | .array .int2 => some (listOf (plain (decodeInt 2)) .int)
  | .array .int4 => some (listOf (plain (decodeInt 4)) .int)
  | .array .int8 => some (listOf (plain (decodeInt 8)) .int)
  | .array .numeric => some (listOf decodeNumeric .decimal)
  | .array .text | .array .varchar => some (listOf (plain decodeText) .text)
  | _ => none

def decodeCell (index : Nat) (type : SqlType) (cell : Option Bytes) : Except DecodeError Value :=
  match decoder type with
  | none => .error (.unsupported type)
  | some decode =>
    match cell with
    | none => .ok .null
    | some bs =>
      match decode bs with
      | .ok v => .ok v
      | .error .malformed => .error (.malformed index)
      | .error .overscaled => .error .overscaled

end BoundSql.Wire
