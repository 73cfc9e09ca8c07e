import BoundSql.Json.Reader

/-! Identifiers of sixteen bytes, written in hexadecimal with hyphens. -/

namespace BoundSql

structure Uuid where
  bytes : List UInt8
  length_eq : bytes.length = 16
  deriving DecidableEq

namespace Uuid

def ofBytes? (bytes : List UInt8) : Option Uuid :=
  if h : bytes.length = 16 then some ⟨bytes, h⟩ else none

def hex (bytes : List UInt8) : String :=
  String.ofList (bytes.flatMap fun b => [Nat.digitChar (b.toNat / 16), Nat.digitChar (b.toNat % 16)])

def render (u : Uuid) : String :=
  "-".intercalate
    [hex (u.bytes.take 4), hex ((u.bytes.drop 4).take 2), hex ((u.bytes.drop 6).take 2),
      hex ((u.bytes.drop 8).take 2), hex (u.bytes.drop 10)]

def ofHex? : List Char → Option (List UInt8)
  | [] => some []
  | a :: b :: rest => do
    let high ← Json.hexValue? a
    let low ← Json.hexValue? b
    return UInt8.ofNat (16 * high + low) :: (← ofHex? rest)
  | [_] => none

def ofText? (s : String) : Option Uuid :=
  (ofHex? (s.toList.filter (· != '-'))).bind ofBytes?

end Uuid

end BoundSql
