import BoundSql.Power

/-! Fixed-width numbers on the wire: big endian, negative ones in two's complement. -/

namespace BoundSql.Wire

abbrev Bytes := List UInt8

inductive Fault where
  | malformed
  /-- A number whose leading power of ten is beyond every decimal, though not beyond the arithmetic that
  forms it: reading is given up. -/
  | overscaled
  deriving DecidableEq

def wellFormed : Option α → Except Fault α
  | some a => .ok a
  | none => .error .malformed

def bigEndian : (width n : Nat) → Bytes
  | 0, _ => []
  | width + 1, n => UInt8.ofNat (n / 256 ^ width) :: bigEndian width n

def ofBigEndian (bs : Bytes) : Nat := bs.foldl (fun n b => 256 * n + b.toNat) 0

def signedBytes (width : Nat) (n : Int) : Bytes := bigEndian width (n % 256 ^ width).toNat

def ofSigned (width n : Nat) : Int := if 2 * n < 256 ^ width then n else (n : Int) - 256 ^ width

def take? (n : Nat) (bs : Bytes) : Option (Bytes × Bytes) :=
  if bs.length < n then none else some (bs.take n, bs.drop n)

def readUnsigned (width : Nat) (bs : Bytes) : Option (Nat × Bytes) :=
  (take? width bs).map fun (front, rest) => (ofBigEndian front, rest)

def readSigned (width : Nat) (bs : Bytes) : Option (Int × Bytes) :=
  (readUnsigned width bs).map fun (n, rest) => (ofSigned width n, rest)

def exactUnsigned (width : Nat) (bs : Bytes) : Option Nat :=
  if bs.length = width then some (ofBigEndian bs) else none

def exactSigned (width : Nat) (bs : Bytes) : Option Int := (exactUnsigned width bs).map (ofSigned width)

end BoundSql.Wire
