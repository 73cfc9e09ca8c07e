import BoundSql.Number.Layout

/-! Decimals of a 96-bit mantissa and a scale; printed with their scale, compared as numbers. -/

namespace BoundSql

structure Decimal where
  negative : Bool
  mantissa : Nat
  scale : Nat
  mantissa_lt : mantissa < 2 ^ 96
  scale_le : scale ≤ 28

namespace Decimal

def ofParts? (negative : Bool) (mantissa scale : Nat) : Option Decimal :=
  if h : mantissa < 2 ^ 96 ∧ scale ≤ 28 then some ⟨negative, mantissa, scale, h.1, h.2⟩ else none

def zero : Decimal := ⟨false, 0, 0, by decide, by decide⟩

def signedMantissa (d : Decimal) : Int := if d.negative then -(d.mantissa : Int) else d.mantissa

def eqv (a b : Decimal) : Bool :=
  a.signedMantissa * 10 ^ b.scale == b.signedMantissa * 10 ^ a.scale

instance : BEq Decimal := ⟨eqv⟩

def ofInt64 (n : Int64) : Decimal where
  negative := n.toInt < 0
  mantissa := n.toInt.natAbs
  scale := 0
  mantissa_lt := by
    have h₁ := n.toInt_lt
    have h₂ := n.le_toInt
    omega
  scale_le := by decide

def render (d : Decimal) : String :=
  Number.signed d.negative (Number.pointed (toString d.mantissa) d.scale)

/-- Divide by ten `n` times, rounding once, halves away from zero. -/
def dropDigits (mantissa n : Nat) : Nat :=
  (mantissa + 5 * 10 ^ (n - 1) * (if n = 0 then 0 else 1)) / 10 ^ n

def widen (target : Nat) : (steps mantissa scale : Nat) → Nat × Nat
  | 0, mantissa, scale => (mantissa, scale)
  | steps + 1, mantissa, scale =>
    if scale < target ∧ mantissa * 10 < 2 ^ 96 then widen target steps (mantissa * 10) (scale + 1)
    else (mantissa, scale)

def rescale? (d : Decimal) (scale : Nat) : Option Decimal :=
  let target := min scale 28
  if d.scale ≤ target then
    let (mantissa, scale) := widen target 28 d.mantissa d.scale
    ofParts? d.negative mantissa scale
  else ofParts? d.negative (dropDigits d.mantissa (d.scale - target)) target

end Decimal

end BoundSql
