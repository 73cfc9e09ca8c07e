import BoundSql.Power

/-! Binary floating-point formats as sets of exact values; ties round to the even pattern. -/

namespace BoundSql.Number

structure BinaryFormat where
  precision : Nat
  minExponent : Int
  infinity : Nat

def binary64 : BinaryFormat := ⟨53, -1074, 0x7FF0000000000000⟩

def binary32 : BinaryFormat := ⟨24, -149, 0x7F800000⟩

def scaled (num den : Nat) (q : Int) : Nat × Nat :=
  if 0 ≤ q then (num, den * 2 ^ q.toNat) else (num * 2 ^ (-q).toNat, den)

def roundEven (num den : Nat) : Nat :=
  let whole := num / den
  let rest := num % den
  if den < 2 * rest || (2 * rest == den && whole % 2 == 1) then whole + 1 else whole

def BinaryFormat.nearest (f : BinaryFormat) (num den : Nat) : Nat :=
  if num = 0 then 0
  else
    let guess : Int := (num.log2 : Int) - den.log2 - f.precision
    let (n, d) := scaled num den guess
    let fitted := if 2 ^ f.precision ≤ n / d then guess + 1 else guess
    let q := max fitted f.minExponent
    let (n, d) := scaled num den q
    min ((q - f.minExponent).toNat * 2 ^ (f.precision - 1) + roundEven n d) f.infinity

def floatOfFraction (negative : Bool) (num den : Nat) : Float :=
  let x := Float.ofBits (UInt64.ofNat (binary64.nearest num den))
  if negative then -x else x

def shortFloatOfFraction (negative : Bool) (num den : Nat) : Float32 :=
  let x := Float32.ofBits (UInt32.ofNat (binary32.nearest num den))
  if negative then -x else x

/-- A finite magnitude as significand and exponent: its value is `significand · 2 ^ exponent`.
`boundary` says that the next smaller magnitude is only half as far away as the next larger one. -/
structure Magnitude where
  significand : Nat
  exponent : Int
  boundary : Bool

inductive Parts where
  | nan
  | infinite (negative : Bool)
  | finite (negative : Bool) (magnitude : Magnitude)

def parts (x : Float) : Parts :=
  let bits := x.toBits.toNat
  let negative := 2 ^ 63 ≤ bits
  let field : Nat := bits / 2 ^ 52 % 2 ^ 11
  let fraction : Nat := bits % 2 ^ 52
  if field = 2047 then (if fraction = 0 then .infinite negative else .nan)
  else if field = 0 then .finite negative ⟨fraction, -1074, false⟩
  else .finite negative ⟨fraction + 2 ^ 52, (field : Int) - 1075, fraction == 0 && 1 < field⟩

end BoundSql.Number
