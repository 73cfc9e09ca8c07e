import BoundSql.Decimal.Basic

/-! Decimals to floats by their whole and fraction parts, and floats to decimals within 96 bits. -/

namespace BoundSql.Decimal

def floatTenTo : (fuel n : Nat) → (power result : Float) → Float
  | 0, _, _, result => result
  | fuel + 1, n, power, result =>
    let result := if n % 2 = 1 then result * power else result
    if n / 2 = 0 then result else floatTenTo fuel (n / 2) (power * power) result

def toFloat (d : Decimal) : Float :=
  let whole (n : Nat) : Float := Number.floatOfFraction false n 1
  let unsigned :=
    if d.scale = 0 then whole d.mantissa
    else
      let unit := 10 ^ d.scale
      let fraction := whole (d.mantissa % unit) / whole unit
      if d.mantissa % unit = 0 then whole (d.mantissa / unit)
      else
        let places := floatTenTo 8 d.scale 10 1
        ((whole (d.mantissa / unit) + fraction) * places).round / places
  if d.negative && !(d.scale = 0 && d.mantissa = 0) then -unsigned else unsigned

/-- Take `fives` factors of one half out of `m`, as halvings while `m` is even and as fives under a
power of ten otherwise; a mantissa that a factor five would make too long is halved instead. The second
number counts the halvings. -/
def reduceHalves : (fives m halvings : Nat) → Nat × Nat
  | 0, m, halvings => (m, halvings)
  | fives + 1, m, halvings =>
    if m % 2 = 0 ∨ 2 ^ 96 ≤ m * 5 then reduceHalves fives (m / 2) (halvings + 1)
    else reduceHalves fives (m * 5) halvings

/-- Drop last digits, each rounded half up, while `drop` says so; `places` is what is left of the
scale. A mantissa that has lost its only digit is zero. -/
def shed (drop : Nat → Nat → Bool) : (fuel m places : Nat) → Nat × Nat
  | 0, m, places => (m, places)
  | fuel + 1, m, places =>
    if drop m places then
      if m / 10 = 0 then (0, 0)
      else shed drop fuel (if 5 ≤ m % 10 then m / 10 + 1 else m / 10) (places - 1)
    else (m, places)

def ofFloat? (x : Float) : Option Decimal :=
  match Number.parts x with
  | .nan | .infinite _ => none
  | .finite negative f =>
    if 0 ≤ f.exponent then ofParts? negative (f.significand * 2 ^ f.exponent.toNat) 0
    else
      let halves := (-f.exponent).toNat
      let (m, halvings) := reduceHalves halves f.significand 0
      let (m, places) := shed (fun _ places => 28 < places) halves m (halves - halvings)
      if m = 0 then ofParts? negative 0 0
      else
        let (m, places) := shed (fun m places => 0 < places && 2 ^ 52 ≤ m) places m places
        let (m, places) := shed (fun m places => 0 < places && m % 10 == 0) places m places
        ofParts? negative m places

end BoundSql.Decimal
