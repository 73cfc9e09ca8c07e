import BoundSql.Number.Binary

/-! The shortest decimal that reads back as a float, searched on grids of one to seventeen digits. -/

namespace BoundSql.Number

structure Digits where
  significand : Nat
  exponent : Int
  deriving DecidableEq

inductive Tie where
  | up
  | even

def Tie.leaves (below : Nat) : Tie → Bool
  | up => true
  | even => below % 2 == 1

structure Interval where
  low : Nat
  value : Nat
  high : Nat
  den : Nat
  closed : Bool

def Magnitude.interval (m : Magnitude) : Interval :=
  let (unit, den) := scaled 1 1 (2 - m.exponent)
  let value := 4 * m.significand
  { low := (if m.boundary then value - 1 else value - 2) * unit
    value := value * unit
    high := (value + 2) * unit
    den := den
    closed := m.significand % 2 == 0 }

def tenTo (e : Int) : Nat × Nat := if 0 ≤ e then (10 ^ e.toNat, 1) else (1, 10 ^ (-e).toNat)

def decimalExponent (num den : Nat) : Int :=
  let guess := ((num.log2 : Int) - den.log2) * 30103 / 100000
  let fits (e : Int) : Bool := let (p, q) := tenTo e; p * den ≤ num * q
  ([guess + 2, guess + 1, guess, guess - 1].find? fits).getD (guess - 2)

namespace Interval

def holds (i : Interval) (k : Nat) (e : Int) : Bool :=
  let (p, q) := tenTo e
  let point := k * p * i.den
  if i.closed then i.low * q ≤ point && point ≤ i.high * q
  else i.low * q < point && point < i.high * q

/-- The neighbours of the value on the grid of step `10 ^ e` that round to the magnitude, the nearer
one first. -/
def onGrid (i : Interval) (tie : Tie) (e : Int) : List Nat :=
  let (p, q) := tenTo e
  let below := i.value * q / (i.den * p)
  let halfway := (2 * below + 1) * p * i.den
  let value := 2 * i.value * q
  let upFirst := halfway < value || (halfway == value && tie.leaves below)
  (if upFirst then [below + 1, below] else [below, below + 1]).filter (i.holds · e)

def search (i : Interval) (tie : Tie) (top : Int) : (steps digits : Nat) → Digits
  | 0, _ => ⟨0, 0⟩
  | steps + 1, digits =>
    let e := top - digits + 1
    match i.onGrid tie e with
    | k :: _ => ⟨k, e⟩
    | [] => i.search tie top steps (digits + 1)

end Interval

def Digits.trimmed : Nat → Digits → Digits
  | 0, d => d
  | fuel + 1, d =>
    if d.significand ≠ 0 ∧ d.significand % 10 = 0 then
      Digits.trimmed fuel ⟨d.significand / 10, d.exponent + 1⟩
    else d

def Magnitude.shortest (m : Magnitude) (tie : Tie) : Digits :=
  if m.significand = 0 then ⟨0, 0⟩
  else
    let i := m.interval
    (i.search tie (decimalExponent i.value i.den) 17 1).trimmed 17

end BoundSql.Number
