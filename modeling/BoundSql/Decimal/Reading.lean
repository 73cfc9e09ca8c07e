import BoundSql.Decimal.Basic
import BoundSql.Number.Reading

/-! Decimals in text; the digit after the last one kept rounds, and nothing behind it is read. -/

namespace BoundSql.Decimal

/-- Mantissas from here on are long: another digit may take them beyond 64 bits. -/
def longMantissa : Nat := (2 ^ 64 - 1) / 10 - 255

structure Draft where
  mantissa : Nat
  places : Nat
  pointed : Bool
  started : Bool
  long : Bool

namespace Draft

def start : Draft := ⟨0, 0, false, false, false⟩

def full (p : Draft) : Bool := p.pointed && 28 ≤ p.places

def push (p : Draft) (digit : Nat) : Draft :=
  let q := { p with
    mantissa := 10 * p.mantissa + digit
    places := if p.pointed then p.places + 1 else 0
    started := true }
  { q with long := p.long || (!q.full && longMantissa ≤ q.mantissa) }

def increment (p : Draft) : Option Draft :=
  let mantissa := p.mantissa + 1
  if mantissa < 2 ^ 96 then some { p with mantissa }
  else if p.places = 0 then none
  else some { p with mantissa := (mantissa + 4) / 10, places := p.places - 1 }

def roundBy (c : Char) (p : Draft) : Option Draft :=
  if c.isDigit then (if 53 ≤ c.toNat then p.increment else some p)
  else if c == '_' || c == '.' then some p
  else none

/-- Read on to the end of the text, or to where no further digit can be kept. At the last place an
underscore is passed over after a long mantissa only. -/
def read (p : Draft) : List Char → Option Draft
  | [] => if p.started then some p else none
  | c :: rest =>
    if c == '_' && p.started && (p.long || !p.full) then read p rest
    else if p.full then p.roundBy c
    else if c.isDigit then
      let next := p.push (c.toNat - 48)
      if next.mantissa < 2 ^ 96 then read next rest
      else if p.pointed then p.roundBy c
      else none
    else if c == '.' && !p.pointed then read { p with pointed := true } rest
    else none

end Draft

def ofText? (s : String) : Option Decimal := do
  let (negative, cs) := Number.readSign s.toList
  let p ← Draft.start.read cs
  ofParts? (negative && p.mantissa != 0) p.mantissa p.places

end BoundSql.Decimal
