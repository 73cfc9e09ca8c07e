import BoundSql.Number.Binary

/-! Numbers in text, kept exactly so that each target format rounds once. -/

namespace BoundSql.Number

def digitsValue (cs : List Char) : Nat := cs.foldl (fun n c => 10 * n + (c.toNat - 48)) 0

structure Written where
  negative : Bool
  significand : Nat
  exponent : Int

def readSign : List Char → Bool × List Char
  | '-' :: cs => (true, cs)
  | '+' :: cs => (false, cs)
  | cs => (false, cs)

def readInteger (cs : List Char) : Option Int :=
  let (negative, digits) := readSign cs
  if digits.isEmpty || !digits.all Char.isDigit then none
  else
    let n : Int := digitsValue digits
    some (if negative then -n else n)

def readWritten (cs : List Char) : Option Written :=
  let (negative, cs) := readSign cs
  let whole := cs.takeWhile Char.isDigit
  let (fraction, cs) :=
    match cs.dropWhile Char.isDigit with
    | '.' :: cs => (cs.takeWhile Char.isDigit, cs.dropWhile Char.isDigit)
    | cs => ([], cs)
  if whole.isEmpty && fraction.isEmpty then none
  else
    let digits := whole ++ fraction
    let scaledBy (e : Int) : Written := ⟨negative, digitsValue digits, e - fraction.length⟩
    match cs with
    | [] => some (scaledBy 0)
    | c :: cs => if c == 'e' || c == 'E' then (readInteger cs).map scaledBy else none

/-- The fraction of a written number, its power of ten bounded: beyond the bound every binary format
gives infinity or zero. -/
def Written.fraction (w : Written) : Nat × Nat :=
  let digits := (toString w.significand).length
  if w.significand = 0 then (0, 1)
  else if 0 ≤ w.exponent then (w.significand * 10 ^ (min w.exponent.toNat 400), 1)
  else if w.exponent < -(400 + digits : Int) then (0, 1)
  else (w.significand, 10 ^ (-w.exponent).toNat)

/-- Whether the nearest float is finite: half a step beyond the last float, numbers still round to it. -/
def Written.isFinite (w : Written) : Bool :=
  let (n, d) := w.fraction
  n < (2 ^ 1024 - 2 ^ 970) * d

inductive FloatText where
  | nan
  | infinite (negative : Bool)
  | number (w : Written)

def readFloatText (s : String) : Option FloatText :=
  let (negative, cs) := readSign s.toList
  let word := String.ofList (cs.map Char.toLower)
  if word == "nan" then some .nan
  else if word == "inf" || word == "infinity" then some (.infinite negative)
  else (readWritten s.toList).map .number

def floatOfText? (s : String) : Option Float :=
  (readFloatText s).map fun
    | .nan => Float.ofBits 0x7FF8000000000000
    | .infinite negative => floatOfFraction negative (10 ^ 400) 1
    | .number w => let (n, d) := w.fraction; floatOfFraction w.negative n d

def shortFloatOfText? (s : String) : Option Float :=
  (readFloatText s).map fun
    | .nan => Float.ofBits 0x7FF8000000000000
    | .infinite negative => (shortFloatOfFraction negative (10 ^ 400) 1).toFloat
    | .number w => let (n, d) := w.fraction; (shortFloatOfFraction w.negative n d).toFloat

end BoundSql.Number
