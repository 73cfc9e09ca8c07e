import BoundSql.Decimal.Basic
import BoundSql.Wire.Bytes

/-! Decimals on the wire: groups of four digits, a weight, a sign and the scale. -/

namespace BoundSql.Wire

def groupsOf : (fuel n : Nat) → List Nat → List Nat
  | 0, _, after => after
  | fuel + 1, n, after => if n = 0 then after else groupsOf fuel (n / 10000) (n % 10000 :: after)

def dropTrailingZeros (groups : List Nat) : List Nat := (groups.reverse.dropWhile (· == 0)).reverse

def encodeNumeric (d : Decimal) : Bytes :=
  if d.mantissa = 0 then bigEndian 8 0
  else
    let fractionGroups := (d.scale + 3) / 4
    let groups := groupsOf 9 (d.mantissa * 10 ^ (4 * fractionGroups - d.scale)) []
    let weight : Int := (groups.length : Int) - fractionGroups - 1
    let sent :=
      if 0 ≤ weight then
        groups.take (weight.toNat + 1) ++ dropTrailingZeros (groups.drop (weight.toNat + 1))
      else groups
    bigEndian 2 sent.length ++ signedBytes 2 weight ++
      bigEndian 2 (if d.negative then 0x4000 else 0) ++ bigEndian 2 d.scale ++
      sent.flatMap (bigEndian 2)

def readGroups : (count : Nat) → Bytes → Option (List Nat)
  | 0, _ => some []
  | count + 1, bs => do
    let (group, rest) ← readUnsigned 2 bs
    return group :: (← readGroups count rest)

def valueOfGroups (groups : List Nat) : Nat := groups.foldl (fun n g => 10000 * n + g) 0

def excess (mantissa : Nat) : (places : Nat) → Nat
  | 0 => 0
  | places + 1 => if mantissa < 2 ^ 96 then 0 else excess (mantissa / 10) places + 1

/-- Round a mantissa to one that fits 96 bits by taking off places, a tie going to the even digit. -/
def fitMantissa (mantissa places : Nat) : Nat × Nat :=
  let cut := excess mantissa places
  if cut = 0 then (mantissa, places)
  else
    let rounded := Number.roundEven mantissa (10 ^ cut)
    if 2 ^ 96 ≤ rounded ∧ cut < places then (Number.roundEven rounded 10, places - cut - 1)
    else (rounded, places - cut)

/-- Add groups after the point one by one, the first of them ending at place `last`. Each sum keeps the
places that fit, twenty-eight at most; the group after those only rounds. -/
def addGroups (mantissa places last : Nat) : List Nat → Nat × Nat
  | [] => (mantissa, places)
  | group :: rest =>
    if last ≤ 28 then
      let (mantissa, places) := fitMantissa (mantissa * 10 ^ (last - places) + group) last
      addGroups mantissa places (last + 4) rest
    else if last = 32 ∧ 5000 ≤ group then fitMantissa (mantissa * 10 ^ (28 - places) + 1) 28
    else (mantissa, places)

/-- The whole part of a number: the groups given for it, then `missing` groups of zeros. The power of ten
for those is formed in 127 bits and is itself a decimal. -/
def wholePart (groups : List Nat) (missing : Nat) : Except Fault Nat :=
  let given := valueOfGroups groups
  if 2 ^ 96 ≤ given ∨ 2 ^ 127 ≤ 10000 ^ missing then .error .malformed
  else if 2 ^ 96 ≤ 10000 ^ missing then .error .overscaled
  else if 2 ^ 96 ≤ given * 10000 ^ missing then .error .malformed
  else .ok (given * 10000 ^ missing)

def decimalOfGroups (negative : Bool) (groups : List Nat) (weight : Int) (scale : Nat) :
    Except Fault Decimal := do
  let wholeCount := (weight + 1).toNat
  let whole ← wholePart (groups.take wholeCount) (wholeCount - groups.length)
  let leading := (-(weight + 1)).toNat
  let (mantissa, places) := addGroups whole 0 (4 * (leading + 1)) (groups.drop wholeCount)
  wellFormed ((Decimal.ofParts? negative mantissa places).bind (·.rescale? scale))

structure Numeric where
  groups : List Nat
  weight : Int
  sign : Nat
  scale : Nat

def readNumeric (bs : Bytes) : Option Numeric := do
  let (count, rest) ← readUnsigned 2 bs
  let (weight, rest) ← readSigned 2 rest
  let (sign, rest) ← readUnsigned 2 rest
  let (scale, rest) ← readUnsigned 2 rest
  return ⟨← readGroups count rest, weight, sign, scale⟩

def decodeNumeric (bs : Bytes) : Except Fault Decimal := do
  let n ← wellFormed (readNumeric bs)
  if 0xC000 ≤ n.sign then .error .malformed
  else decimalOfGroups (n.sign == 0x4000) n.groups n.weight n.scale

end BoundSql.Wire
