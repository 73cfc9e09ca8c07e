import BoundSql.Json.Basic
import BoundSql.Number.Reading

/-! JSON text read back: integers that fit 64 bits stay exact, and nesting is at most 127 deep. -/

namespace BoundSql.Json

def isSpace (c : Char) : Bool := c == ' ' || c == '\n' || c == '\t' || c == '\r'

def skipSpace (cs : List Char) : List Char := cs.dropWhile isSpace

def hexValue? (c : Char) : Option Nat :=
  if '0' ≤ c ∧ c ≤ '9' then some (c.toNat - 48)
  else if 'a' ≤ c ∧ c ≤ 'f' then some (c.toNat - 87)
  else if 'A' ≤ c ∧ c ≤ 'F' then some (c.toNat - 55)
  else none

def unit? (a b c d : Char) : Option Nat := do
  return (((← hexValue? a) * 16 + (← hexValue? b)) * 16 + (← hexValue? c)) * 16 + (← hexValue? d)

def charOfUnit? (n : Nat) : Option Char :=
  if 0xD800 ≤ n ∧ n ≤ 0xDFFF then none else some (Char.ofNat n)

def charOfPair? (high low : Nat) : Option Char :=
  if 0xD800 ≤ high ∧ high ≤ 0xDBFF ∧ 0xDC00 ≤ low ∧ low ≤ 0xDFFF then
    some (Char.ofNat (0x10000 + (high - 0xD800) * 0x400 + (low - 0xDC00)))
  else none

def unescape? : Char → Option Char
  | '"' => some '"'
  | '\\' => some '\\'
  | '/' => some '/'
  | 'b' => some '\x08'
  | 'f' => some '\x0c'
  | 'n' => some '\n'
  | 'r' => some '\r'
  | 't' => some '\t'
  | _ => none

def readString (before : List Char) : List Char → Option (String × List Char)
  | [] => none
  | '"' :: rest => some (String.ofList before.reverse, rest)
  | '\\' :: 'u' :: a :: b :: c :: d :: rest =>
    match unit? a b c d with
    | none => none
    | some unit =>
      match charOfUnit? unit with
      | some x => readString (x :: before) rest
      | none =>
        match rest with
        | '\\' :: 'u' :: e :: f :: g :: h :: rest =>
          match (unit? e f g h).bind (charOfPair? unit) with
          | some x => readString (x :: before) rest
          | none => none
        | _ => none
  | '\\' :: c :: rest =>
    match unescape? c with
    | some x => readString (x :: before) rest
    | none => none
  | c :: rest => if c.toNat < 0x20 then none else readString (c :: before) rest

/-- Scale a significand of at most 64 bits by a power of ten, `none` beyond the range of floats. A
power below the least is taken in two steps. -/
def scaledFloat? (significand : Nat) (exponent : Int) : Option Float :=
  let whole := Number.floatOfFraction false significand 1
  let tenTo (n : Nat) := Number.floatOfFraction false (10 ^ n) 1
  if significand = 0 then some 0
  else if 0 ≤ exponent then
    if 308 < exponent then none
    else
      let x := whole * tenTo exponent.toNat
      if x.isInf then none else some x
  else
    let n := (-exponent).toNat
    if n ≤ 308 then some (whole / tenTo n)
    else if n ≤ 616 then some (whole / tenTo 308 / tenTo (n - 308))
    else some 0

def addDigits (significand : Nat) : List Char → Nat × Nat
  | [] => (significand, 0)
  | c :: cs =>
    let next := significand * 10 + (c.toNat - 48)
    if next < 2 ^ 64 then
      let (n, count) := addDigits next cs
      (n, count + 1)
    else (significand, 0)

def readExponent : List Char → Option (Option Int × List Char)
  | [] => some (none, [])
  | c :: cs =>
    if c == 'e' || c == 'E' then
      let (negative, cs) := Number.readSign cs
      let digits := cs.takeWhile Char.isDigit
      if digits.isEmpty then none
      else
        let n : Int := Number.digitsValue digits
        some (some (if negative then -n else n), cs.dropWhile Char.isDigit)
    else some (none, c :: cs)

def readNumber (negative : Bool) (cs : List Char) : Option (Json × List Char) :=
  let whole := cs.takeWhile Char.isDigit
  let rest := cs.dropWhile Char.isDigit
  let (fraction, rest, pointed) : List Char × List Char × Bool :=
    match rest with
    | '.' :: rest => (rest.takeWhile Char.isDigit, rest.dropWhile Char.isDigit, true)
    | rest => ([], rest, false)
  let leadingZero := match whole with
    | '0' :: _ :: _ => true
    | _ => false
  if whole.isEmpty || leadingZero || (pointed && fraction.isEmpty) then none
  else do
    let (exponent, rest) ← readExponent rest
    let sign (x : Float) : Json := float (if negative then -x else x)
    let (significand, kept) := addDigits 0 whole
    if pointed || exponent.isSome then
      let (significand, places) := addDigits significand fraction
      let power := exponent.getD 0 + ((whole.length - kept : Nat) : Int) - places
      let x ← scaledFloat? significand power
      return (sign x, rest)
    else if kept < whole.length then
      let x ← scaledFloat? significand (whole.length - kept : Nat)
      return (sign x, rest)
    else if !negative then return (integer significand, rest)
    else if significand = 0 ∨ 2 ^ 63 < significand then
      return (sign (Number.floatOfFraction false significand 1), rest)
    else return (integer (-(significand : Int)), rest)

def dropWord? : List Char → List Char → Option (List Char)
  | [], cs => some cs
  | w :: ws, c :: cs => if w = c then dropWord? ws cs else none
  | _ :: _, [] => none

mutual

def readValue : (fuel depth : Nat) → List Char → Option (Json × List Char)
  | 0, _, _ => none
  | fuel + 1, depth, cs =>
    match skipSpace cs with
    | [] => none
    | '"' :: rest => (readString [] rest).map fun (s, rest) => (text s, rest)
    | '[' :: rest =>
      if depth ≤ 1 then none
      else
        match skipSpace rest with
        | ']' :: rest => some (array [], rest)
        | rest => (readItems fuel (depth - 1) rest).map fun (items, rest) => (array items, rest)
    | '{' :: rest =>
      if depth ≤ 1 then none
      else
        match skipSpace rest with
        | '}' :: rest => some (ofFields [], rest)
        | rest => (readFields fuel (depth - 1) rest).map fun (fields, rest) => (ofFields fields, rest)
    | 'n' :: rest => (dropWord? "ull".toList rest).map fun rest => (null, rest)
    | 't' :: rest => (dropWord? "rue".toList rest).map fun rest => (bool true, rest)
    | 'f' :: rest => (dropWord? "alse".toList rest).map fun rest => (bool false, rest)
    | '-' :: rest => readNumber true rest
    | rest => readNumber false rest

def readItems : (fuel depth : Nat) → List Char → Option (List Json × List Char)
  | 0, _, _ => none
  | fuel + 1, depth, cs =>
    match readValue fuel depth cs with
    | none => none
    | some (item, rest) =>
      match skipSpace rest with
      | ',' :: rest => (readItems fuel depth rest).map fun (items, rest) => (item :: items, rest)
      | ']' :: rest => some ([item], rest)
      | _ => none

def readFields : (fuel depth : Nat) → List Char → Option (List (String × Json) × List Char)
  | 0, _, _ => none
  | fuel + 1, depth, cs =>
    match skipSpace cs with
    | '"' :: rest =>
      match readString [] rest with
      | none => none
      | some (name, rest) =>
        match skipSpace rest with
        | ':' :: rest =>
          match readValue fuel depth rest with
          | none => none
          | some (value, rest) =>
            match skipSpace rest with
            | ',' :: rest =>
              (readFields fuel depth rest).map fun (fields, rest) => ((name, value) :: fields, rest)
            | '}' :: rest => some ([(name, value)], rest)
            | _ => none
        | _ => none
    | _ => none

end

def ofText? (s : String) : Option Json :=
  let cs := s.toList
  match readValue (2 * cs.length + 2) 128 cs with
  | some (j, rest) => if (skipSpace rest).isEmpty then some j else none
  | none => none

end BoundSql.Json
