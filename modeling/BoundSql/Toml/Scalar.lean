import BoundSql.Calendar
import BoundSql.Toml.Basic

/-! Unquoted TOML values, with underscores between digits only. -/

namespace BoundSql.Toml

/-- Whether underscores stand between digits only; the digits are those of `isDigit`. -/
def groupedDigits (isDigit : Char → Bool) : List Char → Bool
  | [] => false
  | [c] => isDigit c
  | c :: '_' :: rest => isDigit c && groupedDigits isDigit rest
  | c :: rest => isDigit c && groupedDigits isDigit rest

def digitValue (c : Char) : Nat :=
  if c.isDigit then c.toNat - 48 else if c.toNat < 97 then c.toNat - 55 else c.toNat - 87

def isHexDigit (c : Char) : Bool :=
  c.isDigit || ('a' ≤ c && c ≤ 'f') || ('A' ≤ c && c ≤ 'F')

def isOctalDigit (c : Char) : Bool := '0' ≤ c && c ≤ '7'

def isBinaryDigit (c : Char) : Bool := c == '0' || c == '1'

def valueInBase (base : Nat) (cs : List Char) : Nat :=
  (cs.filter (· != '_')).foldl (fun n c => base * n + digitValue c) 0

def decimalDigits (cs : List Char) : Bool :=
  groupedDigits Char.isDigit cs && (cs.head? != some '0' || cs.length == 1)

def inBase (base : Nat) (isDigit : Char → Bool) (cs : List Char) : Option Int :=
  if groupedDigits isDigit cs then some (valueInBase base cs) else none

def integer? : List Char → Option Int
  | '0' :: 'x' :: digits => inBase 16 isHexDigit digits
  | '0' :: 'o' :: digits => inBase 8 isOctalDigit digits
  | '0' :: 'b' :: digits => inBase 2 isBinaryDigit digits
  | '-' :: digits => if decimalDigits digits then some (-(valueInBase 10 digits : Int)) else none
  | '+' :: digits => if decimalDigits digits then some (valueInBase 10 digits) else none
  | digits => if decimalDigits digits then some (valueInBase 10 digits) else none

def isFloat (cs : List Char) : Bool :=
  let (_, cs) := Number.readSign cs
  let word := String.ofList cs
  if word == "inf" || word == "nan" then true
  else
    let isExponent (c : Char) : Bool := c == 'e' || c == 'E'
    let number := cs.takeWhile (!isExponent ·)
    let exponent := cs.drop number.length
    let whole := number.takeWhile (· != '.')
    let fraction := number.drop whole.length
    let exponentGood :=
      match exponent with
      | [] => true
      | _ :: digits => groupedDigits Char.isDigit (Number.readSign digits).2
    let fractionGood :=
      match fraction with
      | [] => true
      | _ :: digits => groupedDigits Char.isDigit digits
    decimalDigits whole && fractionGood && exponentGood && !(exponent.isEmpty && fraction.isEmpty)

def isFiniteFloat (cs : List Char) : Bool :=
  match Number.readWritten (cs.filter (· != '_')) with
  | some w => w.isFinite
  | none => true

def digits? (n : Nat) (cs : List Char) : Option (Nat × List Char) :=
  let front := cs.take n
  if front.length = n && front.all Char.isDigit then some (Number.digitsValue front, cs.drop n) else none

def date? (cs : List Char) : Option (List Char) := do
  let (year, rest) ← digits? 4 cs
  let '-' :: rest := rest | none
  let (month, rest) ← digits? 2 rest
  let '-' :: rest := rest | none
  let (day, rest) ← digits? 2 rest
  if (Date.mk year month day).isValid then some rest else none

def time? (cs : List Char) : Option (List Char) := do
  let (hour, rest) ← digits? 2 cs
  let ':' :: rest := rest | none
  let (minute, rest) ← digits? 2 rest
  if 23 < hour ∨ 59 < minute then none
  else
    match rest with
    | ':' :: rest =>
      let (second, rest) ← digits? 2 rest
      if 60 < second then none
      else
        match rest with
        | '.' :: rest =>
          if (rest.takeWhile Char.isDigit).isEmpty then none else some (rest.dropWhile Char.isDigit)
        | rest => some rest
    | rest => some rest

def isOffset (cs : List Char) : Bool :=
  match cs with
  | [] => true
  | ['Z'] | ['z'] => true
  | c :: rest =>
    (c == '+' || c == '-') &&
      match digits? 2 rest with
      | some (hour, ':' :: rest) =>
        match digits? 2 rest with
        | some (minute, []) => hour ≤ 23 && minute ≤ 59
        | _ => false
      | _ => false

def isDateTime (cs : List Char) : Bool :=
  match date? cs with
  | some [] => true
  | some (c :: rest) =>
    (c == 'T' || c == 't' || c == ' ') && ((time? rest).map isOffset).getD false
  | none => time? cs == some []

def scalar? (cs : List Char) : Option Toml :=
  let word := String.ofList cs
  if word == "true" then some (boolean true)
  else if word == "false" then some (boolean false)
  else
    match integer? cs with
    | some n => some (integer n)
    | none =>
      if isFloat cs then some (float (isFiniteFloat cs))
      else if isDateTime cs then some dateTime
      else none

end BoundSql.Toml
