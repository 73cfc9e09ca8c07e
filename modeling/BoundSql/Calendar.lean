import BoundSql.Number.Reading

/-! Dates and times without a zone; days are counted from 1970-01-01, for the years -262143 to 262142. -/

namespace BoundSql

structure Date where
  year : Int
  month : Nat
  day : Nat
  deriving DecidableEq

namespace Date

/-- Days from 1970-01-01 to a date. Years are counted from March, so that the leap day comes last, in
eras of 400 years. -/
def toDays (d : Date) : Int :=
  let y := if d.month ≤ 2 then d.year - 1 else d.year
  let era := y.fdiv 400
  let yearOfEra := y - era * 400
  let month : Int := (d.month + 9) % 12
  let dayOfYear := (153 * month + 2).fdiv 5 + d.day - 1
  let dayOfEra := yearOfEra * 365 + yearOfEra.fdiv 4 - yearOfEra.fdiv 100 + dayOfYear
  era * 146097 + dayOfEra - 719468

def ofDays (n : Int) : Date :=
  let z := n + 719468
  let era := z.fdiv 146097
  let dayOfEra := z - era * 146097
  let yearOfEra :=
    (dayOfEra - dayOfEra.fdiv 1460 + dayOfEra.fdiv 36524 - dayOfEra.fdiv 146096).fdiv 365
  let dayOfYear := dayOfEra - (365 * yearOfEra + yearOfEra.fdiv 4 - yearOfEra.fdiv 100)
  let month := (5 * dayOfYear + 2).fdiv 153
  let day := dayOfYear - (153 * month + 2).fdiv 5 + 1
  let monthOfYear := if month < 10 then month + 3 else month - 9
  let year := yearOfEra + era * 400 + (if monthOfYear ≤ 2 then 1 else 0)
  ⟨year, monthOfYear.toNat, day.toNat⟩

def isLeap (year : Int) : Bool := year % 4 == 0 && (year % 100 != 0 || year % 400 == 0)

def monthLength (year : Int) (month : Nat) : Nat :=
  if month = 2 then (if isLeap year then 29 else 28)
  else if month = 4 ∨ month = 6 ∨ month = 9 ∨ month = 11 then 30
  else 31

def isValid (d : Date) : Bool :=
  1 ≤ d.month && d.month ≤ 12 && 1 ≤ d.day && d.day ≤ monthLength d.year d.month

end Date

def minDay : Int := Date.toDays ⟨-262143, 1, 1⟩

def maxDay : Int := Date.toDays ⟨262142, 12, 31⟩

structure Day where
  number : Int
  min_le : minDay ≤ number
  le_max : number ≤ maxDay
  deriving DecidableEq

def Day.ofNumber? (n : Int) : Option Day :=
  if h : minDay ≤ n ∧ n ≤ maxDay then some ⟨n, h.1, h.2⟩ else none

def Day.date (d : Day) : Date := Date.ofDays d.number

def Date.toDay? (d : Date) : Option Day := Day.ofNumber? d.toDays

/-- A point in time without a zone: a day, a second of it and nanoseconds. A leap second is kept as a
second billion of nanoseconds. -/
structure Timestamp where
  day : Day
  second : Nat
  nano : Nat
  second_lt : second < 86400
  nano_lt : nano < 2000000000
  deriving DecidableEq

def Day.midnight (d : Day) : Timestamp := ⟨d, 0, 0, by decide, by decide⟩

namespace Timestamp

def ofParts? (day : Day) (second nano : Nat) : Option Timestamp :=
  if h : second < 86400 ∧ nano < 2000000000 then some ⟨day, second, nano, h.1, h.2⟩ else none

def padded (width n : Nat) : String :=
  let digits := toString n
  String.ofList (List.replicate (width - digits.length) '0') ++ digits

def yearText (year : Int) : String :=
  if 0 ≤ year ∧ year ≤ 9999 then padded 4 year.toNat
  else (if year < 0 then "-" else "+") ++ padded 4 year.natAbs

/-- The fewest of no, three, six and nine fraction digits that lose nothing. -/
def fractionText (nano : Nat) : String :=
  if nano = 0 then ""
  else if nano % 1000000 = 0 then "." ++ padded 3 (nano / 1000000)
  else if nano % 1000 = 0 then "." ++ padded 6 (nano / 1000)
  else "." ++ padded 9 nano

def render (t : Timestamp) : String :=
  let d := t.day.date
  let (leap, nano) := if t.nano < 1000000000 then (0, t.nano) else (1, t.nano - 1000000000)
  yearText d.year ++ "-" ++ padded 2 d.month ++ "-" ++ padded 2 d.day ++ " " ++
    padded 2 (t.second / 3600) ++ ":" ++ padded 2 (t.second / 60 % 60) ++ ":" ++
    padded 2 (t.second % 60 + leap) ++ fractionText nano

def splitAt (c : Char) (cs : List Char) : List Char × Option (List Char) :=
  match cs.dropWhile (· != c) with
  | [] => (cs, none)
  | _ :: rest => (cs.takeWhile (· != c), some rest)

def number? (cs : List Char) : Option Nat :=
  if cs.isEmpty || !cs.all Char.isDigit then none else some (Number.digitsValue cs)

def readDate (cs : List Char) : Option Date := do
  let (negative, rest) := Number.readSign cs
  let (year, rest) := splitAt '-' rest
  let (month, rest) := splitAt '-' (← rest)
  let year : Int := (← number? year)
  let date : Date := ⟨if negative then -year else year, ← number? month, ← number? (← rest)⟩
  if date.isValid then some date else none

def readTime (cs : List Char) : Option (Nat × Nat) := do
  let (hour, rest) := splitAt ':' cs
  let (minute, rest) := splitAt ':' (← rest)
  let (second, fraction) := splitAt '.' (← rest)
  let hour ← number? hour
  let minute ← number? minute
  let second ← number? second
  let fraction := fraction.getD ['0']
  let digits := (fraction ++ List.replicate 9 '0').take 9
  let nano ← if fraction.isEmpty then none else number? digits
  if 23 < hour ∨ 59 < minute ∨ 60 < second then none
  else
    let (second, nano) := if second = 60 then (59, nano + 1000000000) else (second, nano)
    return (hour * 3600 + minute * 60 + second, nano)

def ofText? (s : String) : Option Timestamp := do
  let (date, time) := splitAt ' ' (s.toList.map fun c => if c = 'T' then ' ' else c)
  let day ← (← readDate date).toDay?
  let (second, nano) ← readTime (← time)
  ofParts? day second nano

end Timestamp

def Day.ofText? (s : String) : Option Day := (Timestamp.readDate s.toList).bind Date.toDay?

end BoundSql
