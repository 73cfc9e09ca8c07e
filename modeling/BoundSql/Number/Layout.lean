import BoundSql.Number.Shortest

/-! Ways to write a float: which tie is taken, and where the point stands. -/

namespace BoundSql.Number

structure Layout where
  tie : Tie
  positional : Int → Bool
  wholeTail : String
  nan : String
  infinite : Bool → String

def zeros (n : Nat) : String := String.ofList (List.replicate n '0')

def pointed (digits : String) (places : Nat) : String :=
  let padded := if digits.length ≤ places then zeros (places + 1 - digits.length) ++ digits else digits
  if places = 0 then padded
  else
    let cs := padded.toList
    let whole := cs.length - places
    String.ofList (cs.take whole) ++ "." ++ String.ofList (cs.drop whole)

def signed (negative : Bool) (s : String) : String := if negative then "-" ++ s else s

def Layout.positionalText (l : Layout) (d : Digits) : String :=
  let digits := toString d.significand
  if 0 ≤ d.exponent then digits ++ zeros d.exponent.toNat ++ l.wholeTail
  else pointed digits (-d.exponent).toNat

def scientificText (d : Digits) (e : Int) : String :=
  let digits := (toString d.significand).toList
  let fraction := digits.drop 1
  String.ofList (digits.take 1) ++ (if fraction.isEmpty then "" else "." ++ String.ofList fraction) ++
    "e" ++ (if 0 ≤ e then "+" else "-") ++ toString e.natAbs

def Layout.text (l : Layout) (x : Float) : String :=
  match parts x with
  | .nan => l.nan
  | .infinite negative => l.infinite negative
  | .finite negative m =>
    let d := m.shortest l.tie
    let e := d.exponent + (toString d.significand).length - 1
    signed negative (if l.positional e then l.positionalText d else scientificText d e)

/-- Always positional, whole numbers without a point; of two equally near decimals the larger one. -/
def plain : Layout :=
  { tie := .up
    positional := fun _ => true
    wholeTail := ""
    nan := "NaN"
    infinite := fun negative => signed negative "inf" }

end BoundSql.Number
