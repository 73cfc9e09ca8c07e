import BoundSql.Json.Basic
import BoundSql.Number.Layout
import BoundSql.Text.Quoted

/-! The compact text of a JSON value; strings escape quote, backslash and controls below the space. -/

namespace BoundSql.Json

/-- Floats stay positional from `0.00001` up to sixteen whole digits, and always show a fraction digit
there; a tie goes to the even digit, and what is no number is written as null. -/
def floats : Number.Layout :=
  { tie := .even
    positional := fun e => -5 ≤ e && e ≤ 15
    wholeTail := ".0"
    nan := "null"
    infinite := fun _ => "null" }

def hexDigit (n : Nat) : Char := (Nat.digitChar (n % 16))

def escaped (c : Char) : List Char :=
  match c with
  | '"' => ['\\', '"']
  | '\\' => ['\\', '\\']
  | '\x08' => ['\\', 'b']
  | '\x0c' => ['\\', 'f']
  | '\n' => ['\\', 'n']
  | '\r' => ['\\', 'r']
  | '\t' => ['\\', 't']
  | c =>
    if c.toNat < 0x20 then ['\\', 'u', '0', '0', hexDigit (c.toNat / 16), hexDigit c.toNat] else [c]

def string (s : String) : List Char := '"' :: (s.toList.flatMap escaped ++ ['"'])

mutual

def chars : Json → List Char
  | null => "null".toList
  | bool b => (if b then "true" else "false").toList
  | integer n => (toString n).toList
  | float x => (floats.text x).toList
  | text s => string s
  | array items => '[' :: (itemChars items ++ [']'])
  | object fields => '{' :: (fieldChars fields ++ ['}'])

def itemChars : List Json → List Char
  | [] => []
  | [item] => chars item
  | item :: rest => chars item ++ ',' :: itemChars rest

def fieldChars : List (String × Json) → List Char
  | [] => []
  | [(name, value)] => string name ++ ':' :: chars value
  | (name, value) :: rest => string name ++ ':' :: (chars value ++ ',' :: fieldChars rest)

end

def compact (j : Json) : String := String.ofList j.chars

end BoundSql.Json
