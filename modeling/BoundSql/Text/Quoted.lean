import BoundSql.Text.Hidden

/-! Quoted texts, with common escapes by letter and hidden characters by number. -/

namespace BoundSql.Text

def hexDigits (n : Nat) : String := String.ofList (Nat.toDigits 16 n)

def braced (s : String) : String := String.singleton '{' ++ s ++ String.singleton '}'

def quotedChar (c : Char) : String :=
  match c with
  | '"' => "\\\""
  | '\\' => "\\\\"
  | '\n' => "\\n"
  | '\r' => "\\r"
  | '\t' => "\\t"
  | '\x00' => "\\0"
  | c => if isHidden c then "\\u" ++ braced (hexDigits c.toNat) else c.toString

def quoted (s : String) : String :=
  "\"" ++ String.join (s.toList.map quotedChar) ++ "\""

def optional (text : α → String) : Option α → String
  | none => "None"
  | some a => "Some(" ++ text a ++ ")"

def structureText (name : String) (fields : List (String × String)) : String :=
  name ++ " " ++ braced (" " ++ ", ".intercalate (fields.map fun f => f.1 ++ ": " ++ f.2) ++ " ")

def listText (items : List String) : String := "[" ++ ", ".intercalate items ++ "]"

end BoundSql.Text
