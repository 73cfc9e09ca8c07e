import BoundSql.Error
import BoundSql.Statement

/-! Binding: question marks outside quotes become numbers; an empty list becomes an empty subquery. -/

namespace BoundSql

def emptyList : String := "(SELECT NULL WHERE FALSE)"

def parameter (n : Nat) : String := "$" ++ toString n

namespace Value

def flat : Value → List Value
  | list items => items
  | v => [v]

def placeholder (bound : Nat) : Value → String
  | list [] => emptyList
  | list items => "(" ++ ", ".intercalate ((List.range items.length).map (parameter <| bound + · + 1)) ++ ")"
  | _ => parameter (bound + 1)

end Value

inductive Piece where
  | text (c : Char)
  | hole
  deriving DecidableEq

def isQuote (c : Char) : Bool := c == '\'' || c == '"'

/-- Split a text into its pieces, inside the quote that is open or outside. A doubled quote is an
escape; a stretch that is never closed runs to the end of the text. -/
def pieces : (quote : Option Char) → List Char → List Piece
  | _, [] => []
  | none, c :: rest =>
    if isQuote c then .text c :: pieces (some c) rest
    else if c = '?' then .hole :: pieces none rest
    else .text c :: pieces none rest
  | some q, c :: d :: rest =>
    if c = q then
      if d = q then .text c :: .text d :: pieces (some q) rest
      else .text c :: pieces none (d :: rest)
    else .text c :: pieces (some q) (d :: rest)
  | some _, [c] => [.text c]

def fillHoles (bound : Nat) : List Piece → List Value → List Char
  | [], _ => []
  | .text c :: rest, params => c :: fillHoles bound rest params
  | .hole :: rest, [] => '?' :: fillHoles bound rest []
  | .hole :: rest, v :: params =>
    (v.placeholder bound).toList ++ fillHoles (bound + v.flat.length) rest params

def holes (ps : List Piece) : Nat := ps.countP fun | .hole => true | .text _ => false

def Error.morePlaceholders (given : Nat) : Error :=
  .construction
    ("statement has more placeholders than the " ++ toString given ++ " parameters given")

def Error.fewerPlaceholders (found given : Nat) : Error :=
  .construction
    ("statement has " ++ toString found ++ " placeholders but " ++ toString given ++
      " parameters were given")

def Statement.expand (s : Statement) : Except Error Statement :=
  let ps := pieces none s.sql.toList
  let found := holes ps
  let given := s.params.length
  if given < found then .error (.morePlaceholders given)
  else if found < given then .error (.fewerPlaceholders found given)
  else .ok ⟨String.ofList (fillHoles 0 ps s.params), s.params.flatMap Value.flat⟩

end BoundSql
