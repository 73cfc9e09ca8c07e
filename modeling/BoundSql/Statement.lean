import BoundSql.Value.Basic

/-! Statements: SQL text with `?` placeholders and the values bound to them, in order. -/

namespace BoundSql

structure Statement where
  sql : String
  params : List Value

namespace Statement

def raw (sql : String) : Statement := ⟨sql, []⟩

def types (s : Statement) : List ParamType := s.params.map Value.paramType

def paramCount (s : Statement) : Nat := s.params.length

instance : BEq Statement := ⟨fun a b => a.sql == b.sql && a.params == b.params⟩

/-- The longest prefix of whole characters that takes at most `bytes` bytes. -/
def fitting (bytes : Nat) : List Char → List Char
  | [] => []
  | c :: rest => if c.utf8Size ≤ bytes then c :: fitting (bytes - c.utf8Size) rest else []

def truncatedSql (s : Statement) (bytes : Nat) : String :=
  if s.sql.utf8ByteSize ≤ bytes then s.sql else String.ofList (fitting bytes s.sql.toList)

end Statement

end BoundSql
