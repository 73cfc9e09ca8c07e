/-! Names in SQL text, which are trusted and never escaped. -/

namespace BoundSql

/-- Qualify a bare column. A column with a point is qualified already, one with a parenthesis is a
call, and an empty alias qualifies nothing. -/
def columnize (column : String) (qualifier : Option String) : String :=
  match qualifier with
  | none => column
  | some q =>
    if q.isEmpty || column.toList.contains '.' || column.toList.contains '(' then column
    else q ++ "." ++ column

def aliased (source name : String) : String := source ++ " AS " ++ name

end BoundSql
