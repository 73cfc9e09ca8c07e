import BoundSql.Error
import BoundSql.Text.Blank

/-! Dialects: the syntax that limits rows, and whether an insertion can return columns. -/

namespace BoundSql

inductive Dialect where
  | postgres
  | ansi
  deriving DecidableEq

namespace Dialect

def name : Dialect → String
  | postgres => "postgres"
  | ansi => "ansi"

def title : Dialect → String
  | postgres => "Postgres"
  | ansi => "Ansi"

def limited (d : Dialect) (sql : String) (limit offset : Option Nat) : String :=
  match d with
  | postgres =>
    sql ++ (limit.elim "" fun n => " LIMIT " ++ toString n) ++
      (offset.elim "" fun n => " OFFSET " ++ toString n)
  | ansi =>
    sql ++ " OFFSET " ++ toString (offset.getD 0) ++ " ROWS" ++
      (limit.elim "" fun n => " FETCH NEXT " ++ toString n ++ " ROWS ONLY")

def returning? : Dialect → String → Option String
  | postgres, columns => some (" RETURNING " ++ columns)
  | ansi, _ => none

def unknown (name : String) : Error := .config ("unknown dialect: " ++ name)

def ofName (name : String) : Except Error Dialect :=
  match Text.keyword name with
  | "postgres" | "postgresql" | "pg" => .ok postgres
  | "ansi" | "sql2008" => .ok ansi
  | other => .error (unknown other)

end Dialect

end BoundSql
