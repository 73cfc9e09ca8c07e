import BoundSql.Text.Quoted

/-! Errors of building, running and reading statements, with the opening words of each kind. -/

namespace BoundSql

inductive Error where
  | construction (message : String)
  | notFound (table condition : String)
  | unexpectedValue (message : String)
  | connection (message : String)
  | query (message : String)
  | decode (column message : String)
  | config (message : String)
  | pool (message : String)
  | other (message : String)
  /-- The run was given up; what it had found so far is no answer. -/
  | aborted (message : String)
  deriving DecidableEq, Inhabited

namespace Error

def kind : Error → String
  | construction _ => "Construction"
  | notFound .. => "NotFound"
  | unexpectedValue _ => "UnexpectedValue"
  | connection _ => "Connection"
  | query _ => "Query"
  | decode .. => "Decode"
  | config _ => "Config"
  | pool _ => "Pool"
  | other _ => "Other"
  | aborted _ => "Aborted"

def message : Error → String
  | construction m => "Construction error: " ++ m
  | notFound table condition => "Not found in '" ++ table ++ "': " ++ condition
  | unexpectedValue m => "Unexpected value: " ++ m
  | connection m => "Connection error: " ++ m
  | query m => "Query error: " ++ m
  | decode column m => "Decode error on column '" ++ column ++ "': " ++ m
  | config m => "Config error: " ++ m
  | pool m => "Pool error: " ++ m
  | other m => m
  | aborted m => "Aborted: " ++ m

def details (e : Error) : String :=
  match e with
  | notFound table condition =>
    Text.structureText e.kind [("table", Text.quoted table), ("condition", Text.quoted condition)]
  | decode column m =>
    Text.structureText e.kind [("column", Text.quoted column), ("message", Text.quoted m)]
  | construction m | unexpectedValue m | connection m | query m | config m | pool m | other m
  | aborted m =>
    e.kind ++ "(" ++ Text.quoted m ++ ")"

def isNotFound : Error → Bool
  | notFound .. => true
  | _ => false

def isConstruction : Error → Bool
  | construction _ => true
  | _ => false

def isUnexpectedValue : Error → Bool
  | unexpectedValue _ => true
  | _ => false

end Error

end BoundSql
