import BoundSql.Connection

/-! Connections with a script: every statement takes the next prepared answer. -/

namespace BoundSql

abbrev Answer := Except Error Output

structure Script where
  answers : List Answer
  failing : List (String × Error)

namespace Script

def words : List String := ["BEGIN", "COMMIT", "ROLLBACK"]

def execute (statement : Statement) (s : Script) : Answer × Script :=
  if words.contains statement.sql then
    match s.failing.find? (·.1 == statement.sql) with
    | some (_, e) => (.error e, s)
    | none => (.ok (.affected 0), s)
  else
    match s.answers with
    | [] => (.ok (.rows (.ofRecords [])), s)
    | answer :: rest => (answer, { s with answers := rest })

def word (w : String) (s : Script) : Except Error Unit × Script :=
  let (answer, s) := execute (.raw w) s
  (answer.map fun _ => (), s)

def connection (dialect : Dialect) : Connection Script where
  dialect := dialect
  execute := execute
  begin := word "BEGIN"
  commit := word "COMMIT"
  rollback := word "ROLLBACK"

end Script

end BoundSql
