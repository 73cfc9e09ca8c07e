import BoundSql.Connection

/-! Transactions: a body between BEGIN and one closing call; its own error is the one returned. -/

namespace BoundSql

def transactionEvent (level : Level) (message : String) (fields : List (String × String)) : Event :=
  .noted level "querymap.tx" message fields

def Connection.transactional {σ α : Type} (conn : Connection σ) (body : Action σ α) : Action σ α := do
  Action.call .begin conn.begin
  Action.log (transactionEvent .debug "transaction started" [])
  match ← body.attempt with
  | .ok a =>
    Action.call .commit conn.commit
    Action.log (transactionEvent .debug "transaction committed" [])
    return a
  | .error e =>
    match ← (Action.call .rollback conn.rollback).attempt with
    | .ok () => Action.log (transactionEvent .debug "transaction rolled back" [("error", e.message)])
    | .error f =>
      Action.log
        (transactionEvent .error "rollback failed" [("error", e.message), ("rollback_error", f.message)])
    throw e

end BoundSql
