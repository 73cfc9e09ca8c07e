import BoundSql.Dialect
import BoundSql.Event
import BoundSql.Rows
import BoundSql.Statement

/-! Connections, and actions on a session that keeps a trace of events and calls in their order. -/

namespace BoundSql

inductive Output where
  | rows (stream : RowStream)
  | affected (count : Nat)

namespace Output

def affected? : Output → Option Nat
  | rows _ => none
  | affected n => some n

def text : Output → String
  | rows _ => "Rows(..)"
  | affected n => "Affected(" ++ toString n ++ ")"

end Output

structure Connection (σ : Type) where
  dialect : Dialect
  execute : Statement → σ → Except Error Output × σ
  begin : σ → Except Error Unit × σ
  commit : σ → Except Error Unit × σ
  rollback : σ → Except Error Unit × σ

def Connection.beside {σ : Type} (τ : Type) (conn : Connection σ) : Connection (σ × τ) where
  dialect := conn.dialect
  execute s state := let (r, inner) := conn.execute s state.1; (r, (inner, state.2))
  begin state := let (r, inner) := conn.begin state.1; (r, (inner, state.2))
  commit state := let (r, inner) := conn.commit state.1; (r, (inner, state.2))
  rollback state := let (r, inner) := conn.rollback state.1; (r, (inner, state.2))

inductive Call where
  | execute (statement : Statement)
  | begin
  | commit
  | rollback

def Call.statement : Call → Statement
  | execute s => s
  | begin => .raw "BEGIN"
  | commit => .raw "COMMIT"
  | rollback => .raw "ROLLBACK"

inductive Activity where
  | logged (event : Event)
  | called (call : Call)

structure Session (σ : Type) where
  state : σ
  trace : List Activity

namespace Session

variable {σ : Type}

def start (state : σ) : Session σ := ⟨state, []⟩

def record (s : Session σ) (a : Activity) : Session σ := { s with trace := s.trace ++ [a] }

def events (trace : List Activity) : List Event :=
  trace.filterMap fun
    | .logged e => some e
    | .called _ => none

def calls (trace : List Activity) : List Call :=
  trace.filterMap fun
    | .logged _ => none
    | .called c => some c

end Session

/-- A computation on a session that may fail. What happened before a failure stays. -/
abbrev Action (σ α : Type) := ExceptT Error (StateM (Session σ)) α

namespace Action

variable {σ α β : Type}

def log (e : Event) : Action σ Unit := modify (·.record (.logged e))

def call (c : Call) (answer : σ → Except Error α × σ) : Action σ α := fun session =>
  let session := session.record (.called c)
  let (result, state) := answer session.state
  (result, { session with state := state })

def ofExcept (r : Except Error α) : Action σ α := fun session => (r, session)

def attempt (a : Action σ α) : Action σ (Except Error α) := fun session =>
  let (r, session) := a.run session
  (.ok r, session)

@[simp] theorem run_log (e : Event) (s : Session σ) :
    (log e : Action σ Unit).run s = (.ok (), s.record (.logged e)) := rfl

@[simp] theorem run_call (c : Call) (answer : σ → Except Error α × σ) (s : Session σ) :
    (call c answer).run s =
      ((answer s.state).1, { s.record (.called c) with state := (answer s.state).2 }) := rfl

@[simp] theorem run_ofExcept (r : Except Error α) (s : Session σ) :
    (ofExcept r : Action σ α).run s = (r, s) := rfl

@[simp] theorem run_attempt (a : Action σ α) (s : Session σ) :
    a.attempt.run s = (.ok (a.run s).1, (a.run s).2) := rfl

@[simp] theorem run_pure (a : α) (s : Session σ) : (pure a : Action σ α).run s = (.ok a, s) := rfl

@[simp] theorem run_throw (e : Error) (s : Session σ) :
    (throw e : Action σ α).run s = (.error e, s) := rfl

theorem run_bind (a : Action σ α) (f : α → Action σ β) (s : Session σ) :
    (a >>= f).run s =
      match (a.run s).1 with
      | .ok x => (f x).run (a.run s).2
      | .error e => (.error e, (a.run s).2) := by
  change ExceptT.bind a f s = _
  simp only [ExceptT.bind, ExceptT.mk, bind, StateT.bind, ExceptT.bindCont, ExceptT.run]
  rcases a s with ⟨x, t⟩
  cases x <;> rfl

end Action

def loggedBytes : Nat := 200

def Statement.event (s : Statement) : Event where
  level := .debug
  target := "querymap.sql"
  fields :=
    [("param_count", toString s.paramCount), ("types", Text.listText (s.types.map ParamType.name)),
      ("sql", s.truncatedSql loggedBytes)]

def Connection.run {σ : Type} (conn : Connection σ) (s : Statement) : Action σ Output := do
  Action.log s.event
  Action.call (.execute s) (conn.execute s)

end BoundSql
