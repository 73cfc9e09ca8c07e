import BoundSql.Connection

/-! What an action does: its result, the state it leaves and the activities it adds. -/

namespace BoundSql

namespace Session

theorem calls_append (xs ys : List Activity) : calls (xs ++ ys) = calls xs ++ calls ys :=
  List.filterMap_append

end Session

namespace Action

variable {σ α β : Type}

def Does (a : Action σ α) (state : σ) (r : Except Error α) (last : σ) (done : List Activity) : Prop :=
  ∀ trace, a.run ⟨state, trace⟩ = (r, ⟨last, trace ++ done⟩)

theorem Does.run_start {a : Action σ α} {state last : σ} {r : Except Error α} {done : List Activity}
    (h : a.Does state r last done) : a.run (Session.start state) = (r, ⟨last, done⟩) := h []

theorem does_log (e : Event) (state : σ) : (log e : Action σ Unit).Does state (.ok ()) state [.logged e] :=
  fun _ => rfl

theorem does_call (c : Call) (answer : σ → Except Error α × σ) (state : σ) :
    (call c answer).Does state (answer state).1 (answer state).2 [.called c] :=
  fun _ => rfl

theorem does_ofExcept (r : Except Error α) (state : σ) : (ofExcept r).Does state r state [] := by
  intro trace
  rw [run_ofExcept, List.append_nil]

theorem does_pure (a : α) (state : σ) : (pure a : Action σ α).Does state (.ok a) state [] :=
  does_ofExcept (.ok a) state

theorem does_throw (e : Error) (state : σ) : (throw e : Action σ α).Does state (.error e) state [] :=
  does_ofExcept (.error e) state

theorem Does.attempt {a : Action σ α} {state last : σ} {r : Except Error α} {done : List Activity}
    (h : a.Does state r last done) : a.attempt.Does state (.ok r) last done := by
  intro trace
  rw [run_attempt, h trace]

theorem Does.bind {a : Action σ α} {f : α → Action σ β} {state mid last : σ} {x : α}
    {r : Except Error β} {done more : List Activity} (ha : a.Does state (.ok x) mid done)
    (hf : (f x).Does mid r last more) : (a >>= f).Does state r last (done ++ more) := by
  intro trace
  rw [run_bind, ha trace]
  dsimp only
  rw [hf (trace ++ done), List.append_assoc]

theorem Does.bind_error {a : Action σ α} {state last : σ} {e : Error} {done : List Activity}
    (ha : a.Does state (.error e) last done) (f : α → Action σ β) :
    (a >>= f).Does state (.error e) last done := by
  intro trace
  rw [run_bind, ha trace]

theorem Does.bind_quiet {a : Action σ α} {f : α → Action σ β} {state last : σ} {r : Except Error α}
    {done : List Activity} {more : α → Except Error β} (ha : a.Does state r last done)
    (hf : ∀ x, (f x).Does last (more x) last []) : (a >>= f).Does state (r.bind more) last done := by
  cases r with
  | error e => exact ha.bind_error f
  | ok x =>
    have hboth := ha.bind (hf x)
    rw [List.append_nil] at hboth
    exact hboth

theorem Does.bind_attempt {a : Action σ α} {f : Except Error α → Action σ β} {state mid last : σ}
    {x : Except Error α} {r : Except Error β} {done more : List Activity} (ha : a.Does state x mid done)
    (hf : (f x).Does mid r last more) : (a.attempt >>= f).Does state r last (done ++ more) :=
  ha.attempt.bind hf

end Action

theorem Connection.does_run {σ : Type} (conn : Connection σ) (s : Statement) (state : σ) :
    (conn.run s).Does state (conn.execute s state).1 (conn.execute s state).2
      [.logged s.event, .called (.execute s)] :=
  (Action.does_log s.event state).bind (Action.does_call (.execute s) (conn.execute s) state)

end BoundSql
