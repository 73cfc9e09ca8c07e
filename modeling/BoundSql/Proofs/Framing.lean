import BoundSql.Proofs.Bracketing
import BoundSql.Proofs.Operations

/-! State beside a connection's own is neither read nor changed by what is done on it. -/

namespace BoundSql

namespace Action

variable {σ τ α β : Type}

/-- The action on the first of two states. -/
def beside (τ : Type) (a : Action σ α) : Action (σ × τ) α := fun session =>
  let (r, inner) := a ⟨session.state.1, session.trace⟩
  (r, ⟨(inner.state, session.state.2), inner.trace⟩)

theorem run_beside (a : Action σ α) (state : σ) (other : τ) (trace : List Activity) :
    (a.beside τ).run ⟨(state, other), trace⟩ =
      ((a.run ⟨state, trace⟩).1,
        ⟨((a.run ⟨state, trace⟩).2.state, other), (a.run ⟨state, trace⟩).2.trace⟩) := rfl

theorem bind_beside (a : Action σ α) (f : α → Action σ β) :
    (a.beside τ >>= fun x => (f x).beside τ) = (a >>= f).beside τ := by
  funext session
  obtain ⟨⟨state, other⟩, trace⟩ := session
  change (a.beside τ >>= fun x => (f x).beside τ).run _ = ((a >>= f).beside τ).run _
  rw [run_beside, run_bind, run_bind, run_beside]
  rcases a.run ⟨state, trace⟩ with ⟨_ | _, _⟩ <;> rfl

end Action

open BoundSql.Action

variable {σ τ α β : Type}

namespace Connection

theorem run_beside (conn : Connection σ) (s : Statement) :
    (conn.beside τ).run s = (conn.run s).beside τ := rfl

theorem transactional_beside (conn : Connection σ) (body : Action σ α) :
    (conn.beside τ).transactional (body.beside τ) = (conn.transactional body).beside τ := by
  simp only [transactional, ← bind_beside]
  refine bind_congr fun _ => bind_congr fun _ => bind_congr fun r => ?_
  cases r with
  | ok a =>
    simp only [← bind_beside]
    rfl
  | error e =>
    simp only [← bind_beside]
    refine bind_congr fun closed => ?_
    cases closed <;> simp only [← bind_beside] <;> rfl

end Connection

/-- Bodies do the same beside other state, whatever they run and however deep they are nested. -/
theorem Body.run_beside (conn : Connection σ) (body : Body α) :
    body.run (conn.beside τ) = (body.run conn).beside τ := by
  induction body with
  | done r => rfl
  | log e next ih =>
    simp only [run, ← bind_beside, ih]
    rfl
  | execute s next ih =>
    simp only [run, ← bind_beside, ih]
    rfl
  | nested inner next ihinner ihnext =>
    simp only [run, ← bind_beside, ihinner, ihnext, Connection.transactional_beside]
    rfl

namespace Query

variable (q : Query α) (conn : Connection σ)

theorem all_beside : q.all (conn.beside τ) = (q.all conn).beside τ := by
  simp only [all, ← bind_beside]
  refine bind_congr fun s => bind_congr fun out => ?_
  cases out <;> rfl

theorem first_beside [RowType α] : q.first (conn.beside τ) = (q.first conn).beside τ := by
  simp only [first, all_beside, ← bind_beside]
  rfl

theorem find_beside [RowType α] : q.find (conn.beside τ) = (q.find conn).beside τ := by
  simp only [find, first_beside, ← bind_beside]
  refine bind_congr fun row => ?_
  cases row <;> rfl

theorem raw_beside (s : Statement) : q.raw (conn.beside τ) s = (q.raw conn s).beside τ := by
  simp only [raw, ← bind_beside]
  refine bind_congr fun out => ?_
  cases out <;> rfl

end Query

theorem Operation.run_beside [RowType α] (q : Query α) (conn : Connection σ) (op : Operation α β) :
    op.run q (conn.beside τ) = (op.run q conn).beside τ := by
  cases op with
  | all extra => exact Query.all_beside _ conn
  | first extra => exact Query.first_beside _ conn
  | find extra => exact Query.find_beside _ conn
  | count extra =>
    simp only [run, Query.count, Query.all_beside, ← bind_beside]
    rfl
  | insert data =>
    simp only [run, Query.insert, Connection.run_beside, ← bind_beside]
    refine bind_congr fun s => bind_congr fun out => ?_
    cases out <;> rfl
  | update extra data =>
    simp only [run, Query.update, Connection.run_beside, ← bind_beside]
    rfl
  | delete extra =>
    simp only [run, Query.delete, Connection.run_beside, ← bind_beside]
    rfl

end BoundSql
