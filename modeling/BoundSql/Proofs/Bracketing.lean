import BoundSql.Proofs.Traces
import BoundSql.Scripted
import BoundSql.Transaction

/-! Transactions as brackets: the calls of a run match in a properly nested way. -/

namespace BoundSql

/-- A body of a transaction. What comes next may depend on the answers so far. -/
inductive Body : Type → Type 1
  | done {α : Type} (r : Except Error α) : Body α
  | log {α : Type} (e : Event) (next : Body α) : Body α
  | execute {α : Type} (s : Statement) (next : Except Error Output → Body α) : Body α
  | nested {α β : Type} (inner : Body β) (next : Except Error β → Body α) : Body α

variable {σ α : Type}

def Body.run (conn : Connection σ) {α : Type} : Body α → Action σ α
  | .done r => Action.ofExcept r
  | .log e next => do
    Action.log e
    next.run conn
  | .execute s next => do
    let r ← (Action.call (.execute s) (conn.execute s)).attempt
    (next r).run conn
  | .nested inner next => do
    let r ← (conn.transactional (inner.run conn)).attempt
    (next r).run conn

namespace Connection

def answer (conn : Connection σ) : Call → σ → Bool × σ
  | .execute s, state => ((conn.execute s state).1.isOk, (conn.execute s state).2)
  | .begin, state => ((conn.begin state).1.isOk, (conn.begin state).2)
  | .commit, state => ((conn.commit state).1.isOk, (conn.commit state).2)
  | .rollback, state => ((conn.rollback state).1.isOk, (conn.rollback state).2)

def answers (conn : Connection σ) : List Call → σ → List (Call × Bool)
  | [], _ => []
  | c :: rest, state => (c, (conn.answer c state).1) :: conn.answers rest (conn.answer c state).2

def after (conn : Connection σ) (calls : List Call) (state : σ) : σ :=
  calls.foldl (fun state c => (conn.answer c state).2) state

theorem after_append (conn : Connection σ) (xs ys : List Call) (state : σ) :
    conn.after (xs ++ ys) state = conn.after ys (conn.after xs state) := List.foldl_append

theorem answers_append (conn : Connection σ) (xs ys : List Call) (state : σ) :
    conn.answers (xs ++ ys) state = conn.answers xs state ++ conn.answers ys (conn.after xs state) := by
  induction xs generalizing state with
  | nil => rfl
  | cons c rest ih => exact congrArg ((c, (conn.answer c state).1) :: ·) (ih (conn.answer c state).2)

end Connection

/-- Every begin that succeeded has its own closing call behind it, and what stands between them is matched
too. -/
inductive Bracketed : List (Call × Bool) → Prop
  | nil : Bracketed []
  | execute {rest : List (Call × Bool)} (s : Statement) (ok : Bool) (h : Bracketed rest) :
    Bracketed ((.execute s, ok) :: rest)
  | refused {rest : List (Call × Bool)} (h : Bracketed rest) : Bracketed ((.begin, false) :: rest)
  | bracket {inner rest : List (Call × Bool)} {closing : Call} (ok : Bool)
    (hclosing : closing = .commit ∨ closing = .rollback) (hinner : Bracketed inner)
    (hrest : Bracketed rest) : Bracketed ((.begin, true) :: (inner ++ (closing, ok) :: rest))

theorem Bracketed.append {xs ys : List (Call × Bool)} (hx : Bracketed xs) (hy : Bracketed ys) :
    Bracketed (xs ++ ys) := by
  induction hx with
  | nil => exact hy
  | execute s ok _ ih => exact .execute s ok ih
  | refused _ ih => exact .refused ih
  | @bracket inner rest closing ok hclosing hinner _ _ ih =>
    have hwhole := Bracketed.bracket ok hclosing hinner ih
    rw [List.cons_append, List.append_assoc, List.cons_append]
    exact hwhole

def closes : Call × Bool → Bool
  | (.commit, _) | (.rollback, _) => true
  | _ => false

def closing (r : Except Error α) : Call := if r.isOk then .commit else .rollback

namespace Connection

def settled (conn : Connection σ) (r : Except Error α) (state : σ) : Except Error α :=
  match r with
  | .ok a => (conn.commit state).1.map fun _ => a
  | .error e => .error e

def startedEvent : Event := transactionEvent .debug "transaction started" []

def failedRollbackEvent (e f : Error) : Event :=
  transactionEvent .error "rollback failed" [("error", e.message), ("rollback_error", f.message)]

def report (conn : Connection σ) (r : Except Error α) (state : σ) : List Event :=
  match r with
  | .ok _ =>
    if (conn.commit state).1.isOk then [transactionEvent .debug "transaction committed" []] else []
  | .error e =>
    match (conn.rollback state).1 with
    | .ok () => [transactionEvent .debug "transaction rolled back" [("error", e.message)]]
    | .error f => [failedRollbackEvent e f]

theorem does_transactional_refused (conn : Connection σ) (body : Action σ α) {state : σ} {e : Error}
    (h : (conn.begin state).1 = .error e) :
    (conn.transactional body).Does state (.error e) (conn.begin state).2 [.called .begin] := by
  have hbegin := Action.does_call .begin conn.begin state
  rw [h] at hbegin
  exact hbegin.bind_error _

theorem does_transactional (conn : Connection σ) {body : Action σ α} {state mid : σ}
    {r : Except Error α} {done : List Activity} (h : (conn.begin state).1 = .ok ())
    (hbody : body.Does (conn.begin state).2 r mid done) :
    (conn.transactional body).Does state (conn.settled r mid) (conn.answer (closing r) mid).2
      (.called .begin :: .logged startedEvent ::
        (done ++ .called (closing r) :: (conn.report r mid).map .logged)) := by
  have hbegin := Action.does_call .begin conn.begin state
  rw [h] at hbegin
  refine hbegin.bind ((Action.does_log startedEvent _).bind (hbody.bind_attempt ?_))
  cases r with
  | ok a =>
    have hcommit := Action.does_call .commit conn.commit mid
    cases hanswer : (conn.commit mid).1 with
    | ok u =>
      rw [hanswer] at hcommit
      simp only [settled, report, hanswer]
      exact hcommit.bind ((Action.does_log _ _).bind (Action.does_pure a _))
    | error e =>
      rw [hanswer] at hcommit
      simp only [settled, report, hanswer]
      exact hcommit.bind_error _
  | error e =>
    have hrollback := Action.does_call .rollback conn.rollback mid
    cases hanswer : (conn.rollback mid).1 with
    | ok u =>
      rw [hanswer] at hrollback
      simp only [settled, report, hanswer]
      exact hrollback.bind_attempt ((Action.does_log _ _).bind (Action.does_throw e _))
    | error f =>
      rw [hanswer] at hrollback
      simp only [settled, report, hanswer]
      exact hrollback.bind_attempt ((Action.does_log _ _).bind (Action.does_throw e _))

structure Matches (conn : Connection σ) (state : σ) (done : List Activity) (last : σ) : Prop where
  bracketed : Bracketed (conn.answers (Session.calls done) state)
  after_eq : conn.after (Session.calls done) state = last

section

variable {conn : Connection σ} {state mid last : σ} {done more : List Activity}

theorem Matches.append (h : conn.Matches state done mid) (h' : conn.Matches mid more last) :
    conn.Matches state (done ++ more) last := by
  constructor
  · rw [Session.calls_append, answers_append, h.after_eq]
    exact h.bracketed.append h'.bracketed
  · rw [Session.calls_append, after_append, h.after_eq]
    exact h'.after_eq

theorem Matches.logged (e : Event) (h : conn.Matches state done last) :
    conn.Matches state (.logged e :: done) last := ⟨h.bracketed, h.after_eq⟩

theorem matches_nil (conn : Connection σ) (state : σ) : conn.Matches state [] state := ⟨.nil, rfl⟩

theorem matches_execute (conn : Connection σ) (s : Statement) (state : σ) :
    conn.Matches state [.called (.execute s)] (conn.execute s state).2 := ⟨.execute s _ .nil, rfl⟩

theorem matches_refused {e : Error} (h : (conn.begin state).1 = .error e) :
    conn.Matches state [.called .begin] (conn.begin state).2 := by
  have hanswer : (conn.answer .begin state).1 = false := by
    rw [answer, h]
    rfl
  refine ⟨?_, rfl⟩
  change Bracketed [(Call.begin, (conn.answer .begin state).1)]
  rw [hanswer]
  exact .refused .nil

theorem calls_logged (events : List Event) : Session.calls (events.map .logged) = [] := by
  induction events with
  | nil => rfl
  | cons _ _ ih => exact ih

theorem Matches.bracket (h : conn.Matches (conn.begin state).2 done mid)
    (hbegin : (conn.begin state).1 = .ok ()) (started : Event) (r : Except Error α)
    (events : List Event) :
    conn.Matches state
      (.called .begin :: .logged started :: (done ++ .called (closing r) :: events.map .logged))
      (conn.answer (closing r) mid).2 := by
  have hcalls : Session.calls (.called .begin :: .logged started ::
      (done ++ .called (closing r) :: events.map .logged)) =
      .begin :: (Session.calls done ++ [closing r]) := by
    change Call.begin :: Session.calls (done ++ _) = _
    rw [Session.calls_append]
    exact congrArg (fun xs => Call.begin :: (Session.calls done ++ closing r :: xs)) (calls_logged events)
  have hclosing : closing r = .commit ∨ closing r = .rollback := by
    unfold closing
    split
    · exact .inl rfl
    · exact .inr rfl
  have hopened : (conn.answer .begin state).1 = true := by
    rw [answer, hbegin]
    rfl
  have hstate : (conn.answer .begin state).2 = (conn.begin state).2 := rfl
  constructor
  · rw [hcalls, answers, hopened, hstate, answers_append, h.after_eq]
    exact .bracket _ hclosing h.bracketed .nil
  · rw [hcalls]
    change conn.after (Session.calls done ++ [closing r]) (conn.begin state).2 = _
    rw [after_append, h.after_eq]
    rfl

end

end Connection

open Connection

theorem Connection.exists_does_transactional (conn : Connection σ) {body : Action σ α}
    (h : ∀ state, ∃ r last done, body.Does state r last done ∧ conn.Matches state done last)
    (state : σ) :
    ∃ r last done, (conn.transactional body).Does state r last done ∧ conn.Matches state done last := by
  cases hbegin : (conn.begin state).1 with
  | error e => exact ⟨_, _, _, conn.does_transactional_refused body hbegin, matches_refused hbegin⟩
  | ok u =>
    obtain ⟨r, mid, done, hdoes, hmatches⟩ := h (conn.begin state).2
    exact ⟨_, _, _, conn.does_transactional hbegin hdoes, hmatches.bracket hbegin _ r _⟩

theorem Body.exists_does (conn : Connection σ) (body : Body α) (state : σ) :
    ∃ r last done, (body.run conn).Does state r last done ∧ conn.Matches state done last := by
  induction body generalizing state with
  | done r => exact ⟨r, state, [], Action.does_ofExcept r state, conn.matches_nil state⟩
  | log e next ih =>
    obtain ⟨r, last, done, hdoes, hmatches⟩ := ih state
    exact ⟨r, last, _, (Action.does_log e state).bind hdoes, hmatches.logged e⟩
  | execute s next ih =>
    obtain ⟨r, last, done, hdoes, hmatches⟩ := ih (conn.execute s state).1 (conn.execute s state).2
    exact ⟨r, last, _, (Action.does_call (.execute s) (conn.execute s) state).bind_attempt hdoes,
      (conn.matches_execute s state).append hmatches⟩
  | nested inner next ihinner ihnext =>
    obtain ⟨x, mid, done, hdoes, hmatches⟩ := conn.exists_does_transactional ihinner state
    obtain ⟨r, last, more, hnext, hmore⟩ := ihnext x mid
    exact ⟨r, last, _, hdoes.bind_attempt hnext, hmatches.append hmore⟩

end BoundSql
