import BoundSql.Proofs.Cursor
import BoundSql.Proofs.Qualification
import BoundSql.Proofs.Traces
import BoundSql.Query.Run

/-! Operations send at most one statement, behind one event that reports it. -/

namespace BoundSql

namespace Action

variable {σ α β : Type}

/-- An action that sends one statement, if there is one, and makes its result of the answer. -/
structure Sends (a : Action σ α) (conn : Connection σ) (statement : Except Error Statement)
    (read : Output → Except Error α) : Prop where
  refused : ∀ e, statement = .error e → ∀ state, a.Does state (.error e) state []
  sent : ∀ s, statement = .ok s → ∀ state,
    a.Does state ((conn.execute s state).1.bind read) (conn.execute s state).2
      [.logged s.event, .called (.execute s)]

theorem sends_compiled (conn : Connection σ) (statement : Except Error Statement)
    {f : Output → Action σ α} {read : Output → Except Error α}
    (hf : ∀ out state, (f out).Does state (read out) state []) :
    (ofExcept statement >>= fun s => conn.run s >>= f).Sends conn statement read where
  refused := by
    rintro e rfl state
    exact (does_ofExcept (.error e) state).bind_error _
  sent := by
    rintro s rfl state
    have hrun := (conn.does_run s state).bind_quiet fun out => hf out (conn.execute s state).2
    exact (does_ofExcept (.ok s) state).bind hrun

theorem Sends.bind {a : Action σ α} {conn : Connection σ} {statement : Except Error Statement}
    {read : Output → Except Error α} {f : α → Action σ β} {more : α → Except Error β}
    (h : a.Sends conn statement read) (hf : ∀ x state, (f x).Does state (more x) state []) :
    (a >>= f).Sends conn statement fun out => (read out).bind more where
  refused := by
    intro e he state
    exact (h.refused e he state).bind_error f
  sent := by
    intro s hs state
    have hmore : (conn.execute s state).1.bind (fun out => (read out).bind more) =
        ((conn.execute s state).1.bind read).bind more := by
      cases (conn.execute s state).1 <;> rfl
    rw [hmore]
    exact (h.sent s hs state).bind_quiet fun x => hf x _

end Action

namespace Statement

/-- The longest beginning of a text, in whole characters, that fits into a number of bytes. -/
def Cut (bytes : Nat) (sql cut : String) : Prop :=
  ∃ rest : List Char, sql.toList = cut.toList ++ rest ∧ cut.utf8ByteSize ≤ bytes ∧
    ∀ c ∈ rest.head?, bytes < cut.utf8ByteSize + c.utf8Size

theorem utf8ByteSize_ofList_cons (c : Char) (cs : List Char) :
    (String.ofList (c :: cs)).utf8ByteSize = c.utf8Size + (String.ofList cs).utf8ByteSize := by
  rw [← List.singleton_append, String.ofList_append, String.utf8ByteSize_append]
  exact congrArg (· + _) String.utf8ByteSize_singleton

theorem cut_fitting (bytes : Nat) (cs : List Char) :
    Cut bytes (String.ofList cs) (String.ofList (fitting bytes cs)) := by
  induction cs generalizing bytes with
  | nil => exact ⟨[], rfl, Nat.zero_le _, fun c h => nomatch h⟩
  | cons c cs ih =>
    unfold fitting
    split
    · next hfits =>
      obtain ⟨rest, htext, hsize, hnext⟩ := ih (bytes - c.utf8Size)
      have hcons := utf8ByteSize_ofList_cons c (fitting (bytes - c.utf8Size) cs)
      refine ⟨rest, ?_, ?_, ?_⟩
      · simpa using htext
      · omega
      · intro d hd
        have hd := hnext d hd
        omega
    · next hlarge =>
      refine ⟨c :: cs, String.toList_ofList, Nat.zero_le _, ?_⟩
      intro d hd
      obtain rfl : c = d := Option.mem_some_iff.mp hd
      have hempty : (String.ofList []).utf8ByteSize = 0 := rfl
      omega

theorem cut_truncatedSql (s : Statement) (bytes : Nat) : Cut bytes s.sql (s.truncatedSql bytes) := by
  unfold truncatedSql
  split
  · next hfits => exact ⟨[], (List.append_nil _).symm, hfits, fun c h => nomatch h⟩
  · have hcut := cut_fitting bytes s.sql.toList
    rwa [String.ofList_toList] at hcut

end Statement

open Query

inductive Operation (α : Type) : Type → Type
  | all (extra : Option Filter) : Operation α (Rows RowStream α)
  | first (extra : Option Filter) : Operation α (Option α)
  | find (extra : Option Filter) : Operation α α
  | count (extra : Option Filter) : Operation α Nat
  | insert (data : Data) : Operation α (Option Value)
  | update (extra : Option Filter) (data : Data) : Operation α Nat
  | delete (extra : Option Filter) : Operation α Nat

namespace Operation

variable {σ α β : Type}

def extended (q : Query α) (extra : Option Filter) : Query α := extra.elim q q.narrowed

def run [RowType α] (q : Query α) (conn : Connection σ) : Operation α β → Action σ β
  | .all extra => (extended q extra).all conn
  | .first extra => (extended q extra).first conn
  | .find extra => (extended q extra).find conn
  | .count extra => (extended q extra).count conn
  | .insert data => q.insert conn data
  | .update extra data => (extended q extra).update conn data
  | .delete extra => (extended q extra).delete conn

def kind : Operation α β → StatementKind
  | .all _ | .first _ | .find _ | .count _ => .select
  | .insert _ => .insert
  | .update _ _ => .update
  | .delete _ => .delete

def data : Operation α β → Data
  | .insert data | .update _ data => data
  | .all _ | .first _ | .find _ | .count _ | .delete _ => []

def subject (q : Query α) : Operation α β → Query α
  | .all extra | .count extra | .update extra _ | .delete extra => extended q extra
  | .first extra | .find extra => (extended q extra).limit 1
  | .insert _ => q

def finish (q : Query α) : Operation α β → Statement → Statement
  | .insert _, s => { s with sql := s.sql ++ (q.dialect.returning? "*").getD "" }
  | _, s => s

def statement (q : Query α) (op : Operation α β) : Except Error Statement :=
  ((op.subject q).statement op.data op.kind).map (op.finish q)

def rowsOf (q : Query α) : Output → Except Error (Rows RowStream α)
  | .rows stream => .ok (.ofSource stream q.fetch)
  | .affected _ => .error .affectedForRows

def found (q : Query α) (row : Option α) : Except Error α :=
  row.elim (.error (.notFound q.tableName q.describeWhere)) .ok

def read [RowType α] (q : Query α) : Operation α β → Output → Except Error β
  | .all extra, out => rowsOf (extended q extra) out
  | .first extra, out => (rowsOf (extended q extra) out).bind (·.next.1)
  | .find extra, out => ((rowsOf (extended q extra) out).bind (·.next.1)).bind (found (extended q extra))
  | .count extra, out => (rowsOf (extended q extra) out).bind (·.rowCount.1)
  | .insert _, .rows stream => q.generatedKey stream
  | .insert _, .affected _ => .ok none
  | .update _ _, out | .delete _, out => affectedCount out

section

variable (conn : Connection σ)

theorem sends_all (q : Query α) : (q.all conn).Sends conn q.toSelect (rowsOf q) := by
  apply Action.sends_compiled
  intro out state
  cases out with
  | rows stream => exact Action.does_pure _ state
  | affected n => exact Action.does_throw _ state

variable [RowType α]

theorem sends_first (q : Query α) :
    (q.first conn).Sends conn (q.limit 1).toSelect fun out => (rowsOf q out).bind (·.next.1) :=
  (sends_all conn (q.limit 1)).bind fun rows => Action.does_ofExcept rows.next.1

theorem sends_find (q : Query α) :
    (q.find conn).Sends conn (q.limit 1).toSelect
      fun out => ((rowsOf q out).bind (·.next.1)).bind (found q) := by
  apply (sends_first conn q).bind
  intro row state
  cases row with
  | none => exact Action.does_throw _ state
  | some a => exact Action.does_pure a state

theorem sends_insert (q : Query α) (data : Data) :
    (q.insert conn data).Sends conn (q.toReturningInsert data)
      ((insert data : Operation α _).read q) := by
  apply Action.sends_compiled
  intro out state
  cases out with
  | rows stream => exact Action.does_ofExcept (q.generatedKey stream) state
  | affected n => exact Action.does_pure none state

theorem sends_of_plain {a : Action σ β} {compiled : Except Error Statement} {read : Output → Except Error β}
    (h : a.Sends conn compiled read) : a.Sends conn (compiled.map fun s => s) read := by
  have hmap : compiled.map (fun s => s) = compiled := congrFun Except.map_id compiled
  rw [hmap]
  exact h

theorem sends (q : Query α) (op : Operation α β) :
    (op.run q conn).Sends conn (op.statement q) (op.read q) := by
  cases op with
  | all extra => exact sends_of_plain conn (sends_all conn (extended q extra))
  | first extra => exact sends_of_plain conn (sends_first conn (extended q extra))
  | find extra => exact sends_of_plain conn (sends_find conn (extended q extra))
  | count extra =>
    apply sends_of_plain conn
    exact (sends_all conn (extended q extra)).bind fun rows => Action.does_ofExcept rows.rowCount.1
  | insert data => exact sends_insert conn q data
  -- update and delete have no reading of their own: they count what is affected
  | update extra data =>
    apply sends_of_plain conn
    exact Action.sends_compiled conn _ fun out => Action.does_ofExcept (affectedCount out)
  | delete extra =>
    apply sends_of_plain conn
    exact Action.sends_compiled conn _ fun out => Action.does_ofExcept (affectedCount out)

end

theorem tables_subject (q : Query α) (op : Operation α β) : (op.subject q).tables = q.tables := by
  cases op with
  | insert data => rfl
  | all extra | first extra | find extra | count extra | update extra data | delete extra =>
    cases extra <;> rfl

theorem fetch_extended (q : Query α) (extra : Option Filter) : (extended q extra).fetch = q.fetch := by
  cases extra <;> rfl

theorem statement_cases (q : Query α) (op : Operation α β) :
    (q.tables = [] ∨ op.kind.needsData = true ∧ op.data = []) ∧
        (∃ e, op.statement q = .error e ∧ e.isConstruction = true) ∨
      ¬(q.tables = [] ∨ op.kind.needsData = true ∧ op.data = []) ∧ ∃ s, op.statement q = .ok s := by
  unfold statement
  rw [statement_eq, tables_subject]
  split
  · next htables => exact .inl ⟨.inl (List.isEmpty_iff.mp htables), _, rfl, rfl⟩
  · next htables =>
    have hne : ¬q.tables = [] := fun h => htables (List.isEmpty_iff.mpr h)
    split
    · next hdata =>
      obtain ⟨hneeds, hempty⟩ := Bool.and_eq_true_iff.mp hdata
      refine .inl ⟨.inr ⟨hneeds, List.isEmpty_iff.mp hempty⟩, _, rfl, ?_⟩
      cases op.kind <;> rfl
    · next hdata =>
      refine .inr ⟨?_, _, rfl⟩
      rintro (h | ⟨hneeds, hempty⟩)
      · exact hne h
      · exact hdata (by rw [hneeds, hempty]; rfl)

theorem statement_error_iff (q : Query α) (op : Operation α β) :
    (∃ e, op.statement q = .error e) ↔ q.tables = [] ∨ op.kind.needsData = true ∧ op.data = [] := by
  rcases op.statement_cases q with ⟨hempty, e, he, -⟩ | ⟨hgiven, s, hs⟩
  · exact ⟨fun _ => hempty, fun _ => ⟨e, he⟩⟩
  · refine ⟨?_, fun hempty => absurd hempty hgiven⟩
    rintro ⟨e, he⟩
    rw [hs] at he
    cases he

theorem isConstruction_of_statement_eq_error {q : Query α} {op : Operation α β} {e : Error}
    (h : op.statement q = .error e) : e.isConstruction = true := by
  rcases op.statement_cases q with ⟨-, e', he', hkind⟩ | ⟨-, s, hs⟩
  · rw [he'] at h
    cases h
    exact hkind
  · rw [hs] at h
    cases h

/-- An operation on a query sends nothing and logs nothing exactly if no table was given or the data that
it needs is empty, and fails with that error. Otherwise it logs one event and sends one statement, both
of them the compiled one, and its result is what it reads from the answer. Of the rows in the answer, the
operations for one row take one at the most. -/
theorem sends_once [RowType α] {primaryKey : String} {es : List Edit} {q : Query α}
    (h : Built primaryKey es q) (conn : Connection σ) (op : Operation α β) (state : σ) :
    let t := (op.run q conn).run (Session.start state)
    ((∃ e, op.statement q = .error e) ↔
      es.filterMap Edit.table? = [] ∨ op.kind.needsData = true ∧ op.data = []) ∧
    (∀ e, op.statement q = .error e → e.isConstruction = true ∧ t = (.error e, Session.start state)) ∧
    (∀ s, op.statement q = .ok s →
      t.1 = (conn.execute s state).1.bind (op.read q) ∧ t.2.state = (conn.execute s state).2 ∧
      ∃ cut, Statement.Cut 200 s.sql cut ∧
        t.2.trace =
          [.logged ⟨.debug, "querymap.sql",
              [("param_count", toString s.params.length),
                ("types", Text.listText (s.params.map fun v => v.paramType.name)), ("sql", cut)]⟩,
            .called (.execute s)]) ∧
    ∀ extra stream,
      let r := (Rows.ofSource (Watched.start stream) q.fetch).next
      r.2.source.answers.length ≤ 1 ∧
      (first extra).read q (.rows stream) = r.1 ∧
      (find extra).read q (.rows stream) = r.1.bind (found (extended q extra)) := by
  intro t
  have hsends := sends conn q op
  refine ⟨?_, ?_, ?_, ?_⟩
  · rw [← h.tables_eq]
    exact op.statement_error_iff q
  · intro e he
    exact ⟨isConstruction_of_statement_eq_error he, (hsends.refused e he state).run_start⟩
  · intro s hs
    have ht : t = _ := (hsends.sent s hs state).run_start
    have htypes : s.types.map ParamType.name = s.params.map fun v => v.paramType.name := List.map_map
    rw [ht]
    refine ⟨rfl, rfl, s.truncatedSql 200, s.cut_truncatedSql 200, ?_⟩
    rw [← htypes]
    rfl
  · intro extra stream r
    obtain ⟨hnext, htaken⟩ := Rows.next_start stream q.fetch
    have hfirst : (first extra).read q (.rows stream) = r.1 := by
      rw [← hnext, ← fetch_extended q extra]
      rfl
    exact ⟨htaken, hfirst, congrArg (Except.bind · (found (extended q extra))) hfirst⟩

theorem sends_once_find :
    let es : List Edit := [.filter .or (.key (.int 7)), .table ⟨"users", some "u"⟩, .limit 10]
    let q := (Query.start "id").edits es
    let op : Operation Record Record := .find (some (.key (.list [.bool true, .null])))
    let row : Record := ⟨[("id", .int 7)]⟩
    let stream : RowStream := ⟨[.ok row, .error (.query "late")], none, none⟩
    let conn : Connection Nat :=
      ⟨.postgres, fun _ n => (.ok (.rows stream), n + 1), (.ok (), ·), (.ok (), ·), (.ok (), ·)⟩
    let t := (op.run q conn).run (Session.start 0)
    ∃ s, op.statement q = .ok s ∧
      s.sql = "SELECT u.* FROM users AS u WHERE u.id = ? AND u.id IN ? LIMIT 1" ∧
      t.1 = .ok row ∧ t.2.state = 1 ∧ Session.calls t.2.trace = [.execute s] ∧
      ((update none [] : Operation Record Nat).run q conn).run (Session.start 0) =
        (.error (.nothingToUpdate "users"), Session.start 0) := by
  intro es q op row stream conn t
  have hbuilt : Built "id" es q := Built.start.edits es
  obtain ⟨-, -, hsent, -⟩ := sends_once hbuilt conn op 0
  obtain ⟨-, hrefused, -, -⟩ := sends_once hbuilt conn (update none [] : Operation Record Nat) 0
  have hs : op.statement q = .ok _ := rfl
  obtain ⟨hresult, hstate, cut, -, htrace⟩ := hsent _ hs
  refine ⟨_, hs, by decide +kernel, hresult, hstate, ?_, (hrefused _ rfl).2⟩
  rw [htrace]
  rfl

end Operation

end BoundSql
