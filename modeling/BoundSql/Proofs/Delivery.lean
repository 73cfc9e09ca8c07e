import Mathlib.Data.List.Forall2
import BoundSql.Proofs.Bracketing
import BoundSql.Proofs.Expansion
import BoundSql.Server

/-! What a server is sent for one statement, and by a whole body. -/

namespace BoundSql

open Wire

abbrev Serialized (params : List (Value × SqlType)) (cells : List (Option Bytes)) : Prop :=
  List.Forall₂ (fun p cell => p.1.encode p.2 = .ok cell) params cells

namespace Reply

theorem encodeAll_eq_ok_iff {index : Nat} {params : List (Value × SqlType)} {cells : List (Option Bytes)} :
    encodeAll index params = .ok cells ↔ Serialized params cells := by
  induction params generalizing index cells with
  | nil =>
    constructor
    · intro h
      cases h
      exact .nil
    · rintro ⟨⟩
      rfl
  | cons p rest ih =>
    obtain ⟨v, type⟩ := p
    rw [encodeAll]
    cases hv : v.encode type with
    | error f =>
      refine ⟨nofun, ?_⟩
      rintro (_ | ⟨hcell, -⟩)
      exact absurd (hv.symm.trans hcell) nofun
    | ok cell =>
      constructor
      · intro h
        cases hrest : encodeAll (index + 1) rest with
        | error e =>
          rw [hrest] at h
          cases h
        | ok tail =>
          rw [hrest] at h
          cases h
          exact .cons hv (ih.mp hrest)
      · rintro (_ | ⟨hcell, hrest⟩)
        cases hv.symm.trans hcell
        dsimp only
        rw [ih.mpr hrest]
        rfl

theorem exists_of_encodeAll_eq_error {index : Nat} {params : List (Value × SqlType)} {e : Error}
    (h : encodeAll index params = .error e) :
    ∃ front p back cells, params = front ++ p :: back ∧ Serialized front cells ∧
      (∃ f, p.1.encode p.2 = .error f) ∧ e = .unencodable (index + front.length) := by
  induction params generalizing index with
  | nil => cases h
  | cons p rest ih =>
    obtain ⟨v, type⟩ := p
    rw [encodeAll] at h
    cases hv : v.encode type with
    | error f =>
      rw [hv] at h
      cases h
      exact ⟨[], _, rest, [], rfl, .nil, ⟨f, hv⟩, rfl⟩
    | ok cell =>
      rw [hv] at h
      cases hrest : encodeAll (index + 1) rest with
      | ok tail =>
        rw [hrest] at h
        cases h
      | error e' =>
        rw [hrest] at h
        cases h
        obtain ⟨front, p, back, cells, rfl, hfront, hp, rfl⟩ := ih hrest
        refine ⟨(v, type) :: front, p, back, cell :: cells, rfl, .cons hv hfront, hp, ?_⟩
        rw [List.length_cons, Nat.add_comm front.length, Nat.add_assoc]

/-- The server takes a statement with these parameters, which are bound as these cells. -/
structure Binds (r : Reply) (params : List Value) (cells : List (Option Bytes)) : Prop where
  open_after : r.failure ≠ some .close
  prepared : r.failure ≠ some .prepare
  length_eq : params.length = r.paramTypes.length
  cells : Serialized (params.zip r.paramTypes) cells

theorem Binds.length_cells {r : Reply} {params : List Value} {cells : List (Option Bytes)}
    (h : r.Binds params cells) : cells.length = params.length := by
  rw [← h.cells.length_eq, List.length_zip, ← h.length_eq, Nat.min_self]

theorem Binds.unique {r : Reply} {params : List Value} {cells others : List (Option Bytes)}
    (h : r.Binds params cells) (h' : r.Binds params others) : cells = others := by
  have hcells : encodeAll 0 (params.zip r.paramTypes) = .ok cells := encodeAll_eq_ok_iff.mpr h.cells
  rw [encodeAll_eq_ok_iff.mpr h'.cells] at hcells
  exact (Except.ok.inj hcells).symm

end Reply

namespace Server

variable {s : Server} {statement numbered : Statement}

/-- A statement leaves for the server as this numbered one. -/
structure Sends (s : Server) (statement numbered : Statement) : Prop where
  expanded : statement.expand = .ok numbered
  sendable : numbered.sql.contains '\x00' = false
  opened : s.closed = false

theorem execute_of_not_sends (h : ¬ ∃ numbered, s.Sends statement numbered) :
    ∃ e, s.execute statement = (.error e, s) := by
  unfold execute
  cases hexpand : statement.expand with
  | error e => exact ⟨e, rfl⟩
  | ok numbered =>
    dsimp only
    split
    · exact ⟨_, rfl⟩
    · next hsendable =>
      split
      · exact ⟨_, rfl⟩
      · next hopen =>
        exact absurd ⟨numbered, hexpand, Bool.eq_false_iff.mpr hsendable, Bool.eq_false_iff.mpr hopen⟩ h

theorem Sends.execute_eq (h : s.Sends statement numbered) :
    s.execute statement = prepareAndRun numbered s := by
  rw [execute, h.expanded]
  dsimp only
  rw [if_neg (Bool.eq_false_iff.mp h.sendable), if_neg (Bool.eq_false_iff.mp h.opened)]

theorem prepareAndRun_of_taken (numbered : Statement) (hclose : s.reply.failure ≠ some .close)
    (hprepare : s.reply.failure ≠ some .prepare) :
    prepareAndRun numbered s =
      bindAndRun numbered.params { s with sent := { s.sent with prepared := some numbered.sql } } := by
  unfold prepareAndRun
  dsimp only
  split
  · next hfailure => exact absurd hfailure hclose
  · next hfailure => exact absurd hfailure hprepare
  · rfl

theorem Sends.execute_of_binds (h : s.Sends statement numbered) {cells : List (Option Bytes)}
    (hbinds : s.reply.Binds numbered.params cells) :
    s.execute statement =
      (s.reply.answer, { s with
        closed := s.reply.failure == some .closeAfterRows
        sent := { s.sent with prepared := some numbered.sql, bound := some cells } }) := by
  rw [h.execute_eq, prepareAndRun_of_taken numbered hbinds.open_after hbinds.prepared, bindAndRun,
    if_neg (not_not_intro hbinds.length_eq), Reply.encodeAll_eq_ok_iff.mpr hbinds.cells]

theorem Sends.execute_of_not_binds (h : s.Sends statement numbered)
    (hbinds : ¬ ∃ cells, s.reply.Binds numbered.params cells) :
    ∃ e, s.execute statement =
      (.error e, { s with
        closed := s.reply.failure == some .close
        sent := { s.sent with prepared := some numbered.sql } }) := by
  rw [h.execute_eq]
  unfold prepareAndRun
  dsimp only
  split
  · next hclose => exact ⟨_, by rw [hclose]; rfl⟩
  · next hprepare => exact ⟨_, by rw [hprepare, h.opened]; rfl⟩
  · next hclose hprepare =>
    have hopen : s.closed = (s.reply.failure == some .close) := by
      rw [h.opened, beq_eq_false_iff_ne.mpr hclose]
    rw [← hopen, bindAndRun]
    split
    · exact ⟨_, rfl⟩
    · next hlength =>
      cases hcells : Reply.encodeAll 0 (numbered.params.zip s.reply.paramTypes) with
      | error e => exact ⟨e, rfl⟩
      | ok cells =>
        exact absurd ⟨cells, hclose, hprepare, not_not.mp hlength, Reply.encodeAll_eq_ok_iff.mp hcells⟩ hbinds

/-- A parameter that its type cannot hold is refused by its place, the first of them if there are several. -/
theorem Sends.execute_of_not_serialized (h : s.Sends statement numbered)
    (hclose : s.reply.failure ≠ some .close) (hprepare : s.reply.failure ≠ some .prepare)
    (hlength : numbered.params.length = s.reply.paramTypes.length)
    (hcells : ¬ ∃ cells, Serialized (numbered.params.zip s.reply.paramTypes) cells) :
    ∃ front p back cells, numbered.params.zip s.reply.paramTypes = front ++ p :: back ∧
      Serialized front cells ∧ (∃ f, p.1.encode p.2 = .error f) ∧
      (s.execute statement).1 = .error (.unencodable front.length) := by
  cases hall : Reply.encodeAll 0 (numbered.params.zip s.reply.paramTypes) with
  | ok cells => exact absurd ⟨cells, Reply.encodeAll_eq_ok_iff.mp hall⟩ hcells
  | error e =>
    obtain ⟨front, p, back, cells, heq, hfront, hp, rfl⟩ := Reply.exists_of_encodeAll_eq_error hall
    refine ⟨front, p, back, cells, heq, hfront, hp, ?_⟩
    rw [h.execute_eq, prepareAndRun_of_taken numbered hclose hprepare, bindAndRun,
      if_neg (not_not_intro hlength), hall, Nat.zero_add]

theorem execute_cases (s : Server) (statement : Statement) :
    ((¬ ∃ numbered, s.Sends statement numbered) ∧ ∃ e, s.execute statement = (.error e, s)) ∨
      ∃ numbered, s.Sends statement numbered ∧
        (((¬ ∃ cells, s.reply.Binds numbered.params cells) ∧
            ∃ e, s.execute statement = (.error e, { s with
              closed := s.reply.failure == some .close
              sent := { s.sent with prepared := some numbered.sql } })) ∨
          ∃ cells, s.reply.Binds numbered.params cells ∧
            s.execute statement = (s.reply.answer, { s with
              closed := s.reply.failure == some .closeAfterRows
              sent := { s.sent with prepared := some numbered.sql, bound := some cells } })) := by
  by_cases hsends : ∃ numbered, s.Sends statement numbered
  · obtain ⟨numbered, h⟩ := hsends
    refine .inr ⟨numbered, h, ?_⟩
    by_cases hbinds : ∃ cells, s.reply.Binds numbered.params cells
    · obtain ⟨cells, hcells⟩ := hbinds
      exact .inr ⟨cells, hcells, h.execute_of_binds hcells⟩
    · exact .inl ⟨hbinds, h.execute_of_not_binds hbinds⟩
  · exact .inl ⟨hsends, execute_of_not_sends hsends⟩

theorem Sends.params_eq (h : s.Sends statement numbered) :
    numbered.params = statement.params.flatMap Value.flat := by
  have hexpanded := h.expanded
  by_cases hholes : holes (pieces none statement.sql.toList) = statement.params.length
  · rw [expand_of_holes_eq hholes] at hexpanded
    rw [← Except.ok.inj hexpanded]
  · obtain ⟨m, hm⟩ := expand_of_holes_ne hholes
    rw [hm] at hexpanded
    cases hexpanded

theorem Sends.unique {other : Statement} (h : s.Sends statement numbered) (h' : s.Sends statement other) :
    numbered = other :=
  Except.ok.inj (h.expanded.symm.trans h'.expanded)

theorem prepared_execute_iff (h : s.sent.prepared = none) {text : String} :
    (s.execute statement).2.sent.prepared = some text ↔
      ∃ numbered, s.Sends statement numbered ∧ numbered.sql = text := by
  obtain ⟨hrefused, e, he⟩ | ⟨numbered, hsends, hsent⟩ := execute_cases s statement
  · rw [he, h]
    exact ⟨nofun, fun ⟨numbered, hsends, _⟩ => absurd ⟨numbered, hsends⟩ hrefused⟩
  · have hprepared : (s.execute statement).2.sent.prepared = some numbered.sql := by
      obtain ⟨-, e, he⟩ | ⟨cells, -, he⟩ := hsent <;> rw [he]
    rw [hprepared, Option.some_inj]
    constructor
    · exact fun htext => ⟨numbered, hsends, htext⟩
    · rintro ⟨other, hother, rfl⟩
      rw [hsends.unique hother]

theorem bound_execute_iff (h : s.sent.bound = none) {cells : List (Option Bytes)} :
    (s.execute statement).2.sent.bound = some cells ↔
      ∃ numbered, s.Sends statement numbered ∧ s.reply.Binds numbered.params cells := by
  obtain ⟨hrefused, e, he⟩ | ⟨numbered, hsends, ⟨hrefused, e, he⟩ | ⟨own, hown, he⟩⟩ :=
    execute_cases s statement
  · rw [he, h]
    exact ⟨nofun, fun ⟨numbered, hsends, _⟩ => absurd ⟨numbered, hsends⟩ hrefused⟩
  · rw [he]
    dsimp only
    rw [h]
    refine ⟨nofun, ?_⟩
    rintro ⟨other, hother, hbinds⟩
    obtain rfl := hsends.unique hother
    exact absurd ⟨cells, hbinds⟩ hrefused
  · rw [he]
    dsimp only
    rw [Option.some_inj]
    constructor
    · rintro rfl
      exact ⟨numbered, hsends, hown⟩
    · rintro ⟨other, hother, hbinds⟩
      obtain rfl := hsends.unique hother
      exact hown.unique hbinds

/-- What a ready server is sent for a statement is its numbered text and a cell for each flattened
parameter, encoded for its type. Where no text is sent the server stays as it is. -/
theorem execute_ready (s : Server) (r : Reply) (statement : Statement) :
    let ready := s.ready r
    let done := ready.execute statement
    (∀ text, done.2.sent.prepared = some text ↔
      ∃ numbered, ready.Sends statement numbered ∧ numbered.sql = text) ∧
    (∀ cells, done.2.sent.bound = some cells ↔
      ∃ numbered, ready.Sends statement numbered ∧ r.Binds numbered.params cells) ∧
    (∀ cells, done.2.sent.bound = some cells →
      done.1 = r.answer ∧ cells.length = (statement.params.flatMap Value.flat).length) ∧
    (done.2.sent.prepared = none → ∃ e, done = (.error e, ready)) := by
  intro ready done
  have hbound {cells : List (Option Bytes)} : done.2.sent.bound = some cells ↔
      ∃ numbered, ready.Sends statement numbered ∧ r.Binds numbered.params cells :=
    bound_execute_iff rfl
  refine ⟨fun _ => prepared_execute_iff rfl, fun _ => hbound, fun cells hcells => ?_, fun hnone => ?_⟩
  · obtain ⟨numbered, hsends, hbinds⟩ := hbound.mp hcells
    refine ⟨congrArg Prod.fst (hsends.execute_of_binds hbinds), ?_⟩
    rw [hbinds.length_cells, hsends.params_eq]
  · obtain ⟨-, he⟩ | ⟨numbered, hsends, -⟩ := execute_cases ready statement
    · exact he
    · have hprepared := (prepared_execute_iff (s := ready) rfl).mpr ⟨numbered, hsends, rfl⟩
      rw [hnone] at hprepared
      cases hprepared

end Server

namespace Connection

variable {σ α : Type} {conn : Connection σ} {P : σ → Prop}

theorem after_keeps (hcall : ∀ c state, P state → P (conn.answer c state).2) {state : σ} (h : P state)
    (calls : List Call) : P (conn.after calls state) := by
  induction calls generalizing state with
  | nil => exact h
  | cons c rest ih => exact ih (hcall c state h)

/-- What every call keeps is kept by whole bodies, with transactions nested to any depth. -/
theorem run_keeps (hcall : ∀ c state, P state → P (conn.answer c state).2) {state : σ} (h : P state)
    (body : Body α) : P ((body.run conn).run (Session.start state)).2.state := by
  obtain ⟨r, last, done, hdoes, hmatches⟩ := body.exists_does conn state
  rw [hdoes.run_start]
  dsimp only
  rw [← hmatches.after_eq]
  exact after_keeps hcall h _

end Connection

namespace Server

variable {s : Server} {α : Type}

theorem command_of_closed (h : s.closed = true) (text : String) :
    s.command text = (.error .closedConnection, s) := if_pos h

theorem answer_of_closed (h : s.closed = true) (c : Call) : connection.answer c s = (false, s) := by
  cases c with
  | execute statement =>
    have hrefused : ¬ ∃ numbered, s.Sends statement numbered := fun ⟨_, hsends⟩ =>
      Bool.false_ne_true (hsends.opened.symm.trans h)
    obtain ⟨e, he⟩ := execute_of_not_sends hrefused
    simp only [Connection.answer, connection, he]
    rfl
  | begin | commit | rollback =>
    simp only [Connection.answer, connection, command_of_closed h]
    rfl

theorem run_of_closed (h : s.closed = true) (body : Body α) :
    ((body.run connection).run (Session.start s)).2.state = s := by
  refine Connection.run_keeps (P := fun t => t = s) ?_ rfl body
  rintro c t rfl
  rw [answer_of_closed h]

end Server

structure Sent.Sound (sent : Sent) : Prop where
  prepared : sent.bound.isSome → sent.prepared.isSome
  sendable : ∀ text ∈ sent.prepared, text.contains '\x00' = false

theorem Sent.sound_nothing : nothing.Sound := ⟨nofun, nofun⟩

namespace Server

variable {s : Server} {α : Type}

theorem sound_command (h : s.sent.Sound) (text : String) : (s.command text).2.sent.Sound := by
  unfold command
  split
  · exact h
  · dsimp only
    split <;> exact ⟨h.prepared, h.sendable⟩

theorem sound_execute (h : s.sent.Sound) (statement : Statement) :
    (s.execute statement).2.sent.Sound := by
  obtain ⟨-, e, he⟩ | ⟨numbered, hsends, hsent⟩ := execute_cases s statement
  · rw [he]
    exact h
  · have hsendable : ∀ text ∈ some numbered.sql, text.contains '\x00' = false := by
      rintro text ⟨⟩
      exact hsends.sendable
    obtain ⟨-, e, he⟩ | ⟨cells, -, he⟩ := hsent
    · rw [he]
      exact ⟨fun _ => rfl, hsendable⟩
    · rw [he]
      exact ⟨fun _ => rfl, hsendable⟩

/-- Whatever a body does on a ready server, no text with a zero character is prepared, and no cells are
bound without a text. -/
theorem run_sound (s : Server) (r : Reply) (body : Body α) :
    ((body.run connection).run (Session.start (s.ready r))).2.state.sent.Sound := by
  refine Connection.run_keeps (P := fun t : Server => t.sent.Sound) ?_ Sent.sound_nothing body
  intro c t ht
  cases c with
  | execute statement => exact sound_execute ht statement
  | begin => exact sound_command ht "BEGIN"
  | commit => exact sound_command ht "COMMIT"
  | rollback => exact sound_command ht "ROLLBACK"

end Server

end BoundSql
