import BoundSql.Proofs.Statements

/-! Values do not reach the text; of an operand or a key only whether it is a list does. -/

namespace BoundSql

def Value.forget (v : Value) : Value := if v.isList then .list [] else .null

mutual

def Predicate.forget : Predicate → Predicate
  | .template sql _ => .template sql []
  | .not inner => .not inner.forget
  | .group alias? entries => .group alias? (forgetEntries entries)

def forgetEntries : List Entry → List Entry
  | [] => []
  | e :: rest => e.forget :: forgetEntries rest

def Entry.forget : Entry → Entry
  | .mk joiner condition => .mk joiner condition.forget

def Condition.forget : Condition → Condition
  | .raw sql _ => .raw sql []
  | .predicate p => .predicate p.forget
  | .pairs ps => .pairs (forgetPairs ps)

def forgetPairs : List Pair → List Pair
  | [] => []
  | p :: rest => p.forget :: forgetPairs rest

def Pair.forget : Pair → Pair
  | .literal sql => .literal sql
  | .column name operand => .column name operand.forget

def Operand.forget : Operand → Operand
  | .value v => .value v.forget
  | .predicate p => .predicate p.forget

end

def Composite.forget (c : Composite) : Composite := { c with entries := forgetEntries c.entries }

def JoinOn.forget : JoinOn → JoinOn
  | .columns pairs => .columns pairs
  | .condition c => .condition c.forget

def Join.forget (j : Join) : Join := { j with on := j.on.map JoinOn.forget }

def Filter.forget : Filter → Filter
  | .key v => .key v.forget
  | .condition c => .condition c.forget

def Edit.forget : Edit → Edit
  | .join target on => .join target (on.map JoinOn.forget)
  | .filter joiner f => .filter joiner f.forget
  | .exclude joiner f => .exclude joiner f.forget
  | .having joiner c => .having joiner c.forget
  | e => e

theorem Value.isList_forget (v : Value) : v.forget.isList = v.isList := by
  rw [Value.forget]
  cases h : v.isList <;> rfl

theorem Value.comparison_forget (v : Value) : v.forget.comparison = v.comparison := by
  rw [Value.comparison, Value.comparison, Value.isList_forget]

mutual

theorem Predicate.render_forget :
    (p : Predicate) → (column : String) → p.forget.render column = p.render column
  | .template _ _, _ => rfl
  | .not inner, column => congrArg negate (inner.render_forget column)
  | .group _ entries, _ => congrArg joinLeaves (entryTexts_forget _ entries)

theorem entryTexts_forget (alias? : Option String) :
    (es : List Entry) → entryTexts alias? (forgetEntries es) = entryTexts alias? es
  | [] => rfl
  | .mk joiner condition :: rest => by
    rw [forgetEntries, entryTexts, entryTexts, entryTexts_forget alias? rest, Entry.forget, Entry.texts,
      Entry.texts, condition.texts_forget alias?]

theorem Condition.texts_forget (alias? : Option String) :
    (c : Condition) → c.forget.texts alias? = c.texts alias?
  | .raw _ _ => rfl
  | .predicate p => congrArg ([·]) (p.render_forget _)
  | .pairs ps => pairTexts_forget alias? ps

theorem pairTexts_forget (alias? : Option String) :
    (ps : List Pair) → pairTexts alias? (forgetPairs ps) = pairTexts alias? ps
  | [] => rfl
  | .literal sql :: rest => congrArg (sql :: ·) (pairTexts_forget alias? rest)
  | .column name operand :: rest => by
    rw [forgetPairs, pairTexts, pairTexts, pairTexts_forget alias? rest, Pair.forget, Pair.text, Pair.text,
      operand.render_forget]

theorem Operand.render_forget :
    (o : Operand) → (column : String) → o.forget.render column = o.render column
  | .value v, column => congrArg (fillTemplate · column) v.comparison_forget
  | .predicate p, column => p.render_forget column

end

theorem Composite.compile_forget (c : Composite) : c.forget.compile.sql = c.compile.sql :=
  congrArg joinLeaves (entryTexts_forget c.alias? c.entries)

theorem forgetEntries_append (xs ys : List Entry) :
    forgetEntries (xs ++ ys) = forgetEntries xs ++ forgetEntries ys := by
  induction xs with
  | nil => rfl
  | cons e rest ih => rw [List.cons_append, forgetEntries, forgetEntries, ih, List.cons_append]

theorem Composite.forget_push (c : Composite) (joiner : Joiner) (condition : Condition) :
    (c.push joiner condition).forget = c.forget.push joiner condition.forget :=
  congrArg (Composite.mk · c.alias?) (forgetEntries_append c.entries _)

theorem Filter.forget_resolve (f : Filter) (primaryKey : String) :
    (f.resolve primaryKey).forget = f.forget.resolve primaryKey := by
  cases f <;> rfl

theorem Join.onComposite_forget (on : JoinOn) :
    (Join.onComposite on.forget).compile.sql = (Join.onComposite on).compile.sql := by
  cases on with
  | columns pairs => rfl
  | condition c => exact c.compile_forget

theorem Join.fragment_forget (j : Join) : j.forget.fragment.sql = j.fragment.sql := by
  obtain ⟨target, on⟩ := j
  cases on with
  | none => rfl
  | some on =>
    have hon := Join.onComposite_forget on
    simp only [Join.forget, Option.map_some, Join.fragment, hon]
    split <;> rfl

namespace Query

variable {α : Type}

def forget (q : Query α) : Query α :=
  { q with
    joins := q.joins.map Join.forget
    whereClause := q.whereClause.forget
    havingClause := q.havingClause.forget }

theorem forget_edit (q : Query α) (e : Edit) : (q.edit e).forget = q.forget.edit e.forget := by
  obtain ⟨primaryKey, tables, qualifier, columns, joins, whereClause, havingClause, grouping, ordering,
    rowLimit, rowOffset, dialect, fetch⟩ := q
  cases e with
  | table t => cases qualifier <;> rfl
  | join target on => simp only [edit, join, forget, Edit.forget, List.map_append]; rfl
  | filter joiner f =>
    simp only [edit, filter, forget, Edit.forget, Composite.forget_push, Filter.forget_resolve]
  | exclude joiner f =>
    simp only [edit, exclude, forget, Edit.forget, Composite.forget_push]
    rw [← Filter.forget_resolve]
    rfl
  | having joiner c => simp only [edit, having, forget, Edit.forget, Composite.forget_push]
  | _ => rfl

theorem forget_edits (q : Query α) (es : List Edit) :
    (q.edits es).forget = q.forget.edits (es.map Edit.forget) := by
  induction es generalizing q with
  | nil => rfl
  | cons e rest ih =>
    rw [edits, List.foldl_cons, ← edits, ih, forget_edit]
    rfl

theorem sql_conditionClause_forget (word : String) (c : Composite) :
    (conditionClause word c.forget).map (·.sql) = (conditionClause word c).map (·.sql) := by
  rw [conditionClause, conditionClause, c.compile_forget]
  split <;> rfl

theorem sql_joinClauses_forget (q : Query α) :
    q.forget.joinClauses.map (·.sql) = q.joinClauses.map (·.sql) := by
  rw [joinClauses, joinClauses, forget, List.map_map, List.map_map, List.map_map]
  exact List.map_congr_left fun j _ => j.fragment_forget

theorem sql_insertClause_of_columns (q : Query α) {data data' : Data}
    (h : data.map (·.1) = data'.map (·.1)) :
    (q.insertClause data).sql = (q.insertClause data').sql := by
  have hmarks (d : Data) : (d.map fun _ => "?") = (d.map (·.1)).map fun _ => "?" := by
    rw [List.map_map]; rfl
  rw [sql_insertClause, sql_insertClause, hmarks data, hmarks data', h]

theorem sql_setClause_of_columns {data data' : Data} (h : data.map (·.1) = data'.map (·.1)) :
    (setClause data).sql = (setClause data').sql := by
  have hcolumns (d : Data) : (d.map fun p => p.1 ++ " = ?") = (d.map (·.1)).map (· ++ " = ?") := by
    rw [List.map_map]; rfl
  rw [sql_setClause, sql_setClause, hcolumns data, hcolumns data', h]

theorem sql_clauses_forget (q : Query α) {data data' : Data} (h : data.map (·.1) = data'.map (·.1))
    (kind : StatementKind) :
    (q.forget.clauses data kind).map (·.sql) = (q.clauses data' kind).map (·.sql) := by
  have hwhere : q.forget.whereClauses.map (·.sql) = q.whereClauses.map (·.sql) :=
    sql_conditionClause_forget "WHERE" q.whereClause
  have hhaving : q.forget.havingClauses.map (·.sql) = q.havingClauses.map (·.sql) :=
    sql_conditionClause_forget "HAVING" q.havingClause
  have hjoins := q.sql_joinClauses_forget
  cases kind with
  | select =>
    simp only [clauses, selectClauses, List.map_cons, List.map_append, hjoins, hwhere, hhaving]
    rfl
  | insert => exact congrArg ([·]) (q.sql_insertClause_of_columns h)
  | update =>
    simp only [clauses, updateClauses, List.map_cons, hwhere, sql_setClause_of_columns h]
    rfl
  | delete =>
    simp only [clauses, deleteClauses, List.map_cons, List.map_append, hjoins, hwhere]
    rfl

theorem sql_finish_forget (q : Query α) {s t : Statement} (h : s.sql = t.sql) (kind : StatementKind) :
    (q.forget.finish s kind).sql = (q.finish t kind).sql := by
  have hlimited : (q.forget.limited s).sql = (q.limited t).sql := by
    simp only [limited, forget, h]
    split
    · exact h
    · rfl
  cases kind with
  | insert => exact h
  | _ => exact hlimited

theorem sql_statement_forget (q : Query α) {data data' : Data} (h : data.map (·.1) = data'.map (·.1))
    (kind : StatementKind) :
    (q.forget.statement data kind).map (·.sql) = (q.statement data' kind).map (·.sql) := by
  have hempty : data.isEmpty = data'.isEmpty := by
    rw [← List.isEmpty_map, h, List.isEmpty_map]
  exact sql_statement_congr rfl hempty (q.sql_clauses_forget h kind) fun s t hst =>
    q.sql_finish_forget hst kind

end Query

theorem Value.forget_eq_iff (v w : Value) : v.forget = w.forget ↔ v.isList = w.isList := by
  constructor
  · intro h
    rw [← v.isList_forget, h, w.isList_forget]
  · intro h
    rw [Value.forget, Value.forget, h]

theorem Value.comparison_eq_iff (v w : Value) : v.comparison = w.comparison ↔ v.isList = w.isList := by
  rw [Value.comparison, Value.comparison]
  cases v.isList <;> cases w.isList <;> decide

theorem Operand.forget_value_iff (v w : Value) :
    (Operand.value v).forget = (Operand.value w).forget ↔ v.isList = w.isList := by
  rw [Operand.forget, Operand.forget, Operand.value.injEq, Value.forget_eq_iff]

theorem Predicate.forget_negation_iff (v w : Value) :
    (Predicate.negation (.value v)).forget = (Predicate.negation (.value w)).forget ↔
      v.isList = w.isList := by
  rw [← Value.comparison_eq_iff, Predicate.negation, Predicate.negation, Operand.toPredicate,
    Operand.toPredicate, Predicate.forget, Predicate.forget, Predicate.forget, Predicate.forget,
    Predicate.not.injEq, Predicate.template.injEq, and_iff_left rfl]

theorem Filter.forget_key_iff (v w : Value) :
    (Filter.key v).forget = (Filter.key w).forget ↔ v.isList = w.isList := by
  rw [Filter.forget, Filter.forget, Filter.key.injEq, Value.forget_eq_iff]

def Value.shape : Value → Option Nat
  | list items => some items.length
  | _ => none

theorem Value.length_flat (v : Value) : v.flat.length = v.shape.getD 1 := by
  cases v <;> rfl

theorem Value.placeholder_eq (v : Value) (bound : Nat) :
    v.placeholder bound =
      match v.shape with
      | none => parameter (bound + 1)
      | some 0 => emptyList
      | some n =>
        "(" ++ ", ".intercalate ((List.range n).map (parameter <| bound + · + 1)) ++ ")" := by
  cases v with
  | list items => cases items <;> rfl
  | _ => rfl

theorem fillHoles_of_shape {params params' : List Value}
    (h : params.map Value.shape = params'.map Value.shape) (bound : Nat) (ps : List Piece) :
    fillHoles bound ps params = fillHoles bound ps params' := by
  fun_induction fillHoles bound ps params generalizing params' with
  | case1 => rw [fillHoles]
  | case2 bound c rest params ih => rw [fillHoles, ih h]
  | case3 bound rest ih =>
    obtain rfl := List.map_eq_nil_iff.mp h.symm
    rw [fillHoles, ih rfl]
  | case4 bound rest v params ih =>
    cases params' with
    | nil => cases h
    | cons w params' =>
      obtain ⟨hshape, hrest⟩ := List.cons.inj h
      rw [fillHoles, ih hrest, v.placeholder_eq, w.placeholder_eq, v.length_flat, w.length_flat, hshape]

theorem Statement.sql_expand_of_shape {s t : Statement} (hsql : s.sql = t.sql)
    (hparams : s.params.map Value.shape = t.params.map Value.shape) :
    s.expand.map (·.sql) = t.expand.map (·.sql) := by
  have hlength : s.params.length = t.params.length := by
    rw [← List.length_map Value.shape, hparams, List.length_map]
  simp only [Statement.expand, hsql, hlength, fillHoles_of_shape hparams]
  split
  · rfl
  · split <;> rfl

namespace Query

variable {α : Type}

/-- Two runs of the same calls that differ in values only have the same texts and errors, and for
parameters of the same shapes their statements are bound alike. Of a value that is an operand, the
operand of a negation or a key, nothing but whether it is a list must agree. -/
theorem sql_of_forget_eq (q : Query α) {es es' : List Edit} {data data' : Data}
    (hes : es.map Edit.forget = es'.map Edit.forget) (hdata : data.map (·.1) = data'.map (·.1))
    (kind : StatementKind) :
    ((q.edits es).statement data kind).map (·.sql) =
      ((q.edits es').statement data' kind).map (·.sql) ∧
    (∀ s t, (q.edits es).statement data kind = .ok s → (q.edits es').statement data' kind = .ok t →
      s.params.map Value.shape = t.params.map Value.shape →
      s.expand.map (·.sql) = t.expand.map (·.sql)) ∧
    ∀ v w : Value,
      ((Operand.value v).forget = (Operand.value w).forget ↔ v.isList = w.isList) ∧
      ((Predicate.negation (.value v)).forget = (Predicate.negation (.value w)).forget ↔
        v.isList = w.isList) ∧
      ((Filter.key v).forget = (Filter.key w).forget ↔ v.isList = w.isList) := by
  have hforget : (q.edits es).forget = (q.edits es').forget := by
    rw [forget_edits, forget_edits, hes]
  have hstatement : ((q.edits es).statement data kind).map (·.sql) =
      ((q.edits es').statement data' kind).map (·.sql) := by
    rw [← (q.edits es).sql_statement_forget hdata.symm, hforget, sql_statement_forget _ rfl]
  refine ⟨hstatement, fun s t hs ht hshape => ?_, fun v w => ?_⟩
  · rw [hs, ht] at hstatement
    exact Statement.sql_expand_of_shape (Except.ok.inj hstatement) hshape
  · exact ⟨Operand.forget_value_iff v w, Predicate.forget_negation_iff v w, Filter.forget_key_iff v w⟩

theorem sql_of_forget_eq_update :
    let es : List Edit :=
      [.table ⟨"users", none⟩, .filter .and (.key (.list [.null])),
        .exclude .and (.condition (.pairs [.column "a" (.value .null)])),
        .filter .or (.condition (.raw "b = ?" [.null]))]
    let es' : List Edit :=
      [.table ⟨"users", none⟩, .filter .and (.key (.list [.text "1) OR (1 = 1"])),
        .exclude .and (.condition (.pairs [.column "a" (.value (.text "?"))])),
        .filter .or (.condition (.raw "b = ?" [.text "' --"]))]
    ∃ s t, ((start "id").edits es).statement [("c", .null)] .update = .ok s ∧
      ((start "id").edits es').statement [("c", .text "$1")] .update = .ok t ∧
      s.sql = "UPDATE users SET c = ? WHERE users.id IN ? AND NOT (users.a = ?) OR b = ?" ∧ s.sql = t.sql ∧
      s.expand.map (·.sql) = t.expand.map (·.sql) := by
  intro es es'
  have hes : es.map Edit.forget = es'.map Edit.forget := rfl
  have hdata : [("c", Value.null)].map (·.1) = [("c", Value.text "$1")].map (·.1) := rfl
  obtain ⟨s, hs, hsql, hshape⟩ : ∃ s,
      ((start "id").edits es).statement [("c", .null)] .update = .ok s ∧
      s.sql = "UPDATE users SET c = ? WHERE users.id IN ? AND NOT (users.a = ?) OR b = ?" ∧
      s.params.map Value.shape = [none, some 1, none, none] :=
    ⟨_, rfl, by decide +kernel, by decide +kernel⟩
  obtain ⟨t, ht, htshape⟩ : ∃ t,
      ((start "id").edits es').statement [("c", .text "$1")] .update = .ok t ∧
      t.params.map Value.shape = [none, some 1, none, none] :=
    ⟨_, rfl, by decide +kernel⟩
  obtain ⟨hsame, hexpand, -⟩ := sql_of_forget_eq (start "id") hes hdata .update
  rw [hs, ht] at hsame
  exact ⟨s, t, hs, ht, hsql, Except.ok.inj hsame, hexpand s t hs ht (hshape.trans htshape.symm)⟩

end Query

end BoundSql
