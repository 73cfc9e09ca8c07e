import BoundSql.Proofs.Leaves
import BoundSql.Proofs.Statements

/-! Statements as lists of fragments: conditions with their values, and glue without. -/

namespace BoundSql

namespace Fragment

def sqlOf (fs : List Fragment) : String := String.join (fs.map (·.sql))

def bindsOf (fs : List Fragment) : List Value := fs.flatMap (·.binds)

def glue (sql : String) : Fragment := ⟨sql, []⟩

def wrapped (before after : String) (fs : List Fragment) : List Fragment :=
  glue before :: (fs ++ [glue after])

def negated (fs : List Fragment) : List Fragment :=
  if (sqlOf fs).isEmpty then fs else wrapped "NOT (" ")" fs

/-- The leaves that are not blank, each but the first behind its joiner. -/
def linked (leaves : List (Joiner × List Fragment)) : List Fragment :=
  match leaves.filter fun l => !Text.blank (sqlOf l.2) with
  | [] => []
  | l :: rest => l.2 ++ rest.flatMap fun r => glue r.1.sql :: r.2

def separated (sep : String) (groups : List (List Fragment)) : List Fragment :=
  [glue sep].intercalate groups

theorem sqlOf_cons (f : Fragment) (fs : List Fragment) : sqlOf (f :: fs) = f.sql ++ sqlOf fs := by
  rw [sqlOf, List.map_cons, String.join_cons, sqlOf]

theorem sqlOf_glue_cons (sql : String) (fs : List Fragment) : sqlOf (glue sql :: fs) = sql ++ sqlOf fs :=
  sqlOf_cons (glue sql) fs

theorem sqlOf_singleton (f : Fragment) : sqlOf [f] = f.sql := by
  rw [sqlOf_cons]
  exact String.append_empty

theorem sqlOf_append (fs gs : List Fragment) : sqlOf (fs ++ gs) = sqlOf fs ++ sqlOf gs := by
  rw [sqlOf, List.map_append, String.join_append, sqlOf, sqlOf]

theorem bindsOf_append (fs gs : List Fragment) : bindsOf (fs ++ gs) = bindsOf fs ++ bindsOf gs :=
  List.flatMap_append

theorem sqlOf_wrapped (before after : String) (fs : List Fragment) :
    sqlOf (wrapped before after fs) = before ++ sqlOf fs ++ after := by
  rw [wrapped, sqlOf_glue_cons, sqlOf_append, sqlOf_singleton, String.append_assoc, glue]

theorem sqlOf_negated (fs : List Fragment) : sqlOf (negated fs) = negate (sqlOf fs) := by
  rw [negated, negate]
  split
  · rfl
  · exact sqlOf_wrapped _ _ fs

theorem sqlOf_linked (leaves : List (Joiner × List Fragment)) :
    sqlOf (linked leaves) = chain (staying (leaves.map fun l => (l.1, sqlOf l.2))) := by
  have hstaying : staying (leaves.map fun l => (l.1, sqlOf l.2)) =
      (leaves.filter fun l => !Text.blank (sqlOf l.2)).map fun l => (l.1, sqlOf l.2) := by
    rw [staying, List.filter_map]
    rfl
  have hrest (rest : List (Joiner × List Fragment)) :
      sqlOf (rest.flatMap fun r => glue r.1.sql :: r.2) = joined (rest.map fun l => (l.1, sqlOf l.2)) := by
    induction rest with
    | nil => rfl
    | cons r rest ih =>
      rw [List.flatMap_cons, sqlOf_append, sqlOf_glue_cons, List.map_cons, joined_cons, ih]
  rw [hstaying, linked]
  cases leaves.filter fun l => !Text.blank (sqlOf l.2) with
  | nil => rfl
  | cons l rest => rw [List.map_cons, chain, ← hrest, sqlOf_append]

theorem sqlOf_separated (sep : String) (groups : List (List Fragment)) :
    sqlOf (separated sep groups) = sep.intercalate (groups.map sqlOf) := by
  rw [separated]
  induction groups with
  | nil => rfl
  | cons fs rest ih =>
    cases rest with
    | nil => rw [List.intercalate_singleton, List.map_singleton, String.intercalate_singleton]
    | cons gs rest =>
      rw [List.intercalate_cons_cons, List.map_cons, List.map_cons, String.intercalate_cons_cons,
        sqlOf_append, sqlOf_append, ih, sqlOf_singleton, List.map_cons]
      rfl

end Fragment

open Fragment

mutual

def Predicate.fragments : Predicate → String → List Fragment
  | .template sql binds, column => [⟨fillTemplate sql column, binds⟩]
  | .not inner, column => negated (inner.fragments column)
  | .group alias? entries, column => linked (entryFragments (alias?.or (some column)) entries)

def entryFragments (alias? : Option String) : List Entry → List (Joiner × List Fragment)
  | [] => []
  | e :: rest => e.fragments alias? ++ entryFragments alias? rest

def Entry.fragments (alias? : Option String) : Entry → List (Joiner × List Fragment)
  | .mk joiner condition => (condition.fragments alias?).map (joiner, ·)

def Condition.fragments (alias? : Option String) : Condition → List (List Fragment)
  | .raw sql binds => [[⟨sql, binds⟩]]
  | .predicate p => [p.fragments (alias?.getD "")]
  | .pairs ps => pairFragments alias? ps

def pairFragments (alias? : Option String) : List Pair → List (List Fragment)
  | [] => []
  | p :: rest => p.fragments alias? :: pairFragments alias? rest

def Pair.fragments (alias? : Option String) : Pair → List Fragment
  | .literal sql => [glue sql]
  | .column name operand => operand.fragments (columnize name alias?)

def Operand.fragments : Operand → String → List Fragment
  | .value v, column => [⟨fillTemplate v.comparison column, [v]⟩]
  | .predicate p, column => p.fragments column

end

def Source.fragments (alias? : Option String) : Source → List Fragment
  | .fixed sql binds => [⟨sql, binds⟩]
  | .unnamed p => p.fragments (alias?.getD "")
  | .column name p => p.fragments (columnize name alias?)

theorem Operand.fragments_toPredicate (o : Operand) (column : String) :
    o.toPredicate.fragments column = o.fragments column := by
  cases o <;> rfl

theorem pairFragments_eq_map (alias? : Option String) (ps : List Pair) :
    pairFragments alias? ps = ps.map fun p => p.source.fragments alias? := by
  induction ps with
  | nil => rfl
  | cons p rest ih =>
    rw [pairFragments, ih, List.map_cons]
    cases p with
    | literal sql => rfl
    | column name operand =>
      rw [Pair.fragments, Pair.source, Source.fragments, Operand.fragments_toPredicate]

theorem entryFragments_eq_map (alias? : Option String) (entries : List Entry) :
    entryFragments alias? entries =
      (entries.flatMap Entry.sources).map fun s => (s.1, s.2.fragments alias?) := by
  induction entries with
  | nil => rfl
  | cons e rest ih =>
    obtain ⟨joiner, condition⟩ := e
    rw [entryFragments, ih, List.flatMap_cons, List.map_append, Entry.fragments, Entry.sources,
      List.map_map]
    cases condition with
    | pairs ps =>
      rw [Condition.fragments, Condition.sources, pairFragments_eq_map, List.map_map, List.map_map]
      rfl
    | _ => rfl

theorem Source.sqlOf_fragments {s : Source}
    (h : ∀ p ∈ s.predicate?, ∀ column, sqlOf (p.fragments column) = p.render column)
    (alias? : Option String) : sqlOf (s.fragments alias?) = s.text alias? := by
  cases s with
  | fixed sql binds => exact sqlOf_singleton ⟨sql, binds⟩
  | unnamed p => exact h p rfl _
  | column name p => exact h p rfl _

theorem sqlOf_linked_entries {alias? : Option String} {entries : List Entry}
    (h : ∀ s ∈ entries.flatMap Entry.sources, ∀ p ∈ s.2.predicate?, ∀ column,
      sqlOf (p.fragments column) = p.render column) :
    sqlOf (linked (entryFragments alias? entries)) = joinLeaves (entryTexts alias? entries) := by
  rw [sqlOf_linked, joinLeaves_eq_chain, entryTexts_eq_map, entryFragments_eq_map, List.map_map]
  refine congrArg (chain <| staying ·) (List.map_congr_left fun s hs => ?_)
  exact congrArg (s.1, ·) (Source.sqlOf_fragments (h s hs) alias?)

theorem Predicate.sqlOf_fragments (p : Predicate) (column : String) :
    sqlOf (p.fragments column) = p.render column := by
  induction p generalizing column with
  | template sql binds => exact sqlOf_singleton _
  | not inner ih => rw [Predicate.fragments, sqlOf_negated, ih, Predicate.render]
  | group alias? entries ih => rw [Predicate.fragments, sqlOf_linked_entries ih, Predicate.render]

def Composite.fragments (c : Composite) : List Fragment := linked (entryFragments c.alias? c.entries)

theorem Composite.sqlOf_fragments (c : Composite) : sqlOf c.fragments = c.compile.sql :=
  sqlOf_linked_entries fun _ _ p _ => p.sqlOf_fragments

def Join.fragments (j : Join) : List Fragment :=
  match j.on with
  | none => [glue j.head]
  | some on =>
    let fs := (onComposite on).fragments
    glue j.head :: if (sqlOf fs).isEmpty then fs else wrapped " ON (" ")" fs

theorem Join.sqlOf_fragments (j : Join) : sqlOf j.fragments = j.fragment.sql := by
  rw [Join.fragments, Join.fragment]
  cases j.on with
  | none => exact sqlOf_singleton _
  | some on =>
    dsimp only
    rw [sqlOf_glue_cons, Composite.sqlOf_fragments]
    by_cases hempty : (onComposite on).compile.sql.isEmpty = true
    · rw [if_pos hempty, if_pos hempty, Composite.sqlOf_fragments, String.isEmpty_iff.mp hempty,
        String.append_empty]
    · rw [if_neg hempty, if_neg hempty, sqlOf_wrapped, Composite.sqlOf_fragments, ← String.append_assoc,
        ← String.append_assoc]

namespace Query

variable {α : Type}

def conditionFragments (word : String) (c : Composite) : List (List Fragment) :=
  if (sqlOf c.fragments).isEmpty then [] else [glue (word ++ " ") :: c.fragments]

def insertFragments (q : Query α) (data : Data) : List Fragment :=
  wrapped
    ("INSERT INTO " ++ q.writtenTables ++ " (" ++ ",".intercalate (data.map (·.1)) ++ ") VALUES (") ")"
    (separated "," (data.map fun d => [⟨"?", [d.2]⟩]))

def setFragments (data : Data) : List Fragment :=
  glue "SET " :: separated ", " (data.map fun d => [⟨d.1 ++ " = ?", [d.2]⟩])

def clauseFragments (q : Query α) (data : Data) : StatementKind → List (List Fragment)
  | .select =>
    [glue ("SELECT " ++ q.columnList)] :: [glue ("FROM " ++ q.tableList)] ::
      (q.joins.map Join.fragments ++ conditionFragments "WHERE" q.whereClause ++
        q.groupClauses.map ([·]) ++ conditionFragments "HAVING" q.havingClause ++
        q.orderClauses.map ([·]))
  | .insert => [q.insertFragments data]
  | .update =>
    [glue ("UPDATE " ++ q.writtenTables)] :: setFragments data :: conditionFragments "WHERE" q.whereClause
  | .delete =>
    [glue ("DELETE FROM " ++ q.writtenTables)] ::
      (q.joins.map Join.fragments ++ conditionFragments "WHERE" q.whereClause ++
        q.orderClauses.map ([·]))

def limitText (q : Query α) : StatementKind → String
  | .insert => ""
  | _ => (q.limited (.raw "")).sql

def fragments (q : Query α) (data : Data) (kind : StatementKind) : List Fragment :=
  separated " " (q.clauseFragments data kind) ++ [glue (q.limitText kind)]

theorem finish_eq (q : Query α) (s : Statement) (kind : StatementKind) :
    q.finish s kind = ⟨s.sql ++ q.limitText kind, s.params⟩ := by
  have hlimited : q.limited s = ⟨s.sql ++ (q.limited (.raw "")).sql, s.params⟩ := by
    rw [limited, limited]
    split
    · exact congrArg (Statement.mk · s.params) String.append_empty.symm
    · cases q.dialect <;> simp only [Dialect.limited, Statement.raw, String.append_assoc, String.empty_append]
  cases kind with
  | insert => exact congrArg (Statement.mk · s.params) String.append_empty.symm
  | _ => exact hlimited

theorem sqlOf_conditionFragments (word : String) (c : Composite) :
    (conditionFragments word c).map sqlOf = (conditionClause word c).map (·.sql) := by
  rw [conditionFragments, conditionClause, c.sqlOf_fragments]
  split
  · rfl
  · rw [List.map_singleton, List.map_singleton, sqlOf_glue_cons, c.sqlOf_fragments]

theorem sqlOf_assignments (data : Data) (written : String → String) :
    (data.map fun d => [(⟨written d.1, [d.2]⟩ : Fragment)]).map sqlOf = data.map fun d => written d.1 := by
  rw [List.map_map]
  exact List.map_congr_left fun d _ => sqlOf_singleton _

theorem sqlOf_insertFragments (q : Query α) (data : Data) :
    sqlOf (q.insertFragments data) = (q.insertClause data).sql := by
  rw [insertFragments, sqlOf_wrapped, sqlOf_separated, sqlOf_assignments data fun _ => "?",
    sql_insertClause]

theorem sqlOf_setFragments (data : Data) : sqlOf (setFragments data) = (setClause data).sql := by
  rw [setFragments, sqlOf_glue_cons, sqlOf_separated, sqlOf_assignments data (· ++ " = ?"),
    sql_setClause, commas]

theorem sqlOf_map_singleton (clauses : List Fragment) :
    (clauses.map ([·])).map sqlOf = clauses.map (·.sql) := by
  rw [List.map_map]
  exact List.map_congr_left fun f _ => sqlOf_singleton f

theorem sqlOf_clauseFragments (q : Query α) (data : Data) (kind : StatementKind) :
    (q.clauseFragments data kind).map sqlOf = (q.clauses data kind).map (·.sql) := by
  have hjoins : (q.joins.map Join.fragments).map sqlOf = q.joinClauses.map (·.sql) := by
    rw [joinClauses, List.map_map, List.map_map]
    exact List.map_congr_left fun j _ => j.sqlOf_fragments
  cases kind with
  | select =>
    simp only [clauseFragments, clauses, selectClauses, List.map_cons, List.map_append, hjoins,
      sqlOf_conditionFragments, sqlOf_map_singleton, sqlOf_singleton]
    rfl
  | insert => exact congrArg ([·]) (q.sqlOf_insertFragments data)
  | update =>
    simp only [clauseFragments, clauses, updateClauses, List.map_cons, sqlOf_conditionFragments,
      sqlOf_setFragments, sqlOf_singleton]
    rfl
  | delete =>
    simp only [clauseFragments, clauses, deleteClauses, List.map_cons, List.map_append, hjoins,
      sqlOf_conditionFragments, sqlOf_map_singleton, sqlOf_singleton]
    rfl

theorem sqlOf_fragments {q : Query α} {data : Data} {kind : StatementKind} {s : Statement}
    (h : q.statement data kind = .ok s) : sqlOf (q.fragments data kind) = s.sql := by
  rw [eq_of_statement_eq_ok h, finish_eq, fragments, sqlOf_append, sqlOf_separated, sqlOf_clauseFragments,
    sqlOf_singleton]
  rfl

end Query

end BoundSql
