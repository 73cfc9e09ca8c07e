import BoundSql.Proofs.Emission
import BoundSql.Proofs.Flattening

/-! Names written out behind the qualifier give the same text without any qualifier. -/

namespace BoundSql

/-- A name behind a qualifier. A point or a parenthesis in a name leaves it as it stands. -/
def dotted (a name : String) : String :=
  if name.toList.contains '.' || name.toList.contains '(' then name else a ++ "." ++ name

theorem columnize_of_ne_empty {a : String} (ha : a ≠ "") (name : String) :
    columnize name (some a) = dotted a name := by
  have hempty : a.isEmpty = false := by
    rw [Bool.eq_false_iff]
    intro h
    exact ha (String.isEmpty_iff.mp h)
  simp only [columnize, dotted, hempty, Bool.false_or]

def Predicate.isGroup : Predicate → Bool
  | .template _ _ => false
  | .not inner => inner.isGroup
  | .group _ _ => true

def Pair.spelled (a : String) : Pair → Pair
  | .literal sql => .literal sql
  | .column name operand => .column (dotted a name) operand

mutual

def Predicate.spelled (a : String) : Predicate → Predicate
  | .template sql binds => .template sql binds
  | .not inner => .not (inner.spelled a)
  | .group none entries => .group none (entriesSpelled a entries)
  | .group (some own) entries => .group (some own) entries

def entriesSpelled (a : String) : List Entry → List Entry
  | [] => []
  | e :: rest => e.spelled a :: entriesSpelled a rest

def Entry.spelled (a : String) : Entry → Entry
  | .mk joiner condition => .mk joiner (condition.spelled a)

def Condition.spelled (a : String) : Condition → Condition
  | .raw sql binds => .raw sql binds
  | .predicate p =>
    if p.isGroup then .predicate (p.spelled a) else .pairs [.column a (.predicate p)]
  | .pairs ps => .pairs (ps.map (Pair.spelled a))

end

theorem pairTexts_spelled {a : String} (ha : a ≠ "") (ps : List Pair) :
    pairTexts none (ps.map (Pair.spelled a)) = pairTexts (some a) ps := by
  induction ps with
  | nil => rfl
  | cons p rest ih =>
    rw [List.map_cons, pairTexts, pairTexts, ih]
    cases p with
    | literal sql => rfl
    | column name operand =>
      rw [Pair.spelled, Pair.text, Pair.text, columnize_of_ne_empty ha]
      rfl

mutual

theorem Predicate.render_spelled {a : String} (ha : a ≠ "") :
    (p : Predicate) → p.isGroup = true → (p.spelled a).render "" = p.render a
  | .template _ _, h => absurd h Bool.false_ne_true
  | .not inner, h => congrArg negate (inner.render_spelled ha h)
  | .group (some _) _, _ => rfl
  | .group none entries, _ => by
    have htexts := entryTexts_spelled ha entries
    have hempty := entryTexts_getD none (entriesSpelled a entries)
    rw [Predicate.spelled, Predicate.render, Predicate.render, Option.none_or, Option.none_or, ← htexts]
    exact congrArg joinLeaves hempty

theorem entryTexts_spelled {a : String} (ha : a ≠ "") :
    (es : List Entry) → entryTexts none (entriesSpelled a es) = entryTexts (some a) es
  | [] => rfl
  | .mk joiner condition :: rest => by
    rw [entriesSpelled, entryTexts, entryTexts, entryTexts_spelled ha rest, Entry.spelled, Entry.texts,
      Entry.texts, condition.texts_spelled ha]

theorem Condition.texts_spelled {a : String} (ha : a ≠ "") :
    (c : Condition) → (c.spelled a).texts none = c.texts (some a)
  | .raw _ _ => rfl
  | .pairs ps => pairTexts_spelled ha ps
  | .predicate p => by
    rw [Condition.spelled]
    split
    · next h => exact congrArg ([·]) (p.render_spelled ha h)
    · rfl

end

def Composite.spelled (c : Composite) (a : String) : Composite := ⟨entriesSpelled a c.entries, none⟩

theorem Composite.sql_spelled {c : Composite} {a : String} (hc : c.alias? = some a) (ha : a ≠ "") :
    (c.spelled a).compile.sql = c.compile.sql := by
  rw [Composite.compile, Composite.compile, hc]
  exact congrArg joinLeaves (entryTexts_spelled ha c.entries)

namespace Query

variable {α : Type}

/-- The query with its names written out behind `a`, and nothing to qualify them with. -/
def spelled (q : Query α) (a : String) : Query α :=
  { q with
    qualifier := none
    columns :=
      if q.columns.isEmpty then [(dotted a "*", none)] else q.columns.map fun c => (dotted a c.1, c.2)
    whereClause := q.whereClause.spelled a
    havingClause := q.havingClause.spelled a
    grouping := q.grouping.map (dotted a)
    ordering := q.ordering.map fun o => (dotted a o.1, o.2) }

structure Uniform (q : Query α) : Prop where
  first : q.qualifier = q.tables.head?.map TableRef.qualifier
  whereAlias : q.whereClause.alias? = q.qualifier
  havingAlias : q.havingClause.alias? = q.qualifier

section

variable {q : Query α} {a : String}

theorem columnList_spelled (hq : q.qualifier = some a) (ha : a ≠ "") :
    (q.spelled a).columnList = q.columnList := by
  unfold columnList
  rw [hq]
  by_cases hempty : q.columns.isEmpty = true
  · simp only [spelled, hempty, if_true, List.isEmpty_cons, Bool.false_eq_true, if_false,
      columnize_of_ne_empty ha]
    exact String.intercalate_singleton
  · have hcolumns : (q.columns.map fun c => (dotted a c.1, c.2)).isEmpty = false := by
      rw [List.isEmpty_map]
      exact Bool.eq_false_iff.mpr hempty
    simp only [spelled, hempty, Bool.false_eq_true, if_false, hcolumns, List.map_map,
      columnize_of_ne_empty ha]
    rfl

theorem groupClauses_spelled (hq : q.qualifier = some a) (ha : a ≠ "") :
    (q.spelled a).groupClauses = q.groupClauses := by
  simp only [groupClauses, spelled, hq, List.isEmpty_map, List.map_map, columnize_of_ne_empty ha]
  rfl

theorem orderClauses_spelled (hq : q.qualifier = some a) (ha : a ≠ "") :
    (q.spelled a).orderClauses = q.orderClauses := by
  simp only [orderClauses, spelled, hq, List.isEmpty_map, List.map_map, columnize_of_ne_empty ha]
  rfl

end

theorem sql_conditionClause_congr (word : String) {c d : Composite} (h : c.compile.sql = d.compile.sql) :
    (conditionClause word c).map (·.sql) = (conditionClause word d).map (·.sql) := by
  simp only [conditionClause, h]
  split <;> rfl

theorem Uniform.sql_clauses_spelled {q : Query α} (h : q.Uniform) {a : String}
    (hq : q.qualifier = some a) (ha : a ≠ "") (data : Data) (kind : StatementKind) :
    ((q.spelled a).clauses data kind).map (·.sql) = (q.clauses data kind).map (·.sql) := by
  have hwhere : (q.spelled a).whereClauses.map (·.sql) = q.whereClauses.map (·.sql) :=
    sql_conditionClause_congr "WHERE" (Composite.sql_spelled (h.whereAlias.trans hq) ha)
  have hhaving : (q.spelled a).havingClauses.map (·.sql) = q.havingClauses.map (·.sql) :=
    sql_conditionClause_congr "HAVING" (Composite.sql_spelled (h.havingAlias.trans hq) ha)
  cases kind with
  | select =>
    simp only [clauses, selectClauses, List.map_cons, List.map_append, hwhere, hhaving,
      columnList_spelled hq ha, groupClauses_spelled hq ha, orderClauses_spelled hq ha]
    rfl
  | insert => rfl
  | update =>
    simp only [clauses, updateClauses, List.map_cons, hwhere]
    rfl
  | delete =>
    simp only [clauses, deleteClauses, List.map_cons, List.map_append, hwhere,
      orderClauses_spelled hq ha]
    rfl

theorem Uniform.sql_statement_spelled {q : Query α} (h : q.Uniform) {a : String}
    (hq : q.qualifier = some a) (ha : a ≠ "") (data : Data) (kind : StatementKind) :
    ((q.spelled a).statement data kind).map (·.sql) = (q.statement data kind).map (·.sql) := by
  refine sql_statement_congr rfl rfl (h.sql_clauses_spelled hq ha data kind) fun s t hst => ?_
  have hlimit : (q.spelled a).limitText kind = q.limitText kind := rfl
  rw [finish_eq, finish_eq, hst, hlimit]

end Query

end BoundSql
