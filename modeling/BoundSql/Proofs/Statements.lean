import BoundSql.Query.Compile

/-! The statements of a query under one name, and the clauses each of them has. -/

namespace BoundSql

def StatementKind.needsData : StatementKind → Bool
  | insert | update => true
  | select | delete => false

namespace Query

variable {α : Type}

def start (primaryKey : String) : Query Record := { empty with primaryKey := primaryKey }

theorem edits_append (q : Query α) (es es' : List Edit) : q.edits (es ++ es') = (q.edits es).edits es' :=
  List.foldl_append

def statement (q : Query α) (data : Data) : StatementKind → Except Error Statement
  | .select => q.toSelect
  | .insert => q.toInsert data
  | .update => q.toUpdate data
  | .delete => q.toDelete

def clauses (q : Query α) (data : Data) : StatementKind → List Fragment
  | .select => q.selectClauses
  | .insert => [q.insertClause data]
  | .update => q.updateClauses data
  | .delete => q.deleteClauses

def finish (q : Query α) (s : Statement) : StatementKind → Statement
  | .insert => s
  | _ => q.limited s

def noData (q : Query α) : StatementKind → Error
  | .insert => .nothingToInsert q.tableName
  | _ => .nothingToUpdate q.tableName

theorem sql_insertClause (q : Query α) (data : Data) :
    (q.insertClause data).sql =
      "INSERT INTO " ++ q.writtenTables ++ " (" ++ ",".intercalate (data.map (·.1)) ++ ") VALUES (" ++
        ",".intercalate (data.map fun _ => "?") ++ ")" := rfl

theorem sql_setClause (data : Data) :
    (setClause data).sql = "SET " ++ commas (data.map fun d => d.1 ++ " = ?") := rfl

theorem statement_eq (q : Query α) (data : Data) (kind : StatementKind) :
    q.statement data kind =
      if q.tables.isEmpty then .error (.noTable kind)
      else if kind.needsData && data.isEmpty then .error (q.noData kind)
      else .ok (q.finish (.ofClauses (q.clauses data kind)) kind) := by
  cases kind <;> rfl

theorem eq_of_statement_eq_ok {q : Query α} {data : Data} {kind : StatementKind} {s : Statement}
    (h : q.statement data kind = .ok s) : s = q.finish (.ofClauses (q.clauses data kind)) kind := by
  rw [statement_eq] at h
  split at h
  · cases h
  · split at h
    · cases h
    · exact (Except.ok.inj h).symm

theorem sql_statement_congr {β : Type} {q : Query α} {r : Query β} {data data' : Data}
    {kind : StatementKind} (htables : q.tables = r.tables) (hempty : data.isEmpty = data'.isEmpty)
    (hclauses : (q.clauses data kind).map (·.sql) = (r.clauses data' kind).map (·.sql))
    (hfinish : ∀ s t, s.sql = t.sql → (q.finish s kind).sql = (r.finish t kind).sql) :
    (q.statement data kind).map (·.sql) = (r.statement data' kind).map (·.sql) := by
  have hsql : (Statement.ofClauses (q.clauses data kind)).sql =
      (Statement.ofClauses (r.clauses data' kind)).sql := by
    rw [Statement.ofClauses, Statement.ofClauses, hclauses]
  have hname : q.tableName = r.tableName := by rw [tableName, tableName, htables]
  have hnoData : q.noData kind = r.noData kind := by
    cases kind <;> simp only [noData, hname]
  rw [statement_eq, statement_eq, htables, hempty, hnoData]
  split
  · rfl
  · split
    · rfl
    · exact congrArg Except.ok (hfinish _ _ hsql)

end Query

end BoundSql
