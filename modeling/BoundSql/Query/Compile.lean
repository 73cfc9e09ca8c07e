import BoundSql.Placeholder
import BoundSql.Query.Basic

/-! Compilation of queries: clauses with their values, written one after the other. -/

namespace BoundSql

def occursIn (word : List Char) : List Char → Bool
  | [] => word.isEmpty
  | c :: rest => word.isPrefixOf (c :: rest) || occursIn word rest

namespace Join

def head (j : Join) : String :=
  if occursIn "JOIN".toList (Text.upper j.table).toList then j.table else "INNER JOIN " ++ j.table

def onComposite : JoinOn → Composite
  | .columns pairs =>
    .all (.pairs (pairs.map fun (owner, related) => .literal (owner ++ " = " ++ related)))
  | .condition c => c

/-- An ON without text is left out; its values would have no placeholder. -/
def fragment (j : Join) : Fragment :=
  match j.on with
  | none => ⟨j.head, []⟩
  | some on =>
    let f := (onComposite on).compile
    if f.sql.isEmpty then ⟨j.head, f.binds⟩ else ⟨j.head ++ " ON (" ++ f.sql ++ ")", f.binds⟩

end Join

def Statement.ofClauses (clauses : List Fragment) : Statement :=
  ⟨" ".intercalate (clauses.map (·.sql)), clauses.flatMap (·.binds)⟩

inductive StatementKind where
  | select
  | insert
  | update
  | delete
  deriving DecidableEq

def StatementKind.word : StatementKind → String
  | select => "SELECT"
  | insert => "INSERT"
  | update => "UPDATE"
  | delete => "DELETE"

namespace Error

def noTable (kind : StatementKind) : Error :=
  .construction ("cannot compile " ++ kind.word ++ ": no table given, call from() first")

def nothingToInsert (table : String) : Error :=
  .construction ("nothing to insert into '" ++ table ++ "'")

def nothingToUpdate (table : String) : Error :=
  .construction ("nothing to update in '" ++ table ++ "'")

end Error

namespace Query

variable {α : Type}

def commas (items : List String) : String := ", ".intercalate items

def columnList (q : Query α) : String :=
  if q.columns.isEmpty then columnize "*" q.qualifier
  else
    commas <| q.columns.map fun (column, name) =>
      let column := columnize column q.qualifier
      name.elim column (aliased column)

def tableList (q : Query α) : String := commas (q.tables.map TableRef.render)

def writtenTables (q : Query α) : String := commas (q.tables.map TableRef.renderForWrite)

def conditionClause (word : String) (c : Composite) : List Fragment :=
  let f := c.compile
  if f.sql.isEmpty then [] else [⟨word ++ " " ++ f.sql, f.binds⟩]

def joinClauses (q : Query α) : List Fragment := q.joins.map Join.fragment

def whereClauses (q : Query α) : List Fragment := conditionClause "WHERE" q.whereClause

def havingClauses (q : Query α) : List Fragment := conditionClause "HAVING" q.havingClause

def groupClauses (q : Query α) : List Fragment :=
  if q.grouping.isEmpty then []
  else [⟨"GROUP BY " ++ commas (q.grouping.map (columnize · q.qualifier)), []⟩]

def orderClauses (q : Query α) : List Fragment :=
  if q.ordering.isEmpty then []
  else
    [⟨"ORDER BY " ++
        commas (q.ordering.map fun (column, d) => columnize column q.qualifier ++ " " ++ d.sql), []⟩]

def positive (n : Option Nat) : Option Nat := n.filter (0 < ·)

def limited (q : Query α) (s : Statement) : Statement :=
  let limit := positive q.rowLimit
  let offset := positive q.rowOffset
  if limit.isNone && offset.isNone then s else { s with sql := q.dialect.limited s.sql limit offset }

def selectClauses (q : Query α) : List Fragment :=
  ⟨"SELECT " ++ q.columnList, []⟩ :: ⟨"FROM " ++ q.tableList, []⟩ ::
    (q.joinClauses ++ q.whereClauses ++ q.groupClauses ++ q.havingClauses ++ q.orderClauses)

def toSelect (q : Query α) : Except Error Statement :=
  if q.tables.isEmpty then .error (.noTable .select)
  else .ok (q.limited (.ofClauses q.selectClauses))

abbrev Data := List (String × Value)

def insertClause (q : Query α) (data : Data) : Fragment where
  sql :=
    "INSERT INTO " ++ q.writtenTables ++ " (" ++ ",".intercalate (data.map (·.1)) ++ ") VALUES (" ++
      ",".intercalate (data.map fun _ => "?") ++ ")"
  binds := data.map (·.2)

def toInsert (q : Query α) (data : Data) : Except Error Statement :=
  if q.tables.isEmpty then .error (.noTable .insert)
  else if data.isEmpty then .error (.nothingToInsert q.tableName)
  else .ok (.ofClauses [q.insertClause data])

def setClause (data : Data) : Fragment :=
  ⟨"SET " ++ commas (data.map fun (column, _) => column ++ " = ?"), data.map (·.2)⟩

def updateClauses (q : Query α) (data : Data) : List Fragment :=
  ⟨"UPDATE " ++ q.writtenTables, []⟩ :: setClause data :: q.whereClauses

def toUpdate (q : Query α) (data : Data) : Except Error Statement :=
  if q.tables.isEmpty then .error (.noTable .update)
  else if data.isEmpty then .error (.nothingToUpdate q.tableName)
  else .ok (q.limited (.ofClauses (q.updateClauses data)))

def deleteClauses (q : Query α) : List Fragment :=
  ⟨"DELETE FROM " ++ q.writtenTables, []⟩ :: (q.joinClauses ++ q.whereClauses ++ q.orderClauses)

def toDelete (q : Query α) : Except Error Statement :=
  if q.tables.isEmpty then .error (.noTable .delete)
  else .ok (q.limited (.ofClauses q.deleteClauses))

def toSql (q : Query α) : String :=
  match q.toSelect with
  | .ok s => s.sql
  | .error _ => ""

end Query

end BoundSql
