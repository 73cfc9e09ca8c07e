import BoundSql.Connection
import BoundSql.Query.Compile

/-! Running queries: each operation compiles one statement, sends it and reads the answer. -/

namespace BoundSql

inductive Outcome (α : Type) where
  | rows (rows : Rows RowStream α)
  | affected (count : Nat)

namespace Outcome

variable {α : Type}

def affected? : Outcome α → Option Nat
  | rows _ => none
  | affected n => some n

def text : Outcome α → String
  | rows r => "Rows(" ++ r.text ++ ")"
  | affected n => "Affected(" ++ toString n ++ ")"

end Outcome

namespace Error

def affectedForRows : Error := .unexpectedValue "SELECT produced an affected count instead of rows"

end Error

namespace Query

variable {σ α : Type}

def raw (q : Query α) (conn : Connection σ) (s : Statement) : Action σ (Outcome α) := do
  match ← conn.run s with
  | .rows stream => return .rows (.ofSource stream q.fetch)
  | .affected n => return .affected n

def all (q : Query α) (conn : Connection σ) : Action σ (Rows RowStream α) := do
  let s ← Action.ofExcept q.toSelect
  match ← conn.run s with
  | .rows stream => return .ofSource stream q.fetch
  | .affected _ => throw .affectedForRows

def narrowed (q : Query α) (f : Filter) : Query α := q.filter .and f

def describeWhere (q : Query α) : String :=
  let f := q.whereClause.compile
  if f.sql.isEmpty then "no condition"
  else if f.binds.isEmpty then f.sql
  else f.sql ++ " " ++ Text.listText (f.binds.map Value.display)

section

variable [RowType α]

def first (q : Query α) (conn : Connection σ) : Action σ (Option α) := do
  let rows ← (q.limit 1).all conn
  Action.ofExcept rows.next.1

def find (q : Query α) (conn : Connection σ) : Action σ α := do
  match ← q.first conn with
  | some a => return a
  | none => throw (.notFound q.tableName q.describeWhere)

end

def count (q : Query α) (conn : Connection σ) : Action σ Nat := do
  let rows ← q.all conn
  Action.ofExcept rows.rowCount.1

def toReturningInsert (q : Query α) (data : Data) : Except Error Statement :=
  (q.toInsert data).map fun s => { s with sql := s.sql ++ (q.dialect.returning? "*").getD "" }

/-- The key of a new row: its primary key column, else its first column. -/
def generatedKey (q : Query α) (stream : RowStream) : Except Error (Option Value) :=
  let rows : Rows RowStream Record := .ofSource stream .identity
  match rows.hasNext with
  | (.error e, _) => .error e
  | (.ok false, _) => .ok none
  | (.ok true, rows) =>
    .ok (rows.currentRecord?.bind fun r => (r.get? q.primaryKey).or r.firstValue?)

def insert (q : Query α) (conn : Connection σ) (data : Data) : Action σ (Option Value) := do
  let s ← Action.ofExcept (q.toReturningInsert data)
  match ← conn.run s with
  | .rows stream => Action.ofExcept (q.generatedKey stream)
  | .affected _ => return none

def affectedCount : Output → Except Error Nat
  | .affected n => .ok n
  | .rows stream => (Rows.ofSource (α := Record) stream .identity).rowCount.1

def update (q : Query α) (conn : Connection σ) (data : Data) : Action σ Nat := do
  let s ← Action.ofExcept (q.toUpdate data)
  Action.ofExcept (affectedCount (← conn.run s))

def delete (q : Query α) (conn : Connection σ) : Action σ Nat := do
  let s ← Action.ofExcept q.toDelete
  Action.ofExcept (affectedCount (← conn.run s))

end Query

end BoundSql
