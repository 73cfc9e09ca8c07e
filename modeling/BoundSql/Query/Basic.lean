import BoundSql.Condition.Render
import BoundSql.Dialect
import BoundSql.Fetch

/-! Queries: the parts of the clauses of one logical query, the first table as its qualifier. -/

namespace BoundSql

structure TableRef where
  table : String
  alias? : Option String
  deriving DecidableEq

namespace TableRef

def qualifier (t : TableRef) : String := t.alias?.getD t.table

def render (t : TableRef) : String :=
  match t.alias? with
  | some name => aliased t.table name
  | none => t.table

/-- The form for statements that write: an alias equal to the table's own name is dropped. -/
def renderForWrite (t : TableRef) : String :=
  match t.alias? with
  | some name => if name = t.table then t.table else aliased t.table name
  | none => t.table

def text (t : TableRef) : String :=
  Text.structureText "TableRef"
    [("table", Text.quoted t.table), ("alias", Text.optional Text.quoted t.alias?)]

end TableRef

inductive Direction where
  | asc
  | desc
  deriving DecidableEq

namespace Direction

def sql : Direction → String
  | asc => "ASC"
  | desc => "DESC"

def unknown (name : String) : Error := .construction ("unknown sort direction '" ++ name ++ "'")

def ofName (name : String) : Except Error Direction :=
  match Text.upper (Text.trim name) with
  | "ASC" => .ok asc
  | "DESC" => .ok desc
  | other => .error (unknown other)

end Direction

inductive JoinOn where
  /-- Columns compared with each other, never bound. -/
  | columns (pairs : List (String × String))
  | condition (c : Composite)

structure Join where
  table : String
  on : Option JoinOn

inductive Filter where
  | key (v : Value)
  | condition (c : Condition)

def Filter.resolve (primaryKey : String) : Filter → Condition
  | key v => .pairs [.column primaryKey (.value v)]
  | condition c => c

def defaultPrimaryKey : String := "id"

structure Query (α : Type) where
  primaryKey : String
  tables : List TableRef
  qualifier : Option String
  columns : List (String × Option String)
  joins : List Join
  whereClause : Composite
  havingClause : Composite
  grouping : List String
  ordering : List (String × Direction)
  rowLimit : Option Nat
  rowOffset : Option Nat
  dialect : Dialect
  fetch : Fetch α

namespace Query

def empty : Query Record where
  primaryKey := defaultPrimaryKey
  tables := []
  qualifier := none
  columns := []
  joins := []
  whereClause := .empty
  havingClause := .empty
  grouping := []
  ordering := []
  rowLimit := none
  rowOffset := none
  dialect := .postgres
  fetch := .identity

variable {α : Type}

def addTable (q : Query α) (t : TableRef) : Query α :=
  match q.qualifier with
  | some _ => { q with tables := q.tables ++ [t] }
  | none =>
    { q with
      tables := q.tables ++ [t]
      qualifier := some t.qualifier
      whereClause := q.whereClause.withAlias t.qualifier
      havingClause := q.havingClause.withAlias t.qualifier }

def ofTable (t : TableRef) : Query Record := empty.addTable t

def withPrimaryKey (t : TableRef) (primaryKey : String) : Query Record :=
  addTable { empty with primaryKey := primaryKey } t

def select (q : Query α) (columns : List String) : Query α :=
  { q with columns := q.columns ++ columns.map (·, none) }

def selectAs (q : Query α) (column name : String) : Query α :=
  { q with columns := q.columns ++ [(column, some name)] }

def groupBy (q : Query α) (columns : List String) : Query α :=
  { q with grouping := q.grouping ++ columns }

def orderBy (q : Query α) (column : String) (direction : Direction) : Query α :=
  { q with ordering := q.ordering ++ [(column, direction)] }

def join (q : Query α) (table : String) (on : Option JoinOn) : Query α :=
  { q with joins := q.joins ++ [⟨table, on⟩] }

def filter (q : Query α) (joiner : Joiner) (f : Filter) : Query α :=
  { q with whereClause := q.whereClause.push joiner (f.resolve q.primaryKey) }

/-- Add the negation of a filter to WHERE, always by AND. The joiner is the one inside the negation. -/
def exclude (q : Query α) (joiner : Joiner) (f : Filter) : Query α :=
  let inner := Composite.empty.push joiner (f.resolve q.primaryKey)
  { q with whereClause := q.whereClause.push .and (.predicate (.not inner.toPredicate)) }

def having (q : Query α) (joiner : Joiner) (c : Condition) : Query α :=
  { q with havingClause := q.havingClause.push joiner c }

def limit (q : Query α) (n : Nat) : Query α := { q with rowLimit := some n }

def offset (q : Query α) (n : Nat) : Query α := { q with rowOffset := some n }

def withDialect (q : Query α) (d : Dialect) : Query α := { q with dialect := d }

def fetchAs {β : Type} (q : Query α) (f : Fetch β) : Query β :=
  { primaryKey := q.primaryKey
    tables := q.tables
    qualifier := q.qualifier
    columns := q.columns
    joins := q.joins
    whereClause := q.whereClause
    havingClause := q.havingClause
    grouping := q.grouping
    ordering := q.ordering
    rowLimit := q.rowLimit
    rowOffset := q.rowOffset
    dialect := q.dialect
    fetch := f }

def tableName (q : Query α) : String := (q.tables.head?.map (·.table)).getD ""

def text (q : Query α) : String :=
  Text.structureText "Query"
    [("from", Text.listText (q.tables.map TableRef.text)), ("primary_key", Text.quoted q.primaryKey),
      ("where", Text.quoted q.whereClause.compile.sql),
      ("having", Text.quoted q.havingClause.compile.sql),
      ("limit", Text.optional toString q.rowLimit), ("offset", Text.optional toString q.rowOffset),
      ("dialect", Text.quoted q.dialect.name), ("fetch_as", q.fetch.text)]

end Query

inductive Edit where
  | table (t : TableRef)
  | select (columns : List String)
  | selectAs (column name : String)
  | groupBy (columns : List String)
  | orderBy (column : String) (direction : Direction)
  | join (table : String) (on : Option JoinOn)
  | filter (joiner : Joiner) (f : Filter)
  | exclude (joiner : Joiner) (f : Filter)
  | having (joiner : Joiner) (c : Condition)
  | limit (n : Nat)
  | offset (n : Nat)
  | dialect (d : Dialect)

namespace Query

variable {α : Type}

def edit (q : Query α) : Edit → Query α
  | .table t => q.addTable t
  | .select columns => q.select columns
  | .selectAs column name => q.selectAs column name
  | .groupBy columns => q.groupBy columns
  | .orderBy column direction => q.orderBy column direction
  | .join table on => q.join table on
  | .filter joiner f => q.filter joiner f
  | .exclude joiner f => q.exclude joiner f
  | .having joiner c => q.having joiner c
  | .limit n => q.limit n
  | .offset n => q.offset n
  | .dialect d => q.withDialect d

def edits (q : Query α) (es : List Edit) : Query α := es.foldl edit q

end Query

end BoundSql
