import BoundSql.Value.Basic

/-! Conditions as trees of templates, negations and groups; `%s` stands for a column, `?` for a value. -/

namespace BoundSql

inductive Joiner where
  | and
  | or
  deriving DecidableEq

def Joiner.sql : Joiner → String
  | .and => " AND "
  | .or => " OR "

mutual

inductive Predicate where
  /-- The column is put for each `%s`. -/
  | template (sql : String) (binds : List Value)
  | not (inner : Predicate)
  /-- A nested composite. The column it is rendered for is its alias when it has none. -/
  | group (alias? : Option String) (entries : List Entry)

inductive Entry where
  | mk (joiner : Joiner) (condition : Condition)

inductive Condition where
  | raw (sql : String) (binds : List Value)
  | predicate (p : Predicate)
  | pairs (pairs : List Pair)

inductive Pair where
  | literal (sql : String)
  | column (name : String) (operand : Operand)

inductive Operand where
  | value (v : Value)
  | predicate (p : Predicate)

end

instance : Inhabited Predicate := ⟨.template "" []⟩

structure Composite where
  entries : List Entry
  alias? : Option String

namespace Composite

def empty : Composite := ⟨[], none⟩

def push (c : Composite) (joiner : Joiner) (condition : Condition) : Composite :=
  { c with entries := c.entries ++ [.mk joiner condition] }

def withAlias (c : Composite) (name : String) : Composite := { c with alias? := some name }

def toPredicate (c : Composite) : Predicate := .group c.alias? c.entries

def all (condition : Condition) : Composite := empty.push .and condition

def any (condition : Condition) : Composite := empty.push .or condition

end Composite

namespace Predicate

def eq (v : Value) : Predicate := .template "%s = ?" [v]
def notEq (v : Value) : Predicate := .template "%s <> ?" [v]
def inList (v : Value) : Predicate := .template "%s IN ?" [v]
def gt (v : Value) : Predicate := .template "%s > ?" [v]
def gte (v : Value) : Predicate := .template "%s >= ?" [v]
def lt (v : Value) : Predicate := .template "%s < ?" [v]
def lte (v : Value) : Predicate := .template "%s <= ?" [v]
def after (v : Value) : Predicate := gt v
def before (v : Value) : Predicate := lt v
def like (v : Value) : Predicate := .template "%s LIKE ?" [v]
def between (low high : Value) : Predicate := .template "%s BETWEEN ? AND ?" [low, high]
def isNull : Predicate := .template "%s IS NULL" []
def blank : Predicate := .template "%s IS NULL OR NOT %s" []

end Predicate

def Value.comparison (v : Value) : String := if v.isList then "%s IN ?" else "%s = ?"

def Operand.toPredicate : Operand → Predicate
  | .value v => .template v.comparison [v]
  | .predicate p => p

def Predicate.negation (operand : Operand) : Predicate := .not operand.toPredicate

mutual

def Predicate.eqv : Predicate → Predicate → Bool
  | .template s a, .template t b => s == t && a == b
  | .not p, .not q => p.eqv q
  | .group x es, .group y fs => x == y && entriesEqv es fs
  | _, _ => false

def entriesEqv : List Entry → List Entry → Bool
  | [], [] => true
  | e :: es, f :: fs => e.eqv f && entriesEqv es fs
  | _, _ => false

def Entry.eqv : Entry → Entry → Bool
  | .mk j c, .mk k d => j == k && c.eqv d

def Condition.eqv : Condition → Condition → Bool
  | .raw s a, .raw t b => s == t && a == b
  | .predicate p, .predicate q => p.eqv q
  | .pairs ps, .pairs qs => pairsEqv ps qs
  | _, _ => false

def pairsEqv : List Pair → List Pair → Bool
  | [], [] => true
  | p :: ps, q :: qs => p.eqv q && pairsEqv ps qs
  | _, _ => false

def Pair.eqv : Pair → Pair → Bool
  | .literal s, .literal t => s == t
  | .column n o, .column m p => n == m && o.eqv p
  | _, _ => false

def Operand.eqv : Operand → Operand → Bool
  | .value v, .value w => v == w
  | .predicate p, .predicate q => p.eqv q
  | _, _ => false

end

instance : BEq Predicate := ⟨Predicate.eqv⟩

instance : BEq Composite := ⟨fun c d => entriesEqv c.entries d.entries && c.alias? == d.alias?⟩

end BoundSql
