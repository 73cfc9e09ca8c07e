import BoundSql.Condition.Basic
import BoundSql.Name
import BoundSql.Text.Blank

/-! SQL text and bound values as two readings of one tree; blank leaves are left out of both. -/

namespace BoundSql

def substitute (column : List Char) : List Char → List Char
  | [] => []
  | '%' :: 's' :: rest => column ++ substitute column rest
  | c :: rest => c :: substitute column rest

def fillTemplate (sql column : String) : String :=
  String.ofList (substitute column.toList sql.toList)

def negate (sql : String) : String := if sql.isEmpty then sql else "NOT (" ++ sql ++ ")"

def attach (sql : String) (leaf : Joiner × String) : String :=
  if Text.blank leaf.2 then sql
  else if sql.isEmpty then leaf.2
  else sql ++ leaf.1.sql ++ leaf.2

def joinLeaves (leaves : List (Joiner × String)) : String := leaves.foldl attach ""

mutual

def Predicate.render : Predicate → String → String
  | .template sql _, column => fillTemplate sql column
  | .not inner, column => negate (inner.render column)
  | .group alias? entries, column => joinLeaves (entryTexts (alias?.or (some column)) entries)

def entryTexts (alias? : Option String) : List Entry → List (Joiner × String)
  | [] => []
  | e :: rest => e.texts alias? ++ entryTexts alias? rest

def Entry.texts (alias? : Option String) : Entry → List (Joiner × String)
  | .mk joiner condition => (condition.texts alias?).map (joiner, ·)

def Condition.texts (alias? : Option String) : Condition → List String
  | .raw sql _ => [sql]
  | .predicate p => [p.render (alias?.getD "")]
  | .pairs pairs => pairTexts alias? pairs

def pairTexts (alias? : Option String) : List Pair → List String
  | [] => []
  | p :: rest => p.text alias? :: pairTexts alias? rest

def Pair.text (alias? : Option String) : Pair → String
  | .literal sql => sql
  | .column name operand => operand.render (columnize name alias?)

def Operand.render : Operand → String → String
  | .value v, column => fillTemplate v.comparison column
  | .predicate p, column => p.render column

end

def kept (text : String) (binds : List Value) : List Value := if Text.blank text then [] else binds

mutual

def Predicate.binds : Predicate → List Value
  | .template _ binds => binds
  | .not inner => inner.binds
  | .group alias? entries => entryBinds alias? entries

def entryBinds (alias? : Option String) : List Entry → List Value
  | [] => []
  | e :: rest => e.binds alias? ++ entryBinds alias? rest

def Entry.binds (alias? : Option String) : Entry → List Value
  | .mk _ condition => condition.binds alias?

def Condition.binds (alias? : Option String) : Condition → List Value
  | .raw sql binds => kept sql binds
  | .predicate p => kept (p.render (alias?.getD "")) p.binds
  | .pairs pairs => pairBinds alias? pairs

def pairBinds (alias? : Option String) : List Pair → List Value
  | [] => []
  | p :: rest => p.binds alias? ++ pairBinds alias? rest

def Pair.binds (alias? : Option String) : Pair → List Value
  | .literal _ => []
  | .column name operand => kept (operand.render (columnize name alias?)) operand.binds

def Operand.binds : Operand → List Value
  | .value v => [v]
  | .predicate p => p.binds

end

structure Fragment where
  sql : String
  binds : List Value

namespace Composite

def build (c : Composite) (alias? : Option String) : Fragment :=
  ⟨joinLeaves (entryTexts alias? c.entries), entryBinds alias? c.entries⟩

def compile (c : Composite) : Fragment := c.build c.alias?

/-- The text of a composite, under `fallback` when it has no alias of its own. -/
def textFor (c : Composite) (fallback : Option String) : String := (c.build (c.alias?.or fallback)).sql

end Composite

theorem Operand.render_toPredicate (o : Operand) (column : String) :
    o.toPredicate.render column = o.render column := by
  cases o <;> simp [Operand.toPredicate, Operand.render, Predicate.render]

theorem Operand.binds_toPredicate (o : Operand) : o.toPredicate.binds = o.binds := by
  cases o <;> simp [Operand.toPredicate, Operand.binds, Predicate.binds]

end BoundSql
