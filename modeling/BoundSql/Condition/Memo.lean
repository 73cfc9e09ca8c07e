import BoundSql.Condition.Render

/-! Composites that remember their compiled form until they change; groups have memories of their own. -/

namespace BoundSql

inductive Memory where
  | mk (own : Option Fragment) (nested : List Memory)

namespace Memory

def own : Memory → Option Fragment
  | mk own _ => own

def nested : Memory → List Memory
  | mk _ nested => nested

def empty : Memory := mk none []

def lookup (m : Memory) (build : List Memory → Fragment × List Memory) : Fragment × Memory :=
  match m.own with
  | some f => (f, m)
  | none =>
    let (f, nested) := build m.nested
    (f, mk (some f) nested)

end Memory

namespace Fragment

def empty : Fragment := ⟨"", []⟩

def attach (f : Fragment) (leaf : Joiner × Fragment) : Fragment :=
  ⟨BoundSql.attach f.sql (leaf.1, leaf.2.sql), f.binds ++ kept leaf.2.sql leaf.2.binds⟩

end Fragment

mutual

def Predicate.renderIn : Predicate → String → Memory → String × Memory
  | .template sql _, column, m => (fillTemplate sql column, m)
  | .not inner, column, m =>
    let (s, m) := inner.renderIn column m
    (negate s, m)
  | .group none entries, column, m =>
    let (f, nested) := buildIn (some column) entries .empty m.nested
    (f.sql, .mk m.own nested)
  | .group (some name) entries, _, m =>
    let (f, m) := m.lookup (buildIn (some name) entries .empty)
    (f.sql, m)

def Predicate.bindsIn : Predicate → Memory → List Value × Memory
  | .template _ binds, m => (binds, m)
  | .not inner, m => inner.bindsIn m
  | .group alias? entries, m =>
    let (f, m) := m.lookup (buildIn alias? entries .empty)
    (f.binds, m)

def buildIn (alias? : Option String) : List Entry → Fragment → List Memory → Fragment × List Memory
  | [], f, nested => (f, nested)
  | e :: rest, f, nested =>
    let (leaves, m) := e.leavesIn alias? (nested.headD .empty)
    let (f, nested) := buildIn alias? rest (leaves.foldl Fragment.attach f) nested.tail
    (f, m :: nested)

def Entry.leavesIn (alias? : Option String) : Entry → Memory → List (Joiner × Fragment) × Memory
  | .mk joiner condition, m =>
    let (leaves, m) := condition.leavesIn alias? m
    (leaves.map (joiner, ·), m)

def Condition.leavesIn (alias? : Option String) : Condition → Memory → List Fragment × Memory
  | .raw sql binds, m => ([⟨sql, binds⟩], m)
  | .predicate p, m =>
    let (sql, m) := p.renderIn (alias?.getD "") m
    let (binds, m) := p.bindsIn m
    ([⟨sql, binds⟩], m)
  | .pairs ps, m => (pairCopies alias? ps, m)

def pairCopies (alias? : Option String) : List Pair → List Fragment
  | [] => []
  | p :: rest => p.readCopy alias? :: pairCopies alias? rest

def Pair.readCopy (alias? : Option String) : Pair → Fragment
  | .literal sql => ⟨sql, []⟩
  | .column name operand => operand.readCopy (columnize name alias?)

def Operand.readCopy : Operand → String → Fragment
  | .value v, column => ⟨fillTemplate v.comparison column, [v]⟩
  | .predicate p, column =>
    let (sql, m) := p.renderIn column .empty
    ⟨sql, (p.bindsIn m).1⟩

end

structure Memo where
  composite : Composite
  memory : Memory

inductive Reading where
  | expr
  | binds
  | compile
  | textFor (fallback : Option String)

inductive Reading.Answer where
  | text (s : String)
  | values (vs : List Value)
  | fragment (f : Fragment)

namespace Memo

def fresh (c : Composite) : Memo := ⟨c, .empty⟩

def empty : Memo := fresh .empty

def copy (m : Memo) : Memo := fresh m.composite

def changed (m : Memo) (c : Composite) : Memo := ⟨c, .mk none m.memory.nested⟩

def push (m : Memo) (joiner : Joiner) (condition : Condition) : Memo :=
  m.changed (m.composite.push joiner condition)

def withAlias (m : Memo) (name : String) : Memo := m.changed (m.composite.withAlias name)

def read (m : Memo) : Fragment × Memo :=
  let (f, memory) := m.memory.lookup (buildIn m.composite.alias? m.composite.entries .empty)
  (f, { m with memory := memory })

def textFor (m : Memo) (fallback : Option String) : String × Memo :=
  match m.composite.alias?, fallback with
  | none, some name =>
    let (f, nested) := buildIn (some name) m.composite.entries .empty m.memory.nested
    (f.sql, { m with memory := .mk m.memory.own nested })
  | _, _ =>
    let (f, m) := m.read
    (f.sql, m)

def answer (m : Memo) : Reading → Reading.Answer × Memo
  | .expr => let (f, m) := m.read; (.text f.sql, m)
  | .binds => let (f, m) := m.read; (.values f.binds, m)
  | .compile => let (f, m) := m.read; (.fragment f, m)
  | .textFor fallback => let (s, m) := m.textFor fallback; (.text s, m)

end Memo

structure Bench where
  cells : List Memo
  current : Nat

namespace Bench

/-- Where a nested composite stands: under negations, and behind a column if there is one. -/
structure Place where
  negations : Nat
  column? : Option String

def Place.condition (place : Place) (p : Predicate) : Condition :=
  let p := place.negations.repeat Predicate.not p
  match place.column? with
  | none => .predicate p
  | some name => .pairs [.column name (.predicate p)]

inductive Step where
  | new
  | copy
  | use (index : Nat)
  | push (joiner : Joiner) (condition : Condition)
  | nestAt (place : Place) (joiner : Joiner) (index : Nat)
  | setAlias (name : String)
  | textFor (fallback : Option String)
  | equals (index : Nat)

def Step.nest : Joiner → Nat → Step := nestAt ⟨0, none⟩

inductive Extra where
  | none
  | text (s : String)
  | truth (b : Bool)

def initial : Bench := ⟨[.empty], 0⟩

def cell (b : Bench) (index : Nat) : Memo := b.cells[index]?.getD .empty

def focus (b : Bench) : Memo := b.cell b.current

def putAt (b : Bench) (index : Nat) (m : Memo) : Bench := { b with cells := b.cells.set index m }

def put (b : Bench) (m : Memo) : Bench := b.putAt b.current m

def append (b : Bench) (m : Memo) : Bench := ⟨b.cells ++ [m], b.cells.length⟩

def step (b : Bench) : Step → Extra × Bench
  | .new => (.none, b.append .empty)
  | .copy => (.none, b.append b.focus.copy)
  | .use index => (.none, { b with current := index })
  | .push joiner condition => (.none, b.put (b.focus.push joiner condition))
  | .nestAt place joiner index =>
    (.none, b.put (b.focus.push joiner (place.condition (b.cell index).copy.composite.toPredicate)))
  | .setAlias name => (.none, b.put (b.focus.withAlias name))
  | .textFor fallback =>
    let (s, m) := b.focus.textFor fallback
    (.text s, b.put m)
  | .equals index => (.truth (b.focus.composite == (b.cell index).composite), b)

def readAt (b : Bench) (index : Nat) (r : Reading) : Reading.Answer × Bench :=
  let (a, m) := (b.cell index).answer r
  (a, b.putAt index m)

def look (b : Bench) : Fragment × Bench :=
  let (f, m) := b.focus.read
  (f, b.put m)

end Bench

end BoundSql
