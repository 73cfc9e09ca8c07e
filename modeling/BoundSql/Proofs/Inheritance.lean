import BoundSql.Proofs.Flattening

/-! Setting inherited aliases in the tree beforehand changes neither text nor values. -/

namespace BoundSql

mutual

/-- The predicate with the alias that it inherits set in each group that has none. -/
def Predicate.named (inherited? : Option String) : Predicate → Predicate
  | .template sql binds => .template sql binds
  | .not inner => .not (inner.named inherited?)
  | .group own? entries => .group (own?.or inherited?) (entriesNamed (own?.or inherited?) entries)

def entriesNamed (alias? : Option String) : List Entry → List Entry
  | [] => []
  | e :: rest => e.named alias? :: entriesNamed alias? rest

def Entry.named (alias? : Option String) : Entry → Entry
  | .mk joiner condition => .mk joiner (condition.named alias?)

def Condition.named (alias? : Option String) : Condition → Condition
  | .raw sql binds => .raw sql binds
  | .predicate p => .predicate (p.named alias?)
  | .pairs ps => .pairs (pairsNamed alias? ps)

def pairsNamed (alias? : Option String) : List Pair → List Pair
  | [] => []
  | p :: rest => p.named alias? :: pairsNamed alias? rest

def Pair.named (alias? : Option String) : Pair → Pair
  | .literal sql => .literal sql
  | .column name operand => .column name (operand.named (columnize name alias?))

def Operand.named (column : String) : Operand → Operand
  | .value v => .value v
  | .predicate p => .predicate (p.named (some column))

end

def Composite.named (c : Composite) : Composite := { c with entries := entriesNamed c.alias? c.entries }

def Source.named (alias? : Option String) : Source → Source
  | .fixed sql binds => .fixed sql binds
  | .unnamed p => .unnamed (p.named alias?)
  | .column name p => .column name (p.named (some (columnize name alias?)))

theorem Pair.source_named (alias? : Option String) (p : Pair) :
    (p.named alias?).source = p.source.named alias? := by
  cases p with
  | literal sql => rfl
  | column name operand => cases operand <;> rfl

theorem pairsNamed_eq_map (alias? : Option String) (ps : List Pair) :
    pairsNamed alias? ps = ps.map (Pair.named alias?) := by
  induction ps with
  | nil => rfl
  | cons p rest ih => rw [pairsNamed, ih, List.map_cons]

theorem Condition.sources_named (alias? : Option String) (c : Condition) :
    (c.named alias?).sources = c.sources.map (Source.named alias?) := by
  cases c with
  | raw sql binds => rfl
  | predicate p => rfl
  | pairs ps =>
    rw [Condition.named, pairsNamed_eq_map, Condition.sources, Condition.sources, List.map_map, List.map_map]
    exact List.map_congr_left fun p _ => p.source_named alias?

theorem sources_entriesNamed (alias? : Option String) (entries : List Entry) :
    (entriesNamed alias? entries).flatMap Entry.sources =
      (entries.flatMap Entry.sources).map fun s => (s.1, s.2.named alias?) := by
  induction entries with
  | nil => rfl
  | cons e rest ih =>
    obtain ⟨joiner, condition⟩ := e
    have hcondition : (Entry.mk joiner condition).sources.map (fun s => (s.1, s.2.named alias?)) =
        (Entry.mk joiner (condition.named alias?)).sources := by
      rw [Entry.sources, Entry.sources, Condition.sources_named, List.map_map, List.map_map]
      rfl
    rw [List.flatMap_cons, List.map_append, ← ih, hcondition]
    rfl

/-- Setting the inherited alias changes nothing where that alias is inherited. -/
def Predicate.ReadsNamed (p : Predicate) : Prop :=
  ∀ inherited? : Option String,
    (p.named inherited?).render (inherited?.getD "") = p.render (inherited?.getD "") ∧
      (p.named inherited?).binds = p.binds

theorem Source.named_reads {s : Source} (h : ∀ p ∈ s.predicate?, p.ReadsNamed) (alias? : Option String) :
    (s.named alias?).text alias? = s.text alias? ∧ (s.named alias?).binds = s.binds := by
  cases s with
  | fixed sql binds => exact ⟨rfl, rfl⟩
  | unnamed p => exact h p rfl alias?
  | column name p => exact h p rfl (some (columnize name alias?))

theorem entriesNamed_reads {entries : List Entry}
    (h : ∀ s ∈ entries.flatMap Entry.sources, ∀ p ∈ s.2.predicate?, p.ReadsNamed)
    (alias? : Option String) :
    entryTexts alias? (entriesNamed alias? entries) = entryTexts alias? entries ∧
      entryBinds alias? (entriesNamed alias? entries) = entryBinds alias? entries := by
  have hs (s : Joiner × Source) (hmem : s ∈ entries.flatMap Entry.sources) :=
    Source.named_reads (h s hmem) alias?
  constructor
  · rw [entryTexts_eq_map, entryTexts_eq_map, sources_entriesNamed, List.map_map]
    refine List.map_congr_left fun s hmem => ?_
    exact congrArg (s.1, ·) (hs s hmem).1
  · rw [entryBinds_eq_flatMap, entryBinds_eq_flatMap, sources_entriesNamed, List.flatMap_map]
    refine congrArg List.flatten (List.map_congr_left fun s hmem => ?_)
    obtain ⟨htext, hbinds⟩ := hs s hmem
    rw [htext, hbinds]

theorem Predicate.readsNamed {p : Predicate} (h : p.Meets solid) : p.ReadsNamed := by
  induction p with
  | template sql binds => exact fun inherited? => ⟨rfl, rfl⟩
  | not inner ih =>
    intro inherited?
    obtain ⟨htext, hbinds⟩ := ih h inherited?
    exact ⟨congrArg negate htext, hbinds⟩
  | group own? entries ih =>
    intro inherited?
    have hsources : ∀ s ∈ entries.flatMap Entry.sources, ∀ p ∈ s.2.predicate?, p.ReadsNamed :=
      fun s hmem p hp => ih s hmem p hp ((h.2.source solid_comparison s hmem).predicate hp)
    obtain ⟨htexts, hbinds⟩ := entriesNamed_reads hsources (own?.or inherited?)
    constructor
    · -- the alias that was set is the one that would have been handed down
      have hset : (own?.or inherited?).or inherited? = own?.or inherited? := by
        rw [Option.or_assoc, Option.or_self]
      rw [Predicate.named, render_group_inherited, render_group_inherited, hset, htexts]
    · rw [Predicate.named, Predicate.binds, Predicate.binds, hbinds]
      exact entryBinds_alias h.2 _ _

theorem Composite.textFor_of_alias {c : Composite} {name : String} (h : c.alias? = some name)
    (fallback : Option String) : c.textFor fallback = c.compile.sql := by
  rw [Composite.textFor, Composite.compile, h, Option.some_or]

theorem Composite.textFor_of_no_alias {c : Composite} (h : c.alias? = none) (fallback : String) :
    c.textFor (some fallback) = (c.withAlias fallback).compile.sql := by
  rw [Composite.textFor, h]
  rfl

/-- A composite without hollow templates compiles as it does with all inherited aliases set. Under a
fallback it reads as with that alias set, if it has none of its own, and its values are the same. -/
theorem compile_named (c : Composite) (h : entriesMeet solid c.entries) :
    c.named.compile = c.compile ∧
      ∀ fallback,
        (c.alias? = none → c.textFor (some fallback) = (c.withAlias fallback).compile.sql) ∧
        (c.alias?.isSome → c.textFor (some fallback) = c.compile.sql) ∧
        (c.withAlias fallback).compile.binds = c.compile.binds := by
  have hsources : ∀ s ∈ c.entries.flatMap Entry.sources, ∀ p ∈ s.2.predicate?, p.ReadsNamed :=
    fun s hmem p hp => Predicate.readsNamed ((h.source solid_comparison s hmem).predicate hp)
  obtain ⟨htexts, hbinds⟩ := entriesNamed_reads hsources c.alias?
  constructor
  · change (⟨joinLeaves (entryTexts c.alias? (entriesNamed c.alias? c.entries)),
      entryBinds c.alias? (entriesNamed c.alias? c.entries)⟩ : Fragment) = c.compile
    rw [htexts, hbinds]
    rfl
  · intro fallback
    refine ⟨fun hnone => Composite.textFor_of_no_alias hnone fallback, ?_, ?_⟩
    · intro hsome
      obtain ⟨name, hname⟩ := Option.isSome_iff_exists.mp hsome
      exact Composite.textFor_of_alias hname (some fallback)
    · exact entryBinds_alias h (some fallback) c.alias?

theorem compile_named_nested :
    let pair (joiner : Joiner) (name : String) : Entry :=
      .mk joiner (.pairs [.column name (.predicate (.template "%s > ?" [.bool true]))])
    let entries (outer? operand? inner? : Option String) : List Entry :=
      [.mk .and (.predicate (.not (.not (.group outer? [pair .and "a"])))),
        .mk .or (.pairs [.column "k" (.predicate (.group operand?
          [pair .and "b", .mk .and (.predicate (.group operand? [pair .and "c"]))]))]),
        .mk .and (.predicate (.group (some "v")
          [pair .and "d", .mk .or (.predicate (.group inner? [pair .and "e"]))]))]
    let c : Composite := ⟨entries none none none, some "t"⟩
    let free : Composite := ⟨entries none none none, none⟩
    c.named = ⟨entries (some "t") (some "t.k") (some "v"), some "t"⟩ ∧
      c.named.compile = c.compile ∧
      c.compile.sql =
        "NOT (NOT (t.a > ?)) OR t.k.b > ? AND t.k.c > ? AND v.d > ? OR v.e > ?" ∧
      c.textFor (some "u") = c.compile.sql ∧
      free.textFor (some "t") = c.compile.sql ∧ free.compile.sql ≠ c.compile.sql ∧
      c.compile.binds = free.compile.binds := by
  intro pair entries c free
  have htemplate : ¬ Hollow "%s > ?" := by decide
  have h : entriesMeet solid (entries none none none) := by
    have hpair (joiner : Joiner) (name : String) : (pair joiner name).Meets solid :=
      ⟨⟨trivial, htemplate⟩, trivial⟩
    exact ⟨⟨nofun, hpair _ _, trivial⟩,
      ⟨⟨trivial, nofun, hpair _ _, ⟨nofun, hpair _ _, trivial⟩, trivial⟩, trivial⟩,
      ⟨fun _ _ => trivial, hpair _ _, ⟨nofun, hpair _ _, trivial⟩, trivial⟩, trivial⟩
  obtain ⟨hnamed, hown⟩ := compile_named c h
  obtain ⟨-, hfree⟩ := compile_named free h
  obtain ⟨htext, -, hbinds⟩ := hfree "t"
  exact ⟨rfl, hnamed, by decide +kernel, (hown "u").2.1 rfl, htext rfl, by decide +kernel, hbinds⟩

end BoundSql
