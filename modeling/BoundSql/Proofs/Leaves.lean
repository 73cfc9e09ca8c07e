import BoundSql.Condition.Render

/-! Conditions taken apart: a group is read off the sources of its leaves. -/

namespace BoundSql

def spell (marker : List Char) (template : List (Option Char)) : List Char :=
  template.flatMap fun t => t.elim marker ([·])

theorem spell_cons (marker : List Char) (t : Option Char) (rest : List (Option Char)) :
    spell marker (t :: rest) = t.elim marker ([·]) ++ spell marker rest := List.flatMap_cons

theorem exists_template (cs : List Char) :
    ∃ template, spell ['%', 's'] template = cs ∧
      ∀ column, substitute column cs = spell column template := by
  fun_induction substitute [] cs with
  | case1 => exact ⟨[], rfl, fun _ => rfl⟩
  | case2 rest ih =>
    obtain ⟨template, hspell, hcolumn⟩ := ih
    refine ⟨none :: template, ?_, fun column => ?_⟩
    · rw [← hspell]
      rfl
    · rw [substitute, hcolumn]
      rfl
  | case3 c rest hc ih =>
    obtain ⟨template, hspell, hcolumn⟩ := ih
    refine ⟨some c :: template, ?_, fun column => ?_⟩
    · rw [← hspell]
      rfl
    · rw [substitute.eq_3 column c rest hc, hcolumn]
      rfl

inductive Source where
  | fixed (sql : String) (binds : List Value)
  | unnamed (p : Predicate)
  | column (name : String) (p : Predicate)

namespace Source

def text (alias? : Option String) : Source → String
  | fixed sql _ => sql
  | unnamed p => p.render (alias?.getD "")
  | column name p => p.render (columnize name alias?)

def binds : Source → List Value
  | fixed _ binds => binds
  | unnamed p => p.binds
  | column _ p => p.binds

def predicate? : Source → Option Predicate
  | fixed .. => none
  | unnamed p => some p
  | column _ p => some p

end Source

def Pair.source : Pair → Source
  | .literal sql => .fixed sql []
  | .column name operand => .column name operand.toPredicate

def Condition.sources : Condition → List Source
  | .raw sql binds => [.fixed sql binds]
  | .predicate p => [.unnamed p]
  | .pairs ps => ps.map Pair.source

def Entry.sources : Entry → List (Joiner × Source)
  | .mk joiner condition => condition.sources.map (joiner, ·)

theorem pairTexts_eq_map (alias? : Option String) (pairs : List Pair) :
    pairTexts alias? pairs = pairs.map fun p => p.source.text alias? := by
  induction pairs with
  | nil => rfl
  | cons p rest ih =>
    rw [pairTexts, ih, List.map_cons]
    cases p with
    | literal sql => rfl
    | column name operand =>
      rw [Pair.text, Pair.source, Source.text, Operand.render_toPredicate]

theorem pairBinds_eq_flatMap (alias? : Option String) (pairs : List Pair) :
    pairBinds alias? pairs = pairs.flatMap fun p => kept (p.source.text alias?) p.source.binds := by
  induction pairs with
  | nil => rfl
  | cons p rest ih =>
    rw [pairBinds, ih, List.flatMap_cons]
    cases p with
    | literal sql => rw [Pair.binds, Pair.source, Source.binds, kept, ite_self]
    | column name operand =>
      rw [Pair.binds, Pair.source, Source.text, Source.binds, Operand.render_toPredicate,
        Operand.binds_toPredicate]

theorem entryTexts_eq_map (alias? : Option String) (entries : List Entry) :
    entryTexts alias? entries =
      (entries.flatMap Entry.sources).map fun s => (s.1, s.2.text alias?) := by
  induction entries with
  | nil => rfl
  | cons e rest ih =>
    obtain ⟨joiner, condition⟩ := e
    rw [entryTexts, ih, List.flatMap_cons, List.map_append, Entry.texts, Entry.sources, List.map_map]
    cases condition with
    | pairs pairs =>
      rw [Condition.texts, Condition.sources, pairTexts_eq_map, List.map_map, List.map_map]
      rfl
    | _ => rfl

theorem entryBinds_eq_flatMap (alias? : Option String) (entries : List Entry) :
    entryBinds alias? entries =
      (entries.flatMap Entry.sources).flatMap fun s => kept (s.2.text alias?) s.2.binds := by
  induction entries with
  | nil => rfl
  | cons e rest ih =>
    obtain ⟨joiner, condition⟩ := e
    rw [entryBinds, ih, List.flatMap_cons, List.flatMap_append, Entry.binds, Entry.sources,
      List.flatMap_map]
    cases condition with
    | pairs pairs => rw [Condition.binds, Condition.sources, pairBinds_eq_flatMap, List.flatMap_map]
    | _ => rw [Condition.binds, Condition.sources, List.flatMap_singleton]; rfl

theorem entryTexts_append (alias? : Option String) (xs ys : List Entry) :
    entryTexts alias? (xs ++ ys) = entryTexts alias? xs ++ entryTexts alias? ys := by
  simp only [entryTexts_eq_map, List.flatMap_append, List.map_append]

theorem entryBinds_append (alias? : Option String) (xs ys : List Entry) :
    entryBinds alias? (xs ++ ys) = entryBinds alias? xs ++ entryBinds alias? ys := by
  simp only [entryBinds_eq_flatMap, List.flatMap_append]

/-- Induction on nested conditions: a group has the property when all predicates in its sources do. -/
@[induction_eliminator]
theorem Predicate.nested {P : Predicate → Prop}
    (template : ∀ sql binds, P (.template sql binds))
    (not : ∀ inner, P inner → P (.not inner))
    (group : ∀ alias? entries,
      (∀ s ∈ entries.flatMap Entry.sources, ∀ p ∈ s.2.predicate?, P p) → P (.group alias? entries))
    (p : Predicate) : P p := by
  -- entries, conditions and pairs stand for the predicates in their sources
  refine @Predicate.rec P (fun e => ∀ s ∈ e.sources, ∀ p ∈ s.2.predicate?, P p)
    (fun c => ∀ s ∈ c.sources, ∀ p ∈ s.predicate?, P p) (fun pair => ∀ p ∈ pair.source.predicate?, P p)
    (fun o => P o.toPredicate) (fun es => ∀ s ∈ es.flatMap Entry.sources, ∀ p ∈ s.2.predicate?, P p)
    (fun ps => ∀ pair ∈ ps, ∀ p ∈ pair.source.predicate?, P p)
    template not group ?entry ?raw ?predicate ?pairs ?literal ?column ?value ?operand
    ?noEntry ?entries ?noPair ?morePairs p
  case entry =>
    intro joiner condition ih s hs
    obtain ⟨source, hsource, rfl⟩ := List.mem_map.mp hs
    exact ih source hsource
  case raw =>
    intro sql binds s hs p hp
    obtain rfl := List.mem_singleton.mp hs
    cases hp
  case predicate =>
    intro q ih s hs p hp
    obtain rfl := List.mem_singleton.mp hs
    exact Option.mem_some_iff.mp hp ▸ ih
  case pairs =>
    intro ps ih s hs
    obtain ⟨pair, hpair, rfl⟩ := List.mem_map.mp hs
    exact ih pair hpair
  case literal =>
    intro sql p hp
    cases hp
  case column =>
    intro name operand ih p hp
    exact Option.mem_some_iff.mp hp ▸ ih
  case value => exact fun v => template v.comparison [v]
  case operand => exact fun _ ih => ih
  case noEntry => exact fun _ hs => absurd hs List.not_mem_nil
  case entries =>
    intro e rest ihe ihrest s hs
    rcases List.mem_append.mp hs with hs | hs
    · exact ihe s hs
    · exact ihrest s hs
  case noPair => exact fun _ hpair => absurd hpair List.not_mem_nil
  case morePairs =>
    intro pair rest ihpair ihrest other hother
    rcases List.mem_cons.mp hother with rfl | hother
    · exact ihpair
    · exact ihrest other hother

def staying (leaves : List (Joiner × String)) : List (Joiner × String) :=
  leaves.filter fun l => !Text.blank l.2

def joined (leaves : List (Joiner × String)) : String :=
  String.join (leaves.map fun l => l.1.sql ++ l.2)

def chain : List (Joiner × String) → String
  | [] => ""
  | l :: rest => l.2 ++ joined rest

theorem joined_cons (l : Joiner × String) (rest : List (Joiner × String)) :
    joined (l :: rest) = l.1.sql ++ l.2 ++ joined rest := by
  rw [joined, List.map_cons, String.join_cons, joined]

theorem joined_append (xs ys : List (Joiner × String)) :
    joined (xs ++ ys) = joined xs ++ joined ys := by
  rw [joined, List.map_append, String.join_append, joined, joined]

theorem chain_append {xs : List (Joiner × String)} (h : xs ≠ []) (ys : List (Joiner × String)) :
    chain (xs ++ ys) = chain xs ++ joined ys := by
  cases xs with
  | nil => exact absurd rfl h
  | cons x xs => rw [List.cons_append, chain, chain, joined_append, String.append_assoc]

theorem staying_append (xs ys : List (Joiner × String)) :
    staying (xs ++ ys) = staying xs ++ staying ys := List.filter_append ..

theorem staying_cons_of_blank (joiner : Joiner) {text : String} (h : Text.blank text = true)
    (rest : List (Joiner × String)) : staying ((joiner, text) :: rest) = staying rest := by
  simp only [staying, List.filter_cons, h, Bool.not_true, Bool.false_eq_true, if_false]

theorem staying_cons_of_not_blank (joiner : Joiner) {text : String} (h : Text.blank text = false)
    (rest : List (Joiner × String)) :
    staying ((joiner, text) :: rest) = (joiner, text) :: staying rest := by
  simp only [staying, List.filter_cons, h, Bool.not_false, if_true]

theorem not_isEmpty_append {s : String} (h : s.isEmpty = false) (t : String) :
    (s ++ t).isEmpty = false := by
  simp_all

theorem isEmpty_eq_false_of_not_blank {s : String} (h : Text.blank s = false) : s.isEmpty = false := by
  rw [Bool.eq_false_iff]
  intro hs
  rw [String.isEmpty_iff.mp hs, Text.blank_empty] at h
  cases h

theorem foldl_attach (leaves : List (Joiner × String)) {sql : String} (h : sql.isEmpty = false) :
    leaves.foldl attach sql = sql ++ joined (staying leaves) := by
  -- once something stands, each leaf that stays comes with its joiner
  induction leaves generalizing sql with
  | nil => exact String.append_empty.symm
  | cons l rest ih =>
    rw [List.foldl_cons, attach]
    cases hl : Text.blank l.2 with
    | true => rw [if_pos rfl, ih h, staying_cons_of_blank l.1 hl]
    | false =>
      rw [if_neg Bool.false_ne_true, h, if_neg Bool.false_ne_true, staying_cons_of_not_blank l.1 hl,
        joined_cons, String.append_assoc, ih (not_isEmpty_append h _), String.append_assoc]

theorem joinLeaves_eq_chain (leaves : List (Joiner × String)) :
    joinLeaves leaves = chain (staying leaves) := by
  induction leaves with
  | nil => rfl
  | cons l rest ih =>
    rw [joinLeaves, List.foldl_cons, attach]
    cases hl : Text.blank l.2 with
    | true => rw [if_pos rfl, staying_cons_of_blank l.1 hl, ← ih, joinLeaves]
    | false =>
      rw [if_neg Bool.false_ne_true, if_pos (by rfl), staying_cons_of_not_blank l.1 hl, chain,
        foldl_attach rest (isEmpty_eq_false_of_not_blank hl)]

theorem chain_staying_of_ne_nil {leaves : List (Joiner × String)} (h : staying leaves ≠ []) :
    Text.blank (chain (staying leaves)) = false := by
  cases hs : staying leaves with
  | nil => exact absurd hs h
  | cons l rest =>
    have hl : l ∈ staying leaves := hs ▸ List.mem_cons_self
    have hblank : Text.blank l.2 = false := by
      simpa only [Bool.not_eq_eq_eq_not, Bool.not_true] using (List.mem_filter.mp hl).2
    rw [chain, Text.blank_append, hblank, Bool.false_and]

theorem blank_chain_staying (leaves : List (Joiner × String)) :
    Text.blank (chain (staying leaves)) = (staying leaves).isEmpty := by
  by_cases h : staying leaves = []
  · rw [h]; rfl
  · rw [chain_staying_of_ne_nil h, List.isEmpty_eq_false_iff.mpr h]

theorem isEmpty_chain_staying (leaves : List (Joiner × String)) :
    (chain (staying leaves)).isEmpty = (staying leaves).isEmpty := by
  by_cases h : staying leaves = []
  · rw [h]; rfl
  · rw [isEmpty_eq_false_of_not_blank (chain_staying_of_ne_nil h), List.isEmpty_eq_false_iff.mpr h]

theorem Predicate.render_group (alias? : Option String) (entries : List Entry) (column : String) :
    (Predicate.group alias? entries).render column =
      chain (staying ((entries.flatMap Entry.sources).map fun s =>
        (s.1, s.2.text (alias?.or (some column))))) := by
  rw [Predicate.render, joinLeaves_eq_chain, entryTexts_eq_map]

/-- What is asked of the texts and names in a condition. -/
structure Demands where
  template : String → List Value → Prop
  raw : String → List Value → Prop
  literal : String → Prop
  name : String → Prop

section

variable (d : Demands)

mutual

def Predicate.Meets : Predicate → Prop
  | .template sql binds => d.template sql binds
  | .not inner => inner.Meets
  | .group alias? entries => (∀ name ∈ alias?, d.name name) ∧ entriesMeet entries

def entriesMeet : List Entry → Prop
  | [] => True
  | e :: rest => e.Meets ∧ entriesMeet rest

def Entry.Meets : Entry → Prop
  | .mk _ condition => condition.Meets

def Condition.Meets : Condition → Prop
  | .raw sql binds => d.raw sql binds
  | .predicate p => p.Meets
  | .pairs ps => pairsMeet ps

def pairsMeet : List Pair → Prop
  | [] => True
  | p :: rest => p.Meets ∧ pairsMeet rest

def Pair.Meets : Pair → Prop
  | .literal sql => d.literal sql
  | .column name operand => d.name name ∧ operand.Meets

def Operand.Meets : Operand → Prop
  | .value _ => True
  | .predicate p => p.Meets

end

def Source.Meets : Source → Prop
  | .fixed sql binds => d.raw sql binds ∨ d.literal sql ∧ binds = []
  | .unnamed p => p.Meets d
  | .column name p => d.name name ∧ p.Meets d

variable {d}

theorem Operand.Meets.toPredicate (hv : ∀ v : Value, d.template v.comparison [v]) {o : Operand}
    (h : o.Meets d) : o.toPredicate.Meets d := by
  cases o with
  | value v => exact hv v
  | predicate p => exact h

theorem pairsMeet.source (hv : ∀ v : Value, d.template v.comparison [v]) {ps : List Pair}
    (h : pairsMeet d ps) : ∀ p ∈ ps, p.source.Meets d := by
  induction ps with
  | nil => exact fun _ hp => absurd hp List.not_mem_nil
  | cons p rest ih =>
    intro q hq
    rcases List.mem_cons.mp hq with rfl | hq
    · cases q with
      | literal sql => exact .inr ⟨h.1, rfl⟩
      | column name operand => exact ⟨h.1.1, h.1.2.toPredicate hv⟩
    · exact ih h.2 q hq

theorem entriesMeet.source (hv : ∀ v : Value, d.template v.comparison [v]) {es : List Entry}
    (h : entriesMeet d es) : ∀ s ∈ es.flatMap Entry.sources, s.2.Meets d := by
  induction es with
  | nil => exact fun _ hs => absurd hs List.not_mem_nil
  | cons e rest ih =>
    intro s hs
    rcases List.mem_append.mp hs with hs | hs
    · obtain ⟨joiner, condition⟩ := e
      obtain ⟨source, hsource, rfl⟩ := List.mem_map.mp hs
      cases condition with
      | raw sql binds => exact List.mem_singleton.mp hsource ▸ .inl h.1
      | predicate p => exact List.mem_singleton.mp hsource ▸ h.1
      | pairs ps =>
        obtain ⟨pair, hpair, rfl⟩ := List.mem_map.mp hsource
        exact pairsMeet.source hv h.1 pair hpair
    · exact ih h.2 s hs

theorem entriesMeet.append {xs ys : List Entry} (hx : entriesMeet d xs) (hy : entriesMeet d ys) :
    entriesMeet d (xs ++ ys) := by
  induction xs with
  | nil => exact hy
  | cons e rest ih => exact ⟨hx.1, ih hx.2⟩

theorem Source.Meets.predicate {s : Source} (h : s.Meets d) {p : Predicate} (hp : p ∈ s.predicate?) :
    p.Meets d := by
  cases s with
  | fixed => cases hp
  | unnamed q => exact Option.mem_some_iff.mp hp ▸ h
  | column name q => exact Option.mem_some_iff.mp hp ▸ h.2

end

end BoundSql
