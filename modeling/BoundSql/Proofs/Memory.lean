import BoundSql.Condition.Memo
import BoundSql.Proofs.Leaves

/-! Memories are never observed: each holds the form that would be built in its place. -/

namespace BoundSql

mutual

/-- What is remembered in a predicate are the forms of the composites in it. -/
def Predicate.Keeps : Predicate → Memory → Prop
  | .template _ _, _ => True
  | .not inner, m => inner.Keeps m
  | .group alias? entries, m =>
    (∀ f ∈ m.own, f = Composite.compile ⟨entries, alias?⟩) ∧ entriesKeep entries m.nested

def entriesKeep : List Entry → List Memory → Prop
  | [], nested => nested = []
  | e :: rest, nested => e.Keeps (nested.headD .empty) ∧ entriesKeep rest nested.tail

def Entry.Keeps : Entry → Memory → Prop
  | .mk _ condition, m => condition.Keeps m

def Condition.Keeps : Condition → Memory → Prop
  | .predicate p, m => p.Keeps m
  | .raw _ _, _ => True
  | .pairs _, _ => True

end

mutual

theorem Predicate.keeps_empty : (p : Predicate) → p.Keeps .empty
  | .template _ _ => trivial
  | .not inner => inner.keeps_empty
  | .group _ entries => ⟨fun _ hf => (Option.not_mem_none _ hf).elim, entriesKeep_nil entries⟩

theorem entriesKeep_nil : (es : List Entry) → entriesKeep es []
  | [] => rfl
  | .mk _ condition :: rest => ⟨condition.keeps_empty, entriesKeep_nil rest⟩

theorem Condition.keeps_empty : (c : Condition) → c.Keeps .empty
  | .predicate p => p.keeps_empty
  | .raw _ _ => trivial
  | .pairs _ => trivial

end

theorem entriesKeep_push {es : List Entry} {nested : List Memory} (h : entriesKeep es nested)
    (joiner : Joiner) (condition : Condition) : entriesKeep (es ++ [.mk joiner condition]) nested := by
  induction es generalizing nested with
  | nil =>
    obtain rfl : nested = [] := h
    exact entriesKeep_nil [.mk joiner condition]
  | cons e rest ih => exact ⟨h.1, ih h.2⟩

theorem Memory.lookup_eq {m : Memory} {build : List Memory → Fragment × List Memory} {f : Fragment}
    {P : List Memory → Prop} (hown : ∀ g ∈ m.own, g = f) (hnested : P m.nested)
    (hbuild : (build m.nested).1 = f ∧ P (build m.nested).2) :
    (m.lookup build).1 = f ∧ (∀ g ∈ (m.lookup build).2.own, g = f) ∧ P (m.lookup build).2.nested := by
  unfold Memory.lookup
  cases hm : m.own with
  | some g =>
    rw [hm] at hown
    have hg := hown g rfl
    exact ⟨hg, fun g' hg' => by rw [hm] at hg'; exact hown g' hg', hnested⟩
  | none =>
    refine ⟨hbuild.1, ?_, hbuild.2⟩
    intro g hg
    exact (Option.mem_some_iff.mp hg).symm.trans hbuild.1

theorem Fragment.foldl_attach (leaves : List (Joiner × Fragment)) (f : Fragment) :
    leaves.foldl Fragment.attach f =
      ⟨(leaves.map fun l => (l.1, l.2.sql)).foldl BoundSql.attach f.sql,
        f.binds ++ leaves.flatMap fun l => kept l.2.sql l.2.binds⟩ := by
  induction leaves generalizing f with
  | nil => simp only [List.foldl_nil, List.map_nil, List.flatMap_nil, List.append_nil]
  | cons l rest ih =>
    rw [List.foldl_cons, ih, List.map_cons, List.foldl_cons, List.flatMap_cons, Fragment.attach,
      List.append_assoc]

def Source.reading (alias? : Option String) (s : Source) : Fragment := ⟨s.text alias?, s.binds⟩

theorem build_eq_foldl (c : Composite) (alias? : Option String) :
    c.build alias? =
      ((c.entries.flatMap Entry.sources).map fun s => (s.1, s.2.reading alias?)).foldl Fragment.attach
        .empty := by
  rw [Fragment.foldl_attach, List.map_map, List.flatMap_map, Composite.build, entryTexts_eq_map,
    entryBinds_eq_flatMap]
  rfl

theorem Memory.lookup_compile {c : Composite} {m : Memory} {build : List Memory → Fragment × List Memory}
    {P : List Memory → Prop} (hown : ∀ f ∈ m.own, f = c.compile) (hnested : P m.nested)
    (hbuild : (build m.nested).1 = ((c.entries.flatMap Entry.sources).map fun s =>
      (s.1, s.2.reading c.alias?)).foldl Fragment.attach .empty ∧ P (build m.nested).2) :
    (m.lookup build).1 = c.compile ∧ (∀ f ∈ (m.lookup build).2.own, f = c.compile) ∧
      P (m.lookup build).2.nested := by
  obtain ⟨hform, hkeeps⟩ := hbuild
  exact lookup_eq hown hnested ⟨hform.trans (build_eq_foldl c c.alias?).symm, hkeeps⟩

mutual

theorem Predicate.renderIn_eq : (p : Predicate) → (column : String) → {m : Memory} → p.Keeps m →
    (p.renderIn column m).1 = p.render column ∧ p.Keeps (p.renderIn column m).2
  | .template _ _, _, _, _ => ⟨rfl, trivial⟩
  | .not inner, column, m, h => by
    obtain ⟨htext, hkeeps⟩ := inner.renderIn_eq column h
    exact ⟨congrArg negate htext, hkeeps⟩
  | .group none entries, column, m, h => by
    -- the form under the inherited alias is not remembered
    obtain ⟨hbuild, hkeeps⟩ := buildIn_eq (some column) entries h.2 .empty
    refine ⟨?_, h.1, hkeeps⟩
    exact congrArg Fragment.sql (hbuild.trans (build_eq_foldl ⟨entries, none⟩ (some column)).symm)
  | .group (some name) entries, column, m, h => by
    obtain ⟨hform, hkeeps⟩ := Memory.lookup_compile h.1 h.2 (buildIn_eq (some name) entries h.2 .empty)
    exact ⟨congrArg Fragment.sql hform, hkeeps⟩

theorem Predicate.bindsIn_eq : (p : Predicate) → {m : Memory} → p.Keeps m →
    (p.bindsIn m).1 = p.binds ∧ p.Keeps (p.bindsIn m).2
  | .template _ _, _, _ => ⟨rfl, trivial⟩
  | .not inner, _, h => inner.bindsIn_eq h
  | .group alias? entries, _, h => by
    obtain ⟨hform, hkeeps⟩ := Memory.lookup_compile h.1 h.2 (buildIn_eq alias? entries h.2 .empty)
    exact ⟨congrArg Fragment.binds hform, hkeeps⟩

theorem buildIn_eq (alias? : Option String) : (es : List Entry) → {nested : List Memory} →
    entriesKeep es nested → ∀ f,
    (buildIn alias? es f nested).1 =
      ((es.flatMap Entry.sources).map fun s => (s.1, s.2.reading alias?)).foldl Fragment.attach f ∧
    entriesKeep es (buildIn alias? es f nested).2
  | [], _, h, _ => ⟨rfl, h⟩
  | .mk joiner condition :: rest, nested, h, f => by
    obtain ⟨hleaves, hcondition⟩ := condition.leavesIn_eq alias? h.1
    obtain ⟨hbuild, hrest⟩ := buildIn_eq alias? rest h.2
      ((((condition.leavesIn alias? (nested.headD .empty)).1).map (joiner, ·)).foldl Fragment.attach f)
    refine ⟨?_, hcondition, hrest⟩
    rw [List.flatMap_cons, List.map_append, List.foldl_append, Entry.sources, List.map_map]
    refine hbuild.trans ?_
    rw [hleaves, List.map_map]
    rfl

theorem Condition.leavesIn_eq (alias? : Option String) : (c : Condition) → {m : Memory} → c.Keeps m →
    (c.leavesIn alias? m).1 = c.sources.map (Source.reading alias?) ∧ c.Keeps (c.leavesIn alias? m).2
  | .raw _ _, _, _ => ⟨rfl, trivial⟩
  | .predicate p, m, h => by
    obtain ⟨htext, hrender⟩ := p.renderIn_eq (alias?.getD "") h
    obtain ⟨hbinds, hkeeps⟩ := p.bindsIn_eq hrender
    refine ⟨?_, hkeeps⟩
    simp only [Condition.leavesIn, htext, hbinds]
    rfl
  | .pairs ps, _, _ => by
    refine ⟨?_, trivial⟩
    rw [Condition.sources, List.map_map]
    exact pairCopies_eq alias? ps

theorem pairCopies_eq (alias? : Option String) : (ps : List Pair) →
    pairCopies alias? ps = ps.map (Source.reading alias? ∘ Pair.source)
  | [] => rfl
  | .literal sql :: rest => congrArg ((⟨sql, []⟩ : Fragment) :: ·) (pairCopies_eq alias? rest)
  | .column name operand :: rest => by
    rw [pairCopies, pairCopies_eq alias? rest, Pair.readCopy, operand.readCopy_eq, List.map_cons,
      Function.comp_apply, Pair.source, Source.reading, Source.text, Source.binds,
      Operand.render_toPredicate, Operand.binds_toPredicate]

theorem Operand.readCopy_eq : (o : Operand) → (column : String) →
    o.readCopy column = ⟨o.render column, o.binds⟩
  | .value _, _ => rfl
  | .predicate p, column => by
    obtain ⟨htext, hrender⟩ := p.renderIn_eq column p.keeps_empty
    obtain ⟨hbinds, -⟩ := p.bindsIn_eq hrender
    simp only [Operand.readCopy, htext, hbinds]
    rfl

end

def Composite.answer (c : Composite) : Reading → Reading.Answer
  | .expr => .text c.compile.sql
  | .binds => .values c.compile.binds
  | .compile => .fragment c.compile
  | .textFor fallback => .text (c.textFor fallback)

namespace Memo

def Faithful (m : Memo) : Prop := m.composite.toPredicate.Keeps m.memory

theorem faithful_fresh (c : Composite) : (fresh c).Faithful := c.toPredicate.keeps_empty

theorem Faithful.push {m : Memo} (h : m.Faithful) (joiner : Joiner) (condition : Condition) :
    (m.push joiner condition).Faithful :=
  ⟨fun _ hf => (Option.not_mem_none _ hf).elim, entriesKeep_push h.2 joiner condition⟩

theorem Faithful.withAlias {m : Memo} (h : m.Faithful) (name : String) : (m.withAlias name).Faithful :=
  ⟨fun _ hf => (Option.not_mem_none _ hf).elim, h.2⟩

theorem Faithful.read {m : Memo} (h : m.Faithful) :
    m.read.1 = m.composite.compile ∧ m.read.2.Faithful :=
  Memory.lookup_compile h.1 h.2 (buildIn_eq m.composite.alias? m.composite.entries h.2 .empty)

theorem Faithful.textFor {m : Memo} (h : m.Faithful) (fallback : Option String) :
    (m.textFor fallback).1 = m.composite.textFor fallback ∧ (m.textFor fallback).2.Faithful := by
  obtain ⟨hread, hfaithful⟩ := h.read
  obtain ⟨⟨entries, alias?⟩, memory⟩ := m
  cases alias? with
  | some name => exact ⟨congrArg Fragment.sql hread, hfaithful⟩
  | none =>
    cases fallback with
    | none => exact ⟨congrArg Fragment.sql hread, hfaithful⟩
    | some name =>
      obtain ⟨hbuild, hkeeps⟩ := buildIn_eq (some name) entries h.2 .empty
      have hform := hbuild.trans (build_eq_foldl ⟨entries, none⟩ (some name)).symm
      exact ⟨congrArg Fragment.sql hform, h.1, hkeeps⟩

theorem Faithful.answer {m : Memo} (h : m.Faithful) (r : Reading) :
    (m.answer r).1 = m.composite.answer r ∧ (m.answer r).2.Faithful := by
  obtain ⟨hread, hfaithful⟩ := h.read
  cases r with
  | expr => exact ⟨congrArg (fun f : Fragment => Reading.Answer.text f.sql) hread, hfaithful⟩
  | binds => exact ⟨congrArg (fun f : Fragment => Reading.Answer.values f.binds) hread, hfaithful⟩
  | compile => exact ⟨congrArg Reading.Answer.fragment hread, hfaithful⟩
  | textFor fallback =>
    obtain ⟨htext, hkept⟩ := h.textFor fallback
    exact ⟨congrArg Reading.Answer.text htext, hkept⟩

@[simp] theorem composite_textFor (m : Memo) (fallback : Option String) :
    (m.textFor fallback).2.composite = m.composite := by
  unfold Memo.textFor
  split <;> rfl

@[simp] theorem composite_answer (m : Memo) (r : Reading) : (m.answer r).2.composite = m.composite := by
  cases r with
  | textFor fallback => exact m.composite_textFor fallback
  | _ => rfl

end Memo

namespace Bench

/-- An operation, or a reading of any composite. -/
inductive Act where
  | step (s : Step)
  | read (index : Nat) (r : Reading)

namespace Act

def changes : Act → Bool
  | step (.textFor _) | step (.equals _) | read .. => false
  | step _ => true

def stays : Act → Bool
  | step .new | step .copy | step (.use _) => false
  | _ => true

end Act

def act (b : Bench) : Act → Bench
  | .step s => (b.step s).2
  | .read index r => (b.readAt index r).2

def acts (b : Bench) (as : List Act) : Bench := as.foldl act b

def Faithful (b : Bench) : Prop := ∀ m ∈ b.cells, m.Faithful

theorem faithful_initial : initial.Faithful :=
  List.forall_mem_singleton.mpr (Memo.faithful_fresh .empty)

theorem Faithful.cell {b : Bench} (h : b.Faithful) (index : Nat) : (b.cell index).Faithful := by
  unfold Bench.cell
  cases hm : b.cells[index]? with
  | none => exact Memo.faithful_fresh .empty
  | some m => exact h m (List.mem_of_getElem? hm)

theorem Faithful.putAt {b : Bench} (h : b.Faithful) (index : Nat) {m : Memo} (hm : m.Faithful) :
    (b.putAt index m).Faithful := by
  intro m' hm'
  rcases List.mem_or_eq_of_mem_set hm' with hm' | rfl
  · exact h m' hm'
  · exact hm

theorem Faithful.append {b : Bench} (h : b.Faithful) {m : Memo} (hm : m.Faithful) :
    (b.append m).Faithful :=
  List.forall_mem_append.mpr ⟨h, List.forall_mem_singleton.mpr hm⟩

theorem Faithful.act {b : Bench} (h : b.Faithful) (a : Act) : (b.act a).Faithful := by
  have hfocus : b.focus.Faithful := h.cell b.current
  cases a with
  | read index r => exact h.putAt index ((h.cell index).answer r).2
  | step s =>
    cases s with
    | new => exact h.append (Memo.faithful_fresh .empty)
    | copy => exact h.append (Memo.faithful_fresh _)
    | use index => exact h
    | push joiner condition => exact h.putAt b.current (hfocus.push joiner condition)
    | nestAt place joiner index => exact h.putAt b.current (hfocus.push joiner _)
    | setAlias name => exact h.putAt b.current (hfocus.withAlias name)
    | textFor fallback => exact h.putAt b.current (hfocus.textFor fallback).2
    | equals index => exact h

theorem Faithful.acts {b : Bench} (h : b.Faithful) (as : List Act) : (b.acts as).Faithful := by
  induction as generalizing b with
  | nil => exact h
  | cons a rest ih => exact ih (h.act a)

def bare (b : Bench) : Bench := { b with cells := b.cells.map fun m => .fresh m.composite }

theorem cell_bare (b : Bench) (index : Nat) : b.bare.cell index = .fresh (b.cell index).composite := by
  unfold cell bare
  rw [List.getElem?_map]
  cases b.cells[index]? <;> rfl

theorem composite_of_bare_eq {b c : Bench} (h : b.bare = c.bare) (index : Nat) :
    (b.cell index).composite = (c.cell index).composite := by
  have hcell := congrArg (fun bench : Bench => (bench.cell index).composite) h
  simp only [cell_bare] at hcell
  exact hcell

theorem bare_putAt (b : Bench) (index : Nat) (m : Memo) :
    (b.putAt index m).bare = b.bare.putAt index (.fresh m.composite) := by
  simp only [bare, putAt, List.map_set]

theorem bare_append (b : Bench) (m : Memo) : (b.append m).bare = b.bare.append (.fresh m.composite) := by
  simp only [bare, append, List.map_append, List.length_map, List.map_cons, List.map_nil]

theorem bare_bare (b : Bench) : b.bare.bare = b.bare := by
  simp only [bare, List.map_map]
  rfl

theorem cell_putAt_self (b : Bench) {index : Nat} (h : index < b.cells.length) (m : Memo) :
    (b.putAt index m).cell index = m := by
  simp only [cell, putAt, List.getElem?_set_self h, Option.getD_some]

theorem cell_putAt_ne (b : Bench) {index other : Nat} (h : index ≠ other) (m : Memo) :
    (b.putAt index m).cell other = b.cell other := by
  simp only [cell, putAt, List.getElem?_set_ne h]

theorem cell_append (b : Bench) {index : Nat} (h : index < b.cells.length) (m : Memo) :
    (b.append m).cell index = b.cell index := by
  simp only [cell, append, List.getElem?_append_left h]

theorem putAt_bare_cell (b : Bench) (index : Nat) :
    b.bare.putAt index (.fresh (b.cell index).composite) = b.bare := by
  rw [← cell_bare]
  simp only [putAt, cell]
  cases h : b.bare.cells[index]? with
  | none => rw [List.set_eq_of_length_le (List.getElem?_eq_none_iff.mp h)]
  | some m =>
    obtain ⟨hlt, rfl⟩ := List.getElem?_eq_some_iff.mp h
    rw [Option.getD_some, List.set_getElem_self]

theorem bare_act_of_not_changes (b : Bench) {a : Act} (h : a.changes = false) :
    (b.act a).bare = b.bare := by
  cases a with
  | read index r =>
    simp only [act, readAt, bare_putAt, Memo.composite_answer, putAt_bare_cell]
  | step s =>
    cases s with
    | textFor fallback =>
      simp only [act, step, put, focus, bare_putAt, Memo.composite_textFor, putAt_bare_cell]
    | equals index => rfl
    | _ => cases h

theorem bare_act (b : Bench) (a : Act) : (b.bare.act a).bare = (b.act a).bare := by
  have hfocus : b.bare.focus = .fresh b.focus.composite := b.cell_bare b.current
  cases h : a.changes with
  | false => rw [bare_act_of_not_changes _ h, bare_act_of_not_changes _ h, bare_bare]
  | true =>
    cases a with
    | read index r => cases h
    | step s =>
      cases s with
      | new => simp only [act, step, bare_append, bare_bare]
      | copy =>
        simp only [act, step, bare_append, bare_bare, hfocus]
        rfl
      | use index => simp only [act, step, bare, List.map_map]; rfl
      | push joiner condition =>
        simp only [act, step, put, bare_putAt, bare_bare, hfocus]
        rfl
      | nestAt place joiner index =>
        simp only [act, step, put, bare_putAt, bare_bare, hfocus, cell_bare]
        rfl
      | setAlias name =>
        simp only [act, step, put, bare_putAt, bare_bare, hfocus]
        rfl
      | _ => cases h

theorem bare_acts (b : Bench) (as : List Act) : (b.bare.acts as).bare = (b.acts as).bare := by
  induction as generalizing b with
  | nil => exact b.bare_bare
  | cons a rest ih =>
    change ((b.bare.act a).acts rest).bare = ((b.act a).acts rest).bare
    rw [← ih (b.bare.act a), bare_act, ih]

theorem bare_acts_filter (b : Bench) (as : List Act) :
    (b.acts (as.filter Act.changes)).bare = (b.acts as).bare := by
  induction as generalizing b with
  | nil => rfl
  | cons a rest ih =>
    cases h : a.changes with
    | true =>
      rw [List.filter_cons_of_pos h]
      exact ih (b.act a)
    | false =>
      rw [List.filter_cons_of_neg (Bool.eq_false_iff.mp h), ih]
      change (b.acts rest).bare = ((b.act a).acts rest).bare
      rw [← bare_acts, ← bare_acts (b.act a), bare_act_of_not_changes b h]

theorem act_of_stays (b : Bench) {a : Act} (h : a.stays = true) :
    (b.act a).current = b.current ∧
      ∀ index ≠ b.current, ((b.act a).cell index).composite = (b.cell index).composite := by
  cases hchanges : a.changes with
  | false =>
    have hbare := b.bare_act_of_not_changes hchanges
    have hcurrent : (b.act a).bare.current = b.bare.current := congrArg current hbare
    exact ⟨hcurrent, fun index _ => composite_of_bare_eq hbare index⟩
  | true =>
    have hput (m : Memo) (index : Nat) (hne : index ≠ b.current) :
        ((b.put m).cell index).composite = (b.cell index).composite :=
      congrArg Memo.composite (b.cell_putAt_ne hne.symm m)
    cases a with
    | read index r => cases hchanges
    | step s =>
      cases s with
      | push joiner condition => exact ⟨rfl, hput _⟩
      | nestAt place joiner i => exact ⟨rfl, hput _⟩
      | setAlias name => exact ⟨rfl, hput _⟩
      | textFor => cases hchanges
      | equals => cases hchanges
      | _ => cases h

theorem acts_of_stay (b : Bench) {as : List Act} (h : ∀ a ∈ as, a.stays = true) {index : Nat}
    (hne : index ≠ b.current) : ((b.acts as).cell index).composite = (b.cell index).composite := by
  induction as generalizing b with
  | nil => rfl
  | cons a rest ih =>
    obtain ⟨hcurrent, hcell⟩ := b.act_of_stays (h a List.mem_cons_self)
    have hrest := ih (b.act a) (fun x hx => h x (List.mem_cons_of_mem a hx)) (hcurrent ▸ hne)
    exact hrest.trans (hcell index hne)

theorem Faithful.readAt {b : Bench} (h : b.Faithful) (index : Nat) (r : Reading) :
    (b.readAt index r).1 = (b.cell index).composite.answer r :=
  ((h.cell index).answer r).1

/-- In every run each reading answers as the composite would that has the same entries and alias and was
never read. So readings can be added to a run or left out, and agree when repeated; a change shows in the
next reading, and what is done to a copy never shows in the original. -/
theorem readAt_memoryless (as : List Act) (index : Nat) (r : Reading) :
    let b := initial.acts as
    (b.readAt index r).1 = ((Memo.fresh (b.cell index).composite).answer r).1 ∧
    (b.readAt index r).1 = (b.cell index).composite.answer r ∧
    (∀ as', as'.filter Act.changes = as.filter Act.changes →
      ((initial.acts as').readAt index r).1 = (b.readAt index r).1) ∧
    (∀ other r', ((b.readAt other r').2.readAt index r).1 = (b.readAt index r).1) ∧
    (b.current < b.cells.length →
      (∀ joiner condition, ((b.act (.step (.push joiner condition))).readAt b.current r).1 =
        (b.focus.composite.push joiner condition).answer r) ∧
      (∀ place joiner other, ((b.act (.step (.nestAt place joiner other))).readAt b.current r).1 =
        (b.focus.composite.push joiner
          (place.condition (b.cell other).composite.toPredicate)).answer r) ∧
      (∀ name, ((b.act (.step (.setAlias name))).readAt b.current r).1 =
        (b.focus.composite.withAlias name).answer r) ∧
      ∀ later, (∀ a ∈ later, a.stays = true) →
        (((b.act (.step .copy)).acts later).readAt b.current r).1 = (b.readAt b.current r).1) := by
  intro b
  have hb : b.Faithful := faithful_initial.acts as
  have hread {c d : Bench} (hc : c.Faithful) (hd : d.Faithful) {i j : Nat}
      (h : (c.cell i).composite = (d.cell j).composite) : (c.readAt i r).1 = (d.readAt j r).1 := by
    rw [hc.readAt, hd.readAt, h]
  refine ⟨?_, hb.readAt index r, ?_, ?_, ?_⟩
  · exact (hb.readAt index r).trans ((Memo.faithful_fresh (b.cell index).composite).answer r).1.symm
  · intro as' h
    refine hread (faithful_initial.acts as') hb (composite_of_bare_eq ?_ index)
    rw [← bare_acts_filter, h, bare_acts_filter]
  · intro other r'
    have hbare : (b.act (.read other r')).bare = b.bare := b.bare_act_of_not_changes rfl
    exact hread (hb.act (.read other r')) hb (composite_of_bare_eq hbare index)
  · intro hcurrent
    have hfocus (m : Memo) : ((b.put m).cell b.current).composite = m.composite :=
      congrArg Memo.composite (b.cell_putAt_self hcurrent m)
    refine ⟨fun joiner condition => ?_, fun place joiner other => ?_, fun name => ?_, fun later h => ?_⟩
    · rw [(hb.act _).readAt]
      exact congrArg (Composite.answer · r) (hfocus _)
    · rw [(hb.act _).readAt]
      exact congrArg (Composite.answer · r) (hfocus _)
    · rw [(hb.act _).readAt]
      exact congrArg (Composite.answer · r) (hfocus _)
    · refine hread ((hb.act (.step .copy)).acts later) hb ?_
      have hkept := (b.act (.step .copy)).acts_of_stay h (Nat.ne_of_lt hcurrent)
      rw [hkept]
      exact congrArg Memo.composite (b.cell_append hcurrent _)

theorem readAt_memoryless_nested :
    let as : List Act :=
      [.step (.push .and (.pairs [.column "a" (.value .null)])), .read 0 .expr, .step .new,
        .step (.push .or (.raw "x = ?" [.list []])), .step (.nestAt ⟨1, none⟩ .and 0), .read 1 .binds,
        .step (.nestAt ⟨0, some "k"⟩ .or 0), .read 1 (.textFor (some "f")), .read 1 .compile,
        .step (.setAlias "t")]
    let later : List Act := [.step (.setAlias "u"), .read 2 .compile, .step (.push .and (.raw "y" []))]
    let b := initial.acts as
    (b.readAt 1 .expr).1 = .text "x = ? AND NOT (t.a = ?) OR t.k.a = ?" ∧
      ((initial.acts (as.filter Act.changes)).readAt 1 .expr).1 = (b.readAt 1 .expr).1 ∧
      b.current < b.cells.length ∧
      (((b.act (.step .copy)).acts later).readAt b.current .expr).1 = (b.readAt b.current .expr).1 := by
  intro as later b
  have hlater : ∀ a ∈ later, a.stays = true := by decide
  have hcurrent : b.current < b.cells.length := by decide
  obtain ⟨-, hplain, hfilter, -, -⟩ := readAt_memoryless as 1 .expr
  obtain ⟨-, -, -, -, hchange⟩ := readAt_memoryless as b.current .expr
  obtain ⟨-, -, -, hcopy⟩ := hchange hcurrent
  refine ⟨hplain.trans ?_, hfilter _ (by rw [List.filter_filter]; simp only [Bool.and_self]), hcurrent,
    hcopy later hlater⟩
  exact congrArg Reading.Answer.text (by decide +kernel)

end Bench
end BoundSql
