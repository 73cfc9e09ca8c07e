import BoundSql.Proofs.Leaves

/-! A composite compiles to the leaves of all its groups, blank ones left out. -/

namespace BoundSql

/-- A text of blanks and at least one column marker: without its markers it is blank. -/
def Hollow (sql : String) : Prop :=
  Text.blank (fillTemplate sql "") = true ∧ Text.blank sql = false

instance (sql : String) : Decidable (Hollow sql) := inferInstanceAs (Decidable (_ ∧ _))

def solid : Demands where
  template sql _ := ¬ Hollow sql
  raw _ _ := True
  literal _ := True
  name _ := True

theorem substitute_of_blank (column : List Char) {cs : List Char} (h : cs.all Text.isBlank = true) :
    substitute column cs = cs := by
  obtain ⟨template, rfl, hcolumn⟩ := exists_template cs
  rw [hcolumn]
  clear hcolumn
  induction template with
  | nil => rfl
  | cons t rest ih =>
    rw [spell_cons, List.all_append, Bool.and_eq_true] at h
    rw [spell_cons, spell_cons, ih h.2]
    cases t with
    | none => exact absurd h.1 (by decide)
    | some c => rfl

theorem all_blank_of_substitute {column cs : List Char}
    (h : (substitute column cs).all Text.isBlank = true) :
    (substitute [] cs).all Text.isBlank = true := by
  obtain ⟨template, -, hcolumn⟩ := exists_template cs
  rw [hcolumn] at h ⊢
  clear hcolumn
  induction template with
  | nil => rfl
  | cons t rest ih =>
    rw [spell_cons, List.all_append, Bool.and_eq_true] at h
    rw [spell_cons, List.all_append, ih h.2, Bool.and_true]
    cases t with
    | none => rfl
    | some c => exact h.1

theorem fillTemplate_of_blank {sql : String} (h : Text.blank sql = true) (column : String) :
    fillTemplate sql column = sql := by
  rw [fillTemplate, substitute_of_blank column.toList h, String.ofList_toList]

theorem blank_fillTemplate {sql : String} (h : ¬ Hollow sql) (column : String) :
    Text.blank (fillTemplate sql column) = Text.blank sql := by
  cases hblank : Text.blank sql with
  | true => rw [fillTemplate_of_blank hblank, hblank]
  | false =>
    rw [Bool.eq_false_iff]
    intro hfill
    rw [Text.blank, fillTemplate, String.toList_ofList] at hfill
    refine h ⟨?_, hblank⟩
    rw [Text.blank, fillTemplate, String.toList_ofList]
    exact all_blank_of_substitute hfill

theorem isEmpty_fillTemplate {sql : String} (h : ¬ Hollow sql) (column : String) :
    (fillTemplate sql column).isEmpty = sql.isEmpty := by
  cases hblank : Text.blank sql with
  | true => rw [fillTemplate_of_blank hblank]
  | false =>
    rw [isEmpty_eq_false_of_not_blank hblank,
      isEmpty_eq_false_of_not_blank ((blank_fillTemplate h column).trans hblank)]

theorem isEmpty_negate (sql : String) : (negate sql).isEmpty = sql.isEmpty := by
  rw [negate]
  cases h : sql.isEmpty with
  | true => rw [if_pos rfl, h]
  | false => rw [if_neg Bool.false_ne_true, String.append_assoc, not_isEmpty_append (by rfl)]

theorem blank_negate (sql : String) : Text.blank (negate sql) = sql.isEmpty := by
  have hopen : Text.blank "NOT (" = false := by decide
  rw [negate]
  cases h : sql.isEmpty with
  | true => rw [if_pos rfl, String.isEmpty_iff.mp h, Text.blank_empty]
  | false => rw [if_neg Bool.false_ne_true, Text.blank_append, Text.blank_append, hopen, Bool.false_and,
      Bool.false_and]

theorem isEmpty_staying_map {sources : List (Joiner × Source)} {f g : Source → String}
    (h : ∀ s ∈ sources, Text.blank (f s.2) = Text.blank (g s.2)) :
    (staying (sources.map fun s => (s.1, f s.2))).isEmpty =
      (staying (sources.map fun s => (s.1, g s.2))).isEmpty := by
  induction sources with
  | nil => rfl
  | cons s rest ih =>
    have hs := h s List.mem_cons_self
    rw [List.map_cons, List.map_cons]
    cases hf : Text.blank (f s.2) with
    | true =>
      rw [staying_cons_of_blank s.1 hf, staying_cons_of_blank s.1 (hs ▸ hf),
        ih fun t ht => h t (List.mem_cons_of_mem s ht)]
    | false => rw [staying_cons_of_not_blank s.1 hf, staying_cons_of_not_blank s.1 (hs ▸ hf)]; rfl

theorem solid_comparison (v : Value) : solid.template v.comparison [v] := by
  rintro ⟨h, -⟩
  unfold Value.comparison at h
  split at h <;> exact absurd h (by decide)

theorem Predicate.blank_render {p : Predicate} (h : p.Meets solid) (a b : String) :
    Text.blank (p.render a) = Text.blank (p.render b) ∧ (p.render a).isEmpty = (p.render b).isEmpty := by
  induction p generalizing a b with
  | template sql binds =>
    rw [Predicate.render, Predicate.render, blank_fillTemplate h, blank_fillTemplate h,
      isEmpty_fillTemplate h, isEmpty_fillTemplate h]
    exact ⟨rfl, rfl⟩
  | not inner ih =>
    rw [Predicate.render, Predicate.render, blank_negate, blank_negate, isEmpty_negate, isEmpty_negate,
      (ih h a b).2]
    exact ⟨rfl, rfl⟩
  | group alias? entries ih =>
    have hsources : ∀ s ∈ entries.flatMap Entry.sources,
        Text.blank (s.2.text (alias?.or (some a))) = Text.blank (s.2.text (alias?.or (some b))) := by
      rintro ⟨joiner, s⟩ hs
      have hmeets := h.2.source solid_comparison (joiner, s) hs
      have hp := ih (joiner, s) hs
      cases s with
      | fixed sql binds => rfl
      | unnamed p => exact (hp p rfl hmeets _ _).1
      | column name p => exact (hp p rfl hmeets.2 _ _).1
    rw [Predicate.render_group, Predicate.render_group, blank_chain_staying, blank_chain_staying,
      isEmpty_chain_staying, isEmpty_chain_staying, isEmpty_staying_map hsources]
    exact ⟨rfl, rfl⟩

theorem Source.blank_text {s : Source} (h : s.Meets solid) (a b : Option String) :
    Text.blank (s.text a) = Text.blank (s.text b) := by
  cases s with
  | fixed sql binds => rfl
  | unnamed p => exact (Predicate.blank_render h _ _).1
  | column name p => exact (Predicate.blank_render h.2 _ _).1

theorem entryBinds_alias {entries : List Entry} (h : entriesMeet solid entries) (a b : Option String) :
    entryBinds a entries = entryBinds b entries := by
  have hkept : ∀ s ∈ entries.flatMap Entry.sources,
      kept (s.2.text a) s.2.binds = kept (s.2.text b) s.2.binds := by
    intro s hs
    rw [kept, kept, Source.blank_text (h.source solid_comparison s hs) a b]
  rw [entryBinds_eq_flatMap, entryBinds_eq_flatMap]
  exact congrArg List.flatten (List.map_congr_left hkept)

theorem columnize_empty (name : String) : columnize name (some "") = columnize name none := by
  have hempty : "".isEmpty = true := rfl
  simp only [columnize, hempty, Bool.true_or, if_true]

theorem entryTexts_getD (alias? : Option String) (entries : List Entry) :
    entryTexts (some (alias?.getD "")) entries = entryTexts alias? entries := by
  cases alias? with
  | some name => rfl
  | none =>
    rw [entryTexts_eq_map, entryTexts_eq_map]
    refine List.map_congr_left fun s _ => ?_
    obtain ⟨joiner, source⟩ := s
    cases source with
    | column name p => exact congrArg (fun c => (joiner, p.render c)) (columnize_empty name)
    | _ => rfl

structure Leaf where
  joiner : Joiner
  text : String
  binds : List Value

namespace Leaf

def pair (l : Leaf) : Joiner × String := (l.joiner, l.text)

def stays (l : Leaf) : Bool := !Text.blank l.text

def rejoin (joiner : Joiner) : List Leaf → List Leaf
  | [] => []
  | l :: rest => if l.stays then { l with joiner := joiner } :: rest else l :: rejoin joiner rest

end Leaf

def Pair.leaf (joiner : Joiner) (alias? : Option String) : Pair → Leaf
  | .literal sql => ⟨joiner, sql, []⟩
  | .column name operand => ⟨joiner, operand.render (columnize name alias?), operand.binds⟩

mutual

def entryLeaves (alias? : Option String) : List Entry → List Leaf
  | [] => []
  | e :: rest => e.leaves alias? ++ entryLeaves alias? rest

def Entry.leaves (alias? : Option String) : Entry → List Leaf
  | .mk joiner condition => condition.leaves joiner alias?

def Condition.leaves (joiner : Joiner) (alias? : Option String) : Condition → List Leaf
  | .raw sql binds => [⟨joiner, sql, binds⟩]
  | .predicate (.group own? entries) => Leaf.rejoin joiner (entryLeaves (own?.or alias?) entries)
  | .predicate p => [⟨joiner, p.render (alias?.getD ""), p.binds⟩]
  | .pairs ps => ps.map (Pair.leaf joiner alias?)

end

/-- Leaves that read as the texts and values of a level do, at the start of a chain and inside one. -/
structure Flattens (texts : List (Joiner × String)) (binds : List Value) (leaves : List Leaf) :
    Prop where
  chain_eq : chain (staying texts) = chain ((leaves.filter Leaf.stays).map Leaf.pair)
  joined_eq : joined (staying texts) = joined ((leaves.filter Leaf.stays).map Leaf.pair)
  nil_iff : staying texts = [] ↔ leaves.filter Leaf.stays = []
  binds_eq : binds = (leaves.filter Leaf.stays).flatMap Leaf.binds

theorem Flattens.nil : Flattens [] [] [] := ⟨rfl, rfl, iff_of_true rfl rfl, rfl⟩

theorem Flattens.append {texts texts' : List (Joiner × String)} {binds binds' : List Value}
    {leaves leaves' : List Leaf} (h : Flattens texts binds leaves)
    (h' : Flattens texts' binds' leaves') :
    Flattens (texts ++ texts') (binds ++ binds') (leaves ++ leaves') := by
  refine ⟨?_, ?_, ?_, ?_⟩
  · rw [staying_append, List.filter_append, List.map_append]
    by_cases hnil : staying texts = []
    · rw [hnil, h.nil_iff.mp hnil, List.map_nil, List.nil_append, List.nil_append, h'.chain_eq]
    · have hleaves : (leaves.filter Leaf.stays).map Leaf.pair ≠ [] := by
        rwa [Ne, List.map_eq_nil_iff, ← h.nil_iff]
      rw [chain_append hnil, chain_append hleaves, h.chain_eq, h'.joined_eq]
  · rw [staying_append, List.filter_append, List.map_append, joined_append, joined_append, h.joined_eq,
      h'.joined_eq]
  · rw [staying_append, List.filter_append, List.append_eq_nil_iff, List.append_eq_nil_iff, h.nil_iff,
      h'.nil_iff]
  · rw [List.filter_append, List.flatMap_append, ← h.binds_eq, ← h'.binds_eq]

theorem Flattens.leaf (joiner : Joiner) (text : String) (binds : List Value) :
    Flattens [(joiner, text)] (kept text binds) [⟨joiner, text, binds⟩] := by
  cases h : Text.blank text with
  | true =>
    have hfilter : [(⟨joiner, text, binds⟩ : Leaf)].filter Leaf.stays = [] :=
      List.filter_cons_of_neg (by rw [Leaf.stays, h]; exact Bool.false_ne_true)
    have hstaying : staying [(joiner, text)] = [] := staying_cons_of_blank joiner h []
    rw [kept, if_pos h]
    refine ⟨?_, ?_, iff_of_true hstaying hfilter, ?_⟩
    · rw [hfilter, hstaying]; rfl
    · rw [hfilter, hstaying]; rfl
    · rw [hfilter]; rfl
  | false =>
    have hfilter : [(⟨joiner, text, binds⟩ : Leaf)].filter Leaf.stays = [⟨joiner, text, binds⟩] :=
      List.filter_cons_of_pos (by rw [Leaf.stays, h]; rfl)
    have hstaying : staying [(joiner, text)] = [(joiner, text)] := staying_cons_of_not_blank joiner h []
    rw [kept, if_neg (Bool.eq_false_iff.mp h)]
    refine ⟨?_, ?_, ?_, ?_⟩
    · rw [hfilter, hstaying]; rfl
    · rw [hfilter, hstaying]; rfl
    · rw [hfilter, hstaying]
      exact iff_of_false (List.cons_ne_nil _ _) (List.cons_ne_nil _ _)
    · rw [hfilter, List.flatMap_singleton]

theorem Leaf.filter_rejoin_nil (joiner : Joiner) {leaves : List Leaf}
    (h : leaves.filter Leaf.stays = []) : (Leaf.rejoin joiner leaves).filter Leaf.stays = [] := by
  induction leaves with
  | nil => rfl
  | cons l rest ih =>
    have hl : ¬ l.stays = true := (List.filter_eq_nil_iff.mp h) l List.mem_cons_self
    rw [List.filter_cons_of_neg hl] at h
    rw [Leaf.rejoin, if_neg hl, List.filter_cons_of_neg hl, ih h]

theorem Leaf.filter_rejoin_cons (joiner : Joiner) {leaves : List Leaf} {l : Leaf} {rest : List Leaf}
    (h : leaves.filter Leaf.stays = l :: rest) :
    (Leaf.rejoin joiner leaves).filter Leaf.stays = { l with joiner := joiner } :: rest := by
  induction leaves with
  | nil => cases h
  | cons other leaves ih =>
    by_cases hother : other.stays = true
    · rw [List.filter_cons_of_pos hother] at h
      obtain ⟨rfl, rfl⟩ := List.cons.inj h
      rw [Leaf.rejoin, if_pos hother]
      exact List.filter_cons_of_pos hother
    · rw [List.filter_cons_of_neg hother] at h
      rw [Leaf.rejoin, if_neg hother, List.filter_cons_of_neg hother, ih h]

theorem Flattens.rejoin {texts : List (Joiner × String)} {binds : List Value} {leaves : List Leaf}
    (h : Flattens texts binds leaves) (joiner : Joiner) :
    Flattens [(joiner, chain (staying texts))] (kept (chain (staying texts)) binds)
      (Leaf.rejoin joiner leaves) := by
  cases hleaves : leaves.filter Leaf.stays with
  | nil =>
    -- nothing stays: the level is an empty text, and so blank as a leaf
    have htexts : chain (staying texts) = "" := by rw [h.nil_iff.mpr hleaves]; rfl
    have hrejoin := Leaf.filter_rejoin_nil joiner hleaves
    rw [htexts]
    refine ⟨?_, ?_, iff_of_true rfl hrejoin, ?_⟩
    · rw [hrejoin]; rfl
    · rw [hrejoin]; rfl
    · rw [hrejoin]; rfl
  | cons l rest =>
    -- the first leaf that stays begins the chain, where no joiner shows, and may take the outer one
    have hne : staying texts ≠ [] := fun hnil => List.cons_ne_nil l rest (hleaves ▸ h.nil_iff.mp hnil)
    have hblank := chain_staying_of_ne_nil hne
    have hstaying := staying_cons_of_not_blank joiner hblank []
    have hrejoin := Leaf.filter_rejoin_cons joiner hleaves
    have hchain : chain (staying texts) = l.text ++ joined (rest.map Leaf.pair) := by
      rw [h.chain_eq, hleaves]
      rfl
    rw [kept, if_neg (Bool.eq_false_iff.mp hblank)]
    refine ⟨?_, ?_, ?_, ?_⟩
    · rw [hstaying, hrejoin, chain]
      exact String.append_empty.trans hchain
    · rw [hstaying, hrejoin, List.map_cons, joined_cons, joined_cons, hchain, ← String.append_assoc]
      exact String.append_empty
    · rw [hstaying, hrejoin]
      exact iff_of_false (List.cons_ne_nil _ _) (List.cons_ne_nil _ _)
    · rw [hrejoin, h.binds_eq, hleaves]
      rfl

theorem pairLeaves_flatten (joiner : Joiner) (alias? : Option String) (ps : List Pair) :
    Flattens ((pairTexts alias? ps).map (joiner, ·)) (pairBinds alias? ps)
      (ps.map (Pair.leaf joiner alias?)) := by
  induction ps with
  | nil => exact Flattens.nil
  | cons p rest ih =>
    cases p with
    | literal sql =>
      have hkept : kept sql [] = [] := by rw [kept, ite_self]
      exact (hkept ▸ Flattens.leaf joiner sql []).append ih
    | column name operand => exact (Flattens.leaf joiner _ operand.binds).append ih

theorem render_group_inherited (own? alias? : Option String) (entries : List Entry) :
    (Predicate.group own? entries).render (alias?.getD "") =
      chain (staying (entryTexts (own?.or alias?) entries)) := by
  rw [Predicate.render, joinLeaves_eq_chain]
  cases own? with
  | some name => rfl
  | none => rw [Option.none_or, Option.none_or, entryTexts_getD]

mutual

theorem entryLeaves_flatten (alias? : Option String) : (es : List Entry) → entriesMeet solid es →
    Flattens (entryTexts alias? es) (entryBinds alias? es) (entryLeaves alias? es)
  | [], _ => Flattens.nil
  | .mk joiner condition :: rest, h =>
    (conditionLeaves_flatten joiner alias? condition h.1).append (entryLeaves_flatten alias? rest h.2)

theorem conditionLeaves_flatten (joiner : Joiner) (alias? : Option String) :
    (c : Condition) → c.Meets solid →
      Flattens ((c.texts alias?).map (joiner, ·)) (c.binds alias?) (c.leaves joiner alias?)
  | .raw sql binds, _ => Flattens.leaf joiner sql binds
  | .predicate (.group own? entries), h => by
    -- the text is read under the alias it inherits, the values under the group's own alias only
    have ih := entryLeaves_flatten (own?.or alias?) entries h.2
    have hbinds := entryBinds_alias h.2 own? (own?.or alias?)
    rw [Condition.texts, Condition.binds, Condition.leaves, Predicate.binds, render_group_inherited,
      hbinds]
    exact ih.rejoin joiner
  | .predicate (.template sql binds), _ => Flattens.leaf joiner _ binds
  | .predicate (.not inner), _ => Flattens.leaf joiner _ inner.binds
  | .pairs ps, _ => pairLeaves_flatten joiner alias? ps

end

/-- A composite without hollow templates compiles to its flattened leaves, each but the first behind
its own joiner, with their values in the same order; blank leaves are gone with their values. -/
theorem compile_eq_leaves (c : Composite) (h : entriesMeet solid c.entries) :
    c.compile =
      ⟨chain (((entryLeaves c.alias? c.entries).filter Leaf.stays).map Leaf.pair),
        ((entryLeaves c.alias? c.entries).filter Leaf.stays).flatMap Leaf.binds⟩ := by
  have hflat := entryLeaves_flatten c.alias? c.entries h
  rw [Composite.compile, Composite.build, joinLeaves_eq_chain, hflat.chain_eq, hflat.binds_eq]

theorem compile_eq_leaves_nested :
    let ps : Condition :=
      .pairs [.column "a" (.value .null), .literal " ",
        .column "b.c" (.predicate (.template "%s > ?" [.list []]))]
    let inner : List Entry :=
      [.mk .or (.predicate (.group none [])), .mk .and (.raw " " [.null]), .mk .or ps]
    let c : Composite :=
      ⟨[.mk .and (.raw "x = y" []), .mk .and (.predicate (.group none inner)),
        .mk .or (.predicate (.not (.group (some "v") [.mk .and ps])))], some "u"⟩
    c.compile.sql = "x = y AND u.a = ? OR b.c > ? OR NOT (v.a = ? AND b.c > ?)" ∧
      (c.compile.binds == [.null, .list [], .null, .list []]) = true := by
  intro ps inner c
  have htemplate : ¬ Hollow "%s > ?" := by decide
  have h : entriesMeet solid c.entries := by
    have hps : ps.Meets solid := ⟨⟨trivial, trivial⟩, trivial, ⟨trivial, htemplate⟩, trivial⟩
    exact ⟨trivial, ⟨fun _ _ => trivial, ⟨fun _ _ => trivial, trivial⟩, trivial, hps, trivial⟩,
      ⟨fun _ _ => trivial, hps, trivial⟩, trivial⟩
  rw [compile_eq_leaves c h]
  exact ⟨by decide +kernel, by decide +kernel⟩

end BoundSql
