import BoundSql.Proofs.Spelling

/-! One qualifier for a query, decided by its first table and declared by every statement. -/

namespace BoundSql

open Fragment

def Edit.table? : Edit → Option TableRef
  | .table t => some t
  | _ => none

def Edit.join? : Edit → Option Join
  | .join target on => some ⟨target, on⟩
  | _ => none

def Predicate.inner? : Predicate → Option (List Entry)
  | .template _ _ => none
  | .not inner => inner.inner?
  | .group none entries => some entries
  | .group (some _) _ => none

/-- A source among entries or in a group of theirs, reached through groups without an alias and negations.
A group that stands for a column is not reached: the column is its alias. -/
inductive Reaches : List Entry → Source → Prop
  | here {entries : List Entry} {joiner : Joiner} {s : Source}
    (h : (joiner, s) ∈ entries.flatMap Entry.sources) : Reaches entries s
  | inside {entries inner : List Entry} {joiner : Joiner} {p : Predicate} {s : Source}
    (h : (joiner, .unnamed p) ∈ entries.flatMap Entry.sources) (hp : p.inner? = some inner)
    (hs : Reaches inner s) : Reaches entries s

namespace Fragment

theorem infix_wrapped (before after : String) (fs : List Fragment) : fs <:+: wrapped before after fs :=
  ⟨[glue before], [glue after], rfl⟩

theorem infix_negated (fs : List Fragment) : fs <:+: negated fs := by
  unfold negated
  split
  · exact List.infix_rfl
  · exact infix_wrapped _ _ fs

theorem infix_flatMap {ι : Type} {xs : List ι} {x : ι} (hx : x ∈ xs) (f : ι → List Fragment) :
    f x <:+: xs.flatMap f := by
  obtain ⟨before, after, rfl⟩ := List.append_of_mem hx
  rw [List.flatMap_append, List.flatMap_cons, ← List.append_assoc]
  exact List.infix_append _ _ _

theorem infix_linked {leaves : List (Joiner × List Fragment)} {l : Joiner × List Fragment}
    (hl : l ∈ leaves) (hblank : Text.blank (sqlOf l.2) = false) : l.2 <:+: linked leaves := by
  have hstays : l ∈ leaves.filter fun l => !Text.blank (sqlOf l.2) :=
    List.mem_filter.mpr ⟨hl, by rw [hblank]; rfl⟩
  unfold linked
  cases hfilter : leaves.filter fun l => !Text.blank (sqlOf l.2) with
  | nil =>
    rw [hfilter] at hstays
    exact absurd hstays List.not_mem_nil
  | cons first rest =>
    rw [hfilter] at hstays
    rcases List.mem_cons.mp hstays with rfl | hrest
    · exact (List.prefix_append _ _).isInfix
    · have hlinked := infix_flatMap hrest fun r => glue r.1.sql :: r.2
      have htail : l.2 <:+: glue l.1.sql :: l.2 := (List.suffix_cons _ _).isInfix
      exact (htail.trans hlinked).trans (List.suffix_append _ _).isInfix

theorem infix_separated {sep : String} {groups : List (List Fragment)} {fs : List Fragment}
    (h : fs ∈ groups) : fs <:+: separated sep groups := by
  unfold separated
  induction groups with
  | nil => exact absurd h List.not_mem_nil
  | cons first rest ih =>
    cases rest with
    | nil =>
      simp only [List.intercalate_singleton, List.mem_singleton.mp h]
      exact List.infix_rfl
    | cons second rest =>
      rw [List.intercalate_cons_cons]
      rcases List.mem_cons.mp h with rfl | hrest
      · rw [List.append_assoc]
        exact (List.prefix_append _ _).isInfix
      · exact (ih hrest).trans (List.suffix_append _ _).isInfix

theorem blank_of_isInfix {fs gs : List Fragment} (h : fs <:+: gs) (hfs : Text.blank (sqlOf fs) = false) :
    Text.blank (sqlOf gs) = false := by
  obtain ⟨before, after, rfl⟩ := h
  rw [sqlOf_append, sqlOf_append, Text.blank_append, Text.blank_append, hfs, Bool.and_false,
    Bool.false_and]

end Fragment

theorem Predicate.infix_fragments {p : Predicate} {inner : List Entry} (hp : p.inner? = some inner)
    (a : String) : linked (entryFragments (some a) inner) <:+: p.fragments a := by
  induction p with
  | template sql binds => cases hp
  | not p ih => exact (ih hp).trans (infix_negated _)
  | group own? entries ih =>
    cases own? with
    | some own => cases hp
    | none =>
      cases hp
      exact List.infix_rfl

theorem Reaches.isInfix {entries : List Entry} {s : Source} (h : Reaches entries s) {a : String}
    (hs : Text.blank (sqlOf (s.fragments (some a))) = false) :
    s.fragments (some a) <:+: linked (entryFragments (some a) entries) := by
  have hleaf {entries : List Entry} {joiner : Joiner} {s : Source}
      (hmem : (joiner, s) ∈ entries.flatMap Entry.sources)
      (hblank : Text.blank (sqlOf (s.fragments (some a))) = false) :
      s.fragments (some a) <:+: linked (entryFragments (some a) entries) := by
    have hleaf : (joiner, s.fragments (some a)) ∈
        (entries.flatMap Entry.sources).map fun s => (s.1, s.2.fragments (some a)) :=
      List.mem_map.mpr ⟨(joiner, s), hmem, rfl⟩
    rw [entryFragments_eq_map]
    exact infix_linked hleaf hblank
  induction h with
  | here hmem => exact hleaf hmem hs
  | @inside entries inner joiner p s hmem hp _ ih =>
    have hinner : s.fragments (some a) <:+: p.fragments a := (ih hs).trans (p.infix_fragments hp a)
    exact hinner.trans (hleaf hmem (blank_of_isInfix hinner hs))

def StatementKind.tableWord : StatementKind → String
  | select => "FROM "
  | insert => "INSERT INTO "
  | update => "UPDATE "
  | delete => "DELETE FROM "

def TableRef.renderIn (t : TableRef) : StatementKind → String
  | .select => t.render
  | .insert | .update | .delete => t.renderForWrite

theorem TableRef.renderIn_declares (t : TableRef) (kind : StatementKind) :
    t.renderIn kind = t.table ++ " AS " ++ t.qualifier ∨
      t.renderIn kind = t.table ∧ t.table = t.qualifier := by
  have hwrite : t.renderForWrite = t.table ++ " AS " ++ t.qualifier ∨
      t.renderForWrite = t.table ∧ t.table = t.qualifier := by
    unfold renderForWrite qualifier
    cases t.alias? with
    | none => exact .inr ⟨rfl, rfl⟩
    | some name =>
      dsimp only
      split
      · next h => exact .inr ⟨rfl, h.symm⟩
      · exact .inl rfl
  cases kind with
  | select =>
    unfold renderIn render qualifier
    cases t.alias? with
    | none => exact .inr ⟨rfl, rfl⟩
    | some name => exact .inl rfl
  | _ => exact hwrite

namespace Query

variable {α : Type}

/-- A query that calls have built, in their order. Between the calls rows may be handed out another way,
and a copy of a query is the query. -/
inductive Built (primaryKey : String) : {α : Type} → List Edit → Query α → Prop
  | start : Built primaryKey [] (start primaryKey)
  | edit {α : Type} {es : List Edit} {q : Query α} (h : Built primaryKey es q) (e : Edit) :
    Built primaryKey (es ++ [e]) (q.edit e)
  | fetchAs {α β : Type} {es : List Edit} {q : Query α} (h : Built primaryKey es q) (f : Fetch β) :
    Built primaryKey es (q.fetchAs f)

theorem uniform_start (primaryKey : String) : (start primaryKey).Uniform := ⟨rfl, rfl, rfl⟩

theorem Uniform.addTable {q : Query α} (h : q.Uniform) (t : TableRef) : (q.addTable t).Uniform := by
  have hfirst := h.first
  unfold Query.addTable
  split
  · next name hq =>
    -- a table stands before this one
    rw [hq] at hfirst
    obtain ⟨first, hhead, -⟩ := Option.map_eq_some_iff.mp hfirst.symm
    refine ⟨?_, h.whereAlias, h.havingAlias⟩
    dsimp only
    rw [h.first, List.head?_append, hhead]
    rfl
  · next hq =>
    rw [hq] at hfirst
    have hhead : q.tables.head? = none := Option.map_eq_none_iff.mp hfirst.symm
    refine ⟨?_, rfl, rfl⟩
    dsimp only
    rw [List.head?_append, hhead]
    rfl

theorem Uniform.edit {q : Query α} (h : q.Uniform) (e : Edit) : (q.edit e).Uniform := by
  cases e with
  | table t => exact h.addTable t
  | _ => exact ⟨h.first, h.whereAlias, h.havingAlias⟩

theorem tables_edit (q : Query α) (e : Edit) : (q.edit e).tables = q.tables ++ e.table?.toList := by
  cases e with
  | table t =>
    simp only [Query.edit, addTable]
    cases q.qualifier <;> rfl
  | _ => exact (List.append_nil _).symm

theorem joins_edit (q : Query α) (e : Edit) : (q.edit e).joins = q.joins ++ e.join?.toList := by
  cases e with
  | table t =>
    simp only [Query.edit, addTable]
    cases q.qualifier <;> exact (List.append_nil _).symm
  | join target on => rfl
  | _ => exact (List.append_nil _).symm

section

variable {primaryKey : String} {es : List Edit} {q : Query α}

theorem Built.uniform (h : Built primaryKey es q) : q.Uniform := by
  induction h with
  | start => exact uniform_start primaryKey
  | edit _ e ih => exact ih.edit e
  | fetchAs _ f ih => exact ⟨ih.first, ih.whereAlias, ih.havingAlias⟩

theorem Built.tables_eq (h : Built primaryKey es q) : q.tables = es.filterMap Edit.table? := by
  induction h with
  | start => rfl
  | edit _ e ih =>
    rw [tables_edit, ih, List.filterMap_append]
    cases e <;> rfl
  | fetchAs _ f ih => exact ih

theorem Built.edits (h : Built primaryKey es q) (es' : List Edit) :
    Built primaryKey (es ++ es') (q.edits es') := by
  induction es' generalizing es q with
  | nil =>
    rw [List.append_nil]
    exact h
  | cons e rest ih =>
    rw [List.append_cons]
    exact ih (h.edit e)

theorem Built.joins_eq (h : Built primaryKey es q) : q.joins = es.filterMap Edit.join? := by
  induction h with
  | start => rfl
  | edit _ e ih =>
    rw [joins_edit, ih, List.filterMap_append]
    cases e <;> rfl
  | fetchAs _ f ih => exact ih

end

def conditions (q : Query α) : StatementKind → List Composite
  | .select => [q.whereClause, q.havingClause]
  | .insert => []
  | .update | .delete => [q.whereClause]

def selection (q : Query α) (a : String) : List String :=
  if q.columns.isEmpty then [dotted a "*"]
  else q.columns.map fun c => c.2.elim (dotted a c.1) (aliased (dotted a c.1))

/-- The parts of the statements of a query with the qualifier `a`: its tables, its names behind the
qualifier, and its joins and texts as they are. -/
inductive Part (q : Query α) (a : String) : StatementKind → List Fragment → Prop
  | columns : Part q a .select [glue ("SELECT " ++ commas (q.selection a))]
  | tables {kind : StatementKind} (hkind : kind ≠ .insert) :
    Part q a kind [glue (kind.tableWord ++ commas (q.tables.map (·.renderIn kind)))]
  | join {kind : StatementKind} (hkind : kind = .select ∨ kind = .delete) {j : Join} (hj : j ∈ q.joins) :
    Part q a kind j.fragments
  | fixed {kind : StatementKind} {c : Composite} (hc : c ∈ q.conditions kind) {sql : String}
    {binds : List Value} (hs : Reaches c.entries (.fixed sql binds)) (hblank : Text.blank sql = false) :
    Part q a kind [⟨sql, binds⟩]
  | column {kind : StatementKind} {c : Composite} (hc : c ∈ q.conditions kind) {name : String}
    {p : Predicate} (hs : Reaches c.entries (.column name p))
    (hblank : Text.blank (p.render (dotted a name)) = false) :
    Part q a kind (p.fragments (dotted a name))
  | grouping (hgroup : q.grouping ≠ []) :
    Part q a .select [glue ("GROUP BY " ++ commas (q.grouping.map (dotted a)))]
  | ordering {kind : StatementKind} (hkind : kind = .select ∨ kind = .delete) (horder : q.ordering ≠ []) :
    Part q a kind
      [glue ("ORDER BY " ++ commas (q.ordering.map fun o => dotted a o.1 ++ " " ++ o.2.sql))]

section

variable {q : Query α} {a : String}

theorem columnList_dotted (hq : q.qualifier = some a) (ha : a ≠ "") :
    q.columnList = commas (q.selection a) := by
  unfold columnList selection
  rw [hq]
  split
  · rw [columnize_of_ne_empty ha, commas, String.intercalate_singleton]
  · simp only [columnize_of_ne_empty ha]

theorem groupClauses_dotted (hq : q.qualifier = some a) (ha : a ≠ "") (hgroup : q.grouping ≠ []) :
    q.groupClauses = [glue ("GROUP BY " ++ commas (q.grouping.map (dotted a)))] := by
  simp only [groupClauses, hq, columnize_of_ne_empty ha, List.isEmpty_iff, hgroup, if_false]
  rfl

theorem orderClauses_dotted (hq : q.qualifier = some a) (ha : a ≠ "") (horder : q.ordering ≠ []) :
    q.orderClauses =
      [glue ("ORDER BY " ++ commas (q.ordering.map fun o => dotted a o.1 ++ " " ++ o.2.sql))] := by
  simp only [orderClauses, hq, columnize_of_ne_empty ha, List.isEmpty_iff, horder, if_false]
  rfl

theorem infix_conditionFragments (word : String) {c : Composite} {fs : List Fragment}
    (h : fs <:+: c.fragments) (hfs : Text.blank (sqlOf fs) = false) :
    ∃ gs ∈ conditionFragments word c, fs <:+: gs := by
  have hempty := isEmpty_eq_false_of_not_blank (blank_of_isInfix h hfs)
  refine ⟨glue (word ++ " ") :: c.fragments, ?_, h.trans (List.suffix_cons _ _).isInfix⟩
  rw [conditionFragments, hempty]
  exact List.mem_singleton_self _

theorem mem_conditions {kind : StatementKind} {c : Composite} (hc : c ∈ q.conditions kind) :
    kind ≠ .insert ∧ c = q.whereClause ∨ kind = .select ∧ c = q.havingClause := by
  cases kind with
  | select =>
    rcases List.mem_cons.mp hc with h | h
    · exact .inl ⟨by decide, h⟩
    · exact .inr ⟨rfl, List.mem_singleton.mp h⟩
  | insert => exact absurd hc List.not_mem_nil
  | update => exact .inl ⟨by decide, List.mem_singleton.mp hc⟩
  | delete => exact .inl ⟨by decide, List.mem_singleton.mp hc⟩

theorem exists_conditionFragments {kind : StatementKind} {c : Composite} (hc : c ∈ q.conditions kind)
    (data : Data) : ∃ word, ∀ gs ∈ conditionFragments word c, gs ∈ q.clauseFragments data kind := by
  rcases mem_conditions hc with ⟨hkind, rfl⟩ | ⟨rfl, rfl⟩
  · refine ⟨"WHERE", fun gs h => ?_⟩
    cases kind with
    | select =>
      simp only [clauseFragments, List.mem_cons, List.mem_append]
      exact .inr (.inr (.inl (.inl (.inl (.inr h)))))
    | insert => exact absurd rfl hkind
    | update => exact List.mem_cons_of_mem _ (List.mem_cons_of_mem _ h)
    | delete =>
      simp only [clauseFragments, List.mem_cons, List.mem_append]
      exact .inr (.inl (.inr h))
  · refine ⟨"HAVING", fun gs h => ?_⟩
    simp only [clauseFragments, List.mem_cons, List.mem_append]
    exact .inr (.inr (.inl (.inr h)))

theorem Uniform.alias_eq (h : q.Uniform) {kind : StatementKind} {c : Composite}
    (hc : c ∈ q.conditions kind) : c.alias? = q.qualifier := by
  rcases mem_conditions hc with ⟨-, rfl⟩ | ⟨-, rfl⟩
  · exact h.whereAlias
  · exact h.havingAlias

theorem Uniform.infix_of_reaches (h : q.Uniform) (hq : q.qualifier = some a) (data : Data)
    {kind : StatementKind} {c : Composite} (hc : c ∈ q.conditions kind) {s : Source}
    (hs : Reaches c.entries s) (hblank : Text.blank (sqlOf (s.fragments (some a))) = false) :
    ∃ gs ∈ q.clauseFragments data kind, s.fragments (some a) <:+: gs := by
  have hc' : c.fragments = linked (entryFragments (some a) c.entries) := by
    rw [Composite.fragments, h.alias_eq hc, hq]
  have hinfix : s.fragments (some a) <:+: c.fragments := hc' ▸ hs.isInfix hblank
  obtain ⟨word, hword⟩ := exists_conditionFragments hc data
  obtain ⟨gs, hgs, hin⟩ := infix_conditionFragments word hinfix hblank
  exact ⟨gs, hword gs hgs, hin⟩

theorem Uniform.part_infix (h : q.Uniform) (hq : q.qualifier = some a) (ha : a ≠ "") (data : Data)
    {kind : StatementKind} {fs : List Fragment} (hfs : q.Part a kind fs) :
    ∃ gs ∈ q.clauseFragments data kind, fs <:+: gs := by
  cases hfs with
  | columns =>
    refine ⟨_, ?_, List.infix_rfl⟩
    rw [← columnList_dotted hq ha]
    exact List.mem_cons_self
  | tables hkind =>
    refine ⟨_, ?_, List.infix_rfl⟩
    cases kind with
    | select => exact List.mem_cons_of_mem _ List.mem_cons_self
    | insert => exact absurd rfl hkind
    | update => exact List.mem_cons_self
    | delete => exact List.mem_cons_self
  | @join _ hkind j hj =>
    have hmem : j.fragments ∈ q.joins.map Join.fragments := List.mem_map_of_mem hj
    refine ⟨_, ?_, List.infix_rfl⟩
    rcases hkind with rfl | rfl
    · simp only [clauseFragments, List.mem_cons, List.mem_append]
      exact .inr (.inr (.inl (.inl (.inl (.inl hmem)))))
    · simp only [clauseFragments, List.mem_cons, List.mem_append]
      exact .inr (.inl (.inl hmem))
  | fixed hc hs hblank =>
    refine h.infix_of_reaches hq data hc hs ?_
    rw [Source.fragments, sqlOf_singleton]
    exact hblank
  | @column _ c hc name p hs hblank =>
    have hcolumn : (Source.column name p).fragments (some a) = p.fragments (dotted a name) := by
      rw [Source.fragments, columnize_of_ne_empty ha]
    rw [← hcolumn]
    refine h.infix_of_reaches hq data hc hs ?_
    rw [hcolumn, p.sqlOf_fragments]
    exact hblank
  | grouping hgroup =>
    refine ⟨_, ?_, List.infix_rfl⟩
    simp only [clauseFragments, List.mem_cons, List.mem_append, groupClauses_dotted hq ha hgroup]
    exact .inr (.inr (.inl (.inl (.inr List.mem_cons_self))))
  | ordering hkind horder =>
    refine ⟨_, ?_, List.infix_rfl⟩
    rcases hkind with rfl | rfl
    · simp only [clauseFragments, List.mem_cons, List.mem_append, orderClauses_dotted hq ha horder]
      exact .inr (.inr (.inr List.mem_cons_self))
    · simp only [clauseFragments, List.mem_cons, List.mem_append, orderClauses_dotted hq ha horder]
      exact .inr (.inr List.mem_cons_self)

end

/-- However a query was built, before the first table nothing in it has a qualifier, and from then on the
query and its two conditions have the one of that table, while the joins are those of the calls. If it is
not empty, each statement has the text of the query with its names written out behind it, has all parts
of the query among its fragments, and lists the first table in a form that declares the qualifier. -/
theorem Built.qualified {primaryKey : String} {es : List Edit} {q : Query α}
    (h : Built primaryKey es q) :
    let tables := es.filterMap Edit.table?
    let qualifier := tables.head?.map TableRef.qualifier
    (q.qualifier = qualifier ∧ q.whereClause.alias? = qualifier ∧ q.havingClause.alias? = qualifier ∧
      q.tables = tables ∧ q.joins = es.filterMap Edit.join?) ∧
    ∀ t rest, tables = t :: rest → t.qualifier ≠ "" → ∀ data kind,
      ((q.spelled t.qualifier).statement data kind).map (·.sql) = (q.statement data kind).map (·.sql) ∧
      (t.renderIn kind = t.table ++ " AS " ++ t.qualifier ∨
        t.renderIn kind = t.table ∧ t.table = t.qualifier) ∧
      ∀ s, q.statement data kind = .ok s →
        sqlOf (q.fragments data kind) = s.sql ∧
          ∀ fs, q.Part t.qualifier kind fs → fs <:+: q.fragments data kind := by
  intro tables qualifier
  have huniform := h.uniform
  have hqualifier : q.qualifier = qualifier := by
    rw [huniform.first, h.tables_eq]
  refine ⟨⟨hqualifier, huniform.whereAlias.trans hqualifier, huniform.havingAlias.trans hqualifier,
    h.tables_eq, h.joins_eq⟩, ?_⟩
  intro t rest htables ha data kind
  have hq : q.qualifier = some t.qualifier := by
    rw [hqualifier]
    change tables.head?.map TableRef.qualifier = _
    rw [htables]
    rfl
  refine ⟨huniform.sql_statement_spelled hq ha data kind, t.renderIn_declares kind, ?_⟩
  intro s hs
  refine ⟨sqlOf_fragments hs, fun fs hfs => ?_⟩
  obtain ⟨gs, hgs, hin⟩ := huniform.part_infix hq ha data hfs
  exact (hin.trans (infix_separated hgs)).trans (List.prefix_append _ _).isInfix

theorem Built.qualified_late_table :
    let inner : List Entry := [.mk .or (.pairs [.column "a" (.value .null), .literal "b = c"])]
    let before : List Edit := [.filter .and (.key (.list [.null])), .groupBy ["kind", "MAX(n)"]]
    let after : List Edit :=
      [.table ⟨"users", some "u"⟩, .table ⟨"posts", some "p"⟩, .join "roles r" none,
        .exclude .or (.condition (.predicate (.group none inner))), .orderBy "p.at" .desc]
    let q := (((Query.start "id").edits before).fetchAs (Fetch.object : Fetch Json)).edits after
    Built "id" (before ++ after) q ∧ q.havingClause.alias? = some "u" ∧
      ∃ s, q.statement [] .select = .ok s ∧
        s.sql = "SELECT u.* FROM users AS u, posts AS p INNER JOIN roles r WHERE u.id IN ?" ++
          " AND NOT (u.a = ? OR b = c) GROUP BY u.kind, MAX(n) ORDER BY p.at DESC" ∧
        ((q.spelled "u").statement [] .select).map (·.sql) = .ok s.sql ∧
        [⟨"u.a = ?", [.null]⟩] <:+: q.fragments [] .select := by
  intro inner before after q
  have hbuilt : Built "id" (before ++ after) q := ((Built.start.edits before).fetchAs _).edits after
  obtain ⟨⟨-, -, hhaving, -, -⟩, hqualified⟩ := hbuilt.qualified
  obtain ⟨hspelled, -, hparts⟩ := hqualified ⟨"users", some "u"⟩ _ rfl (by decide) [] .select
  have hs : q.statement [] .select = .ok _ := rfl
  have hreaches : Reaches q.whereClause.entries (.column "a" (.template "%s = ?" [.null])) :=
    .inside (.tail _ (.head _)) rfl (.inside (.head _) rfl (.here (.head _)))
  have hpart : q.Part "u" .select [⟨"u.a = ?", [.null]⟩] := .column (.head _) hreaches (by decide)
  obtain ⟨-, hinfix⟩ := hparts _ hs
  exact ⟨hbuilt, hhaving, _, hs, by decide +kernel, hspelled, hinfix _ hpart⟩

end Query

end BoundSql
