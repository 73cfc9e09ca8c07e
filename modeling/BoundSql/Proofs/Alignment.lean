import BoundSql.Proofs.Closed
import BoundSql.Proofs.Emission

/-! The placeholder of a number stands in the fragment that has the parameter of that number. -/

namespace BoundSql

open Fragment

def aligned : Demands where
  template := Matched
  raw := Matched
  literal sql := Matched sql []
  name := Bare

/-- The fragments have these values, and as many placeholders each as values. -/
structure Carries (fs : List Fragment) (binds : List Value) : Prop where
  matched : ∀ f ∈ fs, Matched f.sql f.binds
  binds_eq : bindsOf fs = binds

namespace Carries

theorem nil : Carries [] [] := ⟨fun _ hf => absurd hf List.not_mem_nil, rfl⟩

theorem single {sql : String} {binds : List Value} (h : Matched sql binds) :
    Carries [⟨sql, binds⟩] binds :=
  ⟨fun _ hf => List.mem_singleton.mp hf ▸ h, List.append_nil binds⟩

theorem append {fs gs : List Fragment} {xs ys : List Value} (hf : Carries fs xs) (hg : Carries gs ys) :
    Carries (fs ++ gs) (xs ++ ys) := by
  refine ⟨fun f h => ?_, by rw [bindsOf_append, hf.binds_eq, hg.binds_eq]⟩
  rcases List.mem_append.mp h with h | h
  · exact hf.matched f h
  · exact hg.matched f h

theorem behind {sql : String} (hsql : Matched sql []) {fs : List Fragment} {binds : List Value}
    (h : Carries fs binds) : Carries (glue sql :: fs) binds :=
  (single hsql).append h

theorem wrapped {before after : String} (hbefore : Matched before []) (hafter : Matched after [])
    {fs : List Fragment} {binds : List Value} (h : Carries fs binds) :
    Carries (wrapped before after fs) binds := by
  have hback := h.append (single hafter)
  rw [List.append_nil] at hback
  exact behind hbefore hback

theorem negated {fs : List Fragment} {binds : List Value} (h : Carries fs binds) :
    Carries (negated fs) binds := by
  rw [Fragment.negated]
  split
  · exact h
  · exact h.wrapped (by decide) (by decide)

theorem flatMap {ι : Type} {xs : List ι} {fs : ι → List Fragment} {binds : ι → List Value}
    (h : ∀ x ∈ xs, Carries (fs x) (binds x)) : Carries (xs.flatMap fs) (xs.flatMap binds) := by
  induction xs with
  | nil => exact nil
  | cons x rest ih =>
    rw [List.flatMap_cons, List.flatMap_cons]
    exact (h x List.mem_cons_self).append (ih fun y hy => h y (List.mem_cons_of_mem x hy))

theorem matched_sqlOf {fs : List Fragment} {binds : List Value} (h : Carries fs binds) :
    Matched (sqlOf fs) binds := by
  obtain ⟨hmatched, rfl⟩ := h
  induction fs with
  | nil => exact ⟨rfl, rfl⟩
  | cons f rest ih =>
    rw [sqlOf_cons]
    exact (hmatched f List.mem_cons_self).append (ih fun g hg => hmatched g (List.mem_cons_of_mem f hg))

theorem linked {leaves : List (Joiner × List Fragment)} {binds : Joiner × List Fragment → List Value}
    (h : ∀ l ∈ leaves, Carries l.2 (binds l)) : Carries (linked leaves) (leaves.flatMap binds) := by
  have hstay : leaves.flatMap binds =
      (leaves.filter fun l => !Text.blank (sqlOf l.2)).flatMap binds := by
    induction leaves with
    | nil => rfl
    | cons l rest ih =>
      have hl := (h l List.mem_cons_self).matched_sqlOf
      have hrest := ih fun m hm => h m (List.mem_cons_of_mem l hm)
      cases hblank : Text.blank (sqlOf l.2) with
      | true =>
        -- a blank text has no placeholders, so as many values
        have hnone : binds l = [] :=
          List.eq_nil_of_length_eq_zero (hl.2.symm.trans (placeholders_of_blank hblank))
        rw [List.flatMap_cons, hnone, hrest, List.filter_cons_of_neg (by simp only [hblank]; decide)]
        rfl
      | false =>
        rw [List.flatMap_cons, hrest, List.filter_cons_of_pos (by simp only [hblank]; rfl),
          List.flatMap_cons]
  have hleaf : ∀ l ∈ leaves.filter fun l => !Text.blank (sqlOf l.2), Carries l.2 (binds l) :=
    fun l hl => h l (List.mem_filter.mp hl).1
  have hjoiner (j : Joiner) : Matched j.sql [] := by cases j <;> decide
  rw [hstay, Fragment.linked]
  cases hfilter : leaves.filter fun l => !Text.blank (sqlOf l.2) with
  | nil => exact nil
  | cons l rest =>
    rw [hfilter] at hleaf
    rw [List.flatMap_cons]
    refine (hleaf l List.mem_cons_self).append (flatMap fun r hr => ?_)
    exact behind (hjoiner r.1) (hleaf r (List.mem_cons_of_mem l hr))

theorem separated {sep : String} (hsep : Matched sep []) {groups : List (List Fragment)}
    {binds : List Value} (h : Carries groups.flatten binds) : Carries (separated sep groups) binds := by
  obtain ⟨hmatched, rfl⟩ := h
  rw [Fragment.separated]
  induction groups with
  | nil => exact nil
  | cons fs rest ih =>
    rw [List.flatten_cons] at hmatched ⊢
    have hfs : Carries fs (bindsOf fs) := ⟨fun f hf => hmatched f (List.mem_append_left _ hf), rfl⟩
    have hrest := ih fun f hf => hmatched f (List.mem_append_right fs hf)
    cases rest with
    | nil =>
      rw [List.intercalate_singleton, List.flatten_nil, List.append_nil]
      exact hfs
    | cons gs rest =>
      rw [List.intercalate_cons_cons, bindsOf_append, List.append_assoc]
      exact hfs.append (behind hsep hrest)

end Carries

theorem aligned_comparison (v : Value) : aligned.template v.comparison [v] := by
  have hmember : Closed "%s IN ?" ∧ placeholders "%s IN ?" = 1 := by decide
  have hequal : Closed "%s = ?" ∧ placeholders "%s = ?" = 1 := by decide
  unfold Value.comparison
  split
  · exact hmember
  · exact hequal

theorem Source.carries {s : Source} (h : s.Meets aligned) {alias? : Option String}
    (halias : ∀ name ∈ alias?, Bare name)
    (ih : ∀ p ∈ s.predicate?, p.Meets aligned → ∀ column, Bare column →
      Carries (p.fragments column) p.binds) : Carries (s.fragments alias?) s.binds := by
  have hempty : Bare "" := rfl
  cases s with
  | fixed sql binds =>
    rcases h with h | ⟨h, rfl⟩
    · exact Carries.single h
    · exact Carries.single h
  | unnamed p =>
    refine ih p rfl h _ ?_
    cases alias? with
    | none => exact hempty
    | some name => exact halias name rfl
  | column name p => exact ih p rfl h.2 _ (h.1.columnize halias)

theorem entries_carry {entries : List Entry} (h : entriesMeet aligned entries)
    {own? alias? : Option String} (hown : ∀ name ∈ own?, Bare name) (halias : ∀ name ∈ alias?, Bare name)
    (ih : ∀ s ∈ entries.flatMap Entry.sources, ∀ p ∈ s.2.predicate?, p.Meets aligned →
      ∀ column, Bare column → Carries (p.fragments column) p.binds) :
    Carries (linked (entryFragments alias? entries)) (entryBinds own? entries) := by
  have hsource {name? : Option String} (hname : ∀ name ∈ name?, Bare name) :
      ∀ s ∈ entries.flatMap Entry.sources, Carries (s.2.fragments name?) s.2.binds :=
    fun s hs => Source.carries (h.source aligned_comparison s hs) hname (ih s hs)
  -- a source that is matched loses no values where its text is blank
  have hkept : ∀ s ∈ entries.flatMap Entry.sources, kept (s.2.text own?) s.2.binds = s.2.binds := by
    intro s hs
    have hmatched := (hsource hown s hs).matched_sqlOf
    rw [Source.sqlOf_fragments fun p _ => p.sqlOf_fragments] at hmatched
    exact hmatched.kept
  have hlinked : Carries
      (linked ((entries.flatMap Entry.sources).map fun s => (s.1, s.2.fragments alias?)))
      (((entries.flatMap Entry.sources).map fun s => (s.1, s.2.fragments alias?)).flatMap
        fun l => bindsOf l.2) := by
    refine Carries.linked fun l hl => ?_
    obtain ⟨s, hs, rfl⟩ := List.mem_map.mp hl
    exact ⟨(hsource halias s hs).matched, rfl⟩
  have hbinds : ((entries.flatMap Entry.sources).flatMap fun s => bindsOf (s.2.fragments alias?)) =
      (entries.flatMap Entry.sources).flatMap fun s => kept (s.2.text own?) s.2.binds := by
    refine congrArg List.flatten (List.map_congr_left fun s hs => ?_)
    rw [(hsource halias s hs).binds_eq, hkept s hs]
  rw [List.flatMap_map, hbinds, ← entryFragments_eq_map, ← entryBinds_eq_flatMap] at hlinked
  exact hlinked

theorem Predicate.carries {p : Predicate} (h : p.Meets aligned) {column : String}
    (hcolumn : Bare column) : Carries (p.fragments column) p.binds := by
  induction p generalizing column with
  | template sql binds => exact Carries.single (h.fillTemplate hcolumn)
  | not inner ih => exact (ih h hcolumn).negated
  | group own? entries ih =>
    have halias : ∀ name ∈ own?.or (some column), Bare name := by
      intro name hname
      cases own? with
      | none => exact Option.mem_some_iff.mp hname ▸ hcolumn
      | some own => exact h.1 name hname
    exact entries_carry h.2 h.1 halias fun s hs p hp hmeets c hc => ih s hs p hp hmeets hc

def Composite.Aligned (c : Composite) : Prop := c.toPredicate.Meets aligned

theorem Composite.Aligned.carries {c : Composite} (h : c.Aligned) :
    Carries c.fragments c.compile.binds :=
  entries_carry h.2 h.1 h.1 fun _ _ _ _ hmeets _ hc => Predicate.carries hmeets hc

theorem Composite.Aligned.push {c : Composite} (h : c.Aligned) (joiner : Joiner) {condition : Condition}
    (hcondition : condition.Meets aligned) : (c.push joiner condition).Aligned :=
  ⟨h.1, entriesMeet.append h.2 ⟨hcondition, trivial⟩⟩

theorem Composite.aligned_empty : Composite.empty.Aligned :=
  ⟨fun _ h => absurd h (Option.not_mem_none _), trivial⟩

theorem Composite.Aligned.withAlias {c : Composite} (h : c.Aligned) {name : String} (hname : Bare name) :
    (c.withAlias name).Aligned :=
  ⟨fun _ hn => Option.mem_some_iff.mp hn ▸ hname, h.2⟩

def TableRef.Aligned (t : TableRef) : Prop := Bare t.table ∧ ∀ name ∈ t.alias?, Bare name

def JoinOn.Aligned : JoinOn → Prop
  | .columns pairs => ∀ p ∈ pairs, Bare p.1 ∧ Bare p.2
  | .condition c => c.Aligned

def Join.Aligned (j : Join) : Prop := Matched j.table [] ∧ ∀ on ∈ j.on, on.Aligned

def Filter.Aligned : Filter → Prop
  | .key _ => True
  | .condition c => c.Meets aligned

def Edit.Aligned : Edit → Prop
  | .table t => t.Aligned
  | .select columns => ∀ c ∈ columns, Bare c
  | .selectAs column name => Bare column ∧ Bare name
  | .groupBy columns => ∀ c ∈ columns, Bare c
  | .orderBy column _ => Bare column
  | .join target on => Join.Aligned ⟨target, on⟩
  | .filter _ f => f.Aligned
  | .exclude _ f => f.Aligned
  | .having _ c => c.Meets aligned
  | .limit _ => True
  | .offset _ => True
  | .dialect _ => True

theorem TableRef.Aligned.qualifier {t : TableRef} (h : t.Aligned) : Bare t.qualifier := by
  unfold TableRef.qualifier
  cases halias : t.alias? with
  | none => exact h.1
  | some name => exact h.2 name halias

theorem TableRef.Aligned.render {t : TableRef} (h : t.Aligned) : Bare t.render := by
  unfold TableRef.render
  split
  · next name halias => exact h.1.aliased (h.2 name halias)
  · exact h.1

theorem TableRef.Aligned.renderForWrite {t : TableRef} (h : t.Aligned) : Bare t.renderForWrite := by
  unfold TableRef.renderForWrite
  split
  · next name halias =>
    split
    · exact h.1
    · exact h.1.aliased (h.2 name halias)
  · exact h.1

theorem Filter.Aligned.resolve {f : Filter} (h : f.Aligned) {primaryKey : String}
    (hkey : Bare primaryKey) : (f.resolve primaryKey).Meets aligned := by
  cases f with
  | key v => exact ⟨⟨hkey, trivial⟩, trivial⟩
  | condition c => exact h

theorem Join.Aligned.head {j : Join} (h : j.Aligned) : Matched j.head [] := by
  have hword : Matched "INNER JOIN " [] := by decide
  unfold Join.head
  split
  · exact h.1
  · exact hword.append h.1

theorem JoinOn.Aligned.onComposite {on : JoinOn} (h : on.Aligned) :
    (Join.onComposite on).Aligned := by
  cases on with
  | condition c => exact h
  | columns pairs =>
    have hequal : Bare " = " := by decide
    have hpairs : pairsMeet aligned
        (pairs.map fun p => .literal (p.1 ++ " = " ++ p.2)) := by
      induction pairs with
      | nil => trivial
      | cons p rest ih =>
        have hp := h p List.mem_cons_self
        have hrest := ih fun q hq => h q (List.mem_cons_of_mem p hq)
        exact ⟨((hp.1.append hequal).append hp.2).matched, hrest⟩
    exact Composite.aligned_empty.push .and hpairs

theorem Join.Aligned.carries {j : Join} (h : j.Aligned) : Carries j.fragments j.fragment.binds := by
  rw [Join.fragments, Join.fragment]
  cases hon : j.on with
  | none => exact Carries.single h.head
  | some on =>
    have hfs := (h.2 on hon).onComposite.carries
    have hopen : Matched " ON (" [] := by decide
    have hclose : Matched ")" [] := by decide
    dsimp only
    rw [Composite.sqlOf_fragments]
    split
    · exact hfs.behind h.head
    · exact (hfs.wrapped hopen hclose).behind h.head

namespace Query

variable {α : Type}

structure Aligned (q : Query α) : Prop where
  primaryKey : Bare q.primaryKey
  tables : ∀ t ∈ q.tables, t.Aligned
  qualifier : ∀ name ∈ q.qualifier, Bare name
  columns : ∀ c ∈ q.columns, Bare c.1 ∧ ∀ name ∈ c.2, Bare name
  joins : ∀ j ∈ q.joins, j.Aligned
  whereClause : q.whereClause.Aligned
  havingClause : q.havingClause.Aligned
  grouping : ∀ c ∈ q.grouping, Bare c
  ordering : ∀ o ∈ q.ordering, Bare o.1

theorem aligned_start {primaryKey : String} (h : Bare primaryKey) : (start primaryKey).Aligned where
  primaryKey := h
  tables _ ht := absurd ht List.not_mem_nil
  qualifier _ hn := absurd hn (Option.not_mem_none _)
  columns _ hc := absurd hc List.not_mem_nil
  joins _ hj := absurd hj List.not_mem_nil
  whereClause := Composite.aligned_empty
  havingClause := Composite.aligned_empty
  grouping _ hc := absurd hc List.not_mem_nil
  ordering _ ho := absurd ho List.not_mem_nil

theorem Aligned.addTable {q : Query α} (h : q.Aligned) {t : TableRef} (ht : t.Aligned) :
    (q.addTable t).Aligned := by
  have htables : ∀ u ∈ q.tables ++ [t], u.Aligned :=
    List.forall_mem_append.mpr ⟨h.tables, List.forall_mem_singleton.mpr ht⟩
  unfold Query.addTable
  split
  · exact { h with tables := htables }
  · exact { h with
      tables := htables
      qualifier := fun _ hn => Option.mem_some_iff.mp hn ▸ ht.qualifier
      whereClause := h.whereClause.withAlias ht.qualifier
      havingClause := h.havingClause.withAlias ht.qualifier }

theorem Aligned.edit {q : Query α} (h : q.Aligned) {e : Edit} (he : e.Aligned) : (q.edit e).Aligned := by
  cases e with
  | table t => exact h.addTable he
  | select columns =>
    have hcolumns : ∀ c ∈ columns.map (·, none), Bare c.1 ∧ ∀ name ∈ c.2, Bare name := by
      intro c hc
      obtain ⟨column, hcolumn, rfl⟩ := List.mem_map.mp hc
      exact ⟨he column hcolumn, fun _ hn => absurd hn (Option.not_mem_none _)⟩
    exact { h with columns := List.forall_mem_append.mpr ⟨h.columns, hcolumns⟩ }
  | selectAs column name =>
    have hcolumn : Bare column ∧ ∀ n ∈ some name, Bare n :=
      ⟨he.1, fun _ hn => Option.mem_some_iff.mp hn ▸ he.2⟩
    exact { h with
      columns := List.forall_mem_append.mpr ⟨h.columns, List.forall_mem_singleton.mpr hcolumn⟩ }
  | groupBy columns => exact { h with grouping := List.forall_mem_append.mpr ⟨h.grouping, he⟩ }
  | orderBy column direction =>
    exact { h with
      ordering := List.forall_mem_append.mpr ⟨h.ordering, List.forall_mem_singleton.mpr he⟩ }
  | join target on =>
    exact { h with joins := List.forall_mem_append.mpr ⟨h.joins, List.forall_mem_singleton.mpr he⟩ }
  | filter joiner f => exact { h with whereClause := h.whereClause.push joiner (he.resolve h.primaryKey) }
  | exclude joiner f =>
    have hinner := Composite.aligned_empty.push joiner (he.resolve h.primaryKey)
    exact { h with whereClause := h.whereClause.push .and hinner }
  | having joiner c => exact { h with havingClause := h.havingClause.push joiner he }
  | limit n => exact { h with }
  | offset n => exact { h with }
  | dialect d => exact { h with }

theorem Aligned.edits {q : Query α} (h : q.Aligned) {es : List Edit} (hes : ∀ e ∈ es, e.Aligned) :
    (q.edits es).Aligned := by
  induction es generalizing q with
  | nil => exact h
  | cons e rest ih =>
    exact ih (h.edit (hes e List.mem_cons_self)) fun f hf => hes f (List.mem_cons_of_mem e hf)

end Query

end BoundSql
