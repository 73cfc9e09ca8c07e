import BoundSql.Proofs.Alignment

/-! Parameters belong to the fragments in which their placeholders stand. -/

namespace BoundSql

open Fragment

/-- The value of number `i` is one of the fragment `f`, and the placeholder of number `i` stands in it. -/
def Statement.Owner (s : Statement) (fs : List Fragment) (i : Nat) (f : Fragment) : Prop :=
  ∃ before after j place, fs = before ++ f :: after ∧ i = (bindsOf before).length + j ∧
    j < f.binds.length ∧ s.params[i]? = f.binds[j]? ∧ (places f.sql)[j]? = some place ∧
    (places s.sql)[i]? = some ((sqlOf before).length + place)

theorem exists_owner {fs : List Fragment} (h : ∀ f ∈ fs, Matched f.sql f.binds) {i : Nat}
    (hi : i < (bindsOf fs).length) :
    ∃ f, (Statement.mk (sqlOf fs) (bindsOf fs)).Owner fs i f := by
  induction fs generalizing i with
  | nil => exact absurd hi (Nat.not_lt_zero i)
  | cons g rest ih =>
    obtain ⟨hclosed, hcount⟩ := h g List.mem_cons_self
    have hplaces : (places g.sql).length = g.binds.length := (length_places g.sql).trans hcount
    have hbinds : bindsOf (g :: rest) = g.binds ++ bindsOf rest := List.flatMap_cons
    have hsql : places (sqlOf (g :: rest)) =
        places g.sql ++ (places (sqlOf rest)).map (g.sql.length + ·) := by
      rw [sqlOf_cons, hclosed.places_append]
    -- the number falls into the first fragment, or is counted from behind it
    by_cases hg : i < g.binds.length
    · have hi' : i < (places g.sql).length := hplaces ▸ hg
      refine ⟨g, [], rest, i, (places g.sql)[i], rfl, (Nat.zero_add i).symm, hg, ?_, ?_, ?_⟩
      · dsimp only
        rw [hbinds, List.getElem?_append_left hg]
      · exact List.getElem?_eq_getElem hi'
      · dsimp only
        rw [hsql, List.getElem?_append_left hi', List.getElem?_eq_getElem hi']
        exact congrArg some (Nat.zero_add _).symm
    · have hle : g.binds.length ≤ i := Nat.le_of_not_lt hg
      have hi' : i - g.binds.length < (bindsOf rest).length := by
        rw [hbinds, List.length_append] at hi
        omega
      obtain ⟨f, before, after, j, place, hfs, hnumber, hj, hvalue, hplace, hstands⟩ :=
        ih (fun f hf => h f (List.mem_cons_of_mem g hf)) hi'
      dsimp only at hvalue hstands
      refine ⟨f, g :: before, after, j, place, congrArg (g :: ·) hfs, ?_, hj, ?_, hplace, ?_⟩
      · have hbefore : bindsOf (g :: before) = g.binds ++ bindsOf before := List.flatMap_cons
        rw [hbefore, List.length_append]
        omega
      · dsimp only
        rw [hbinds, List.getElem?_append_right hle, hvalue]
      · dsimp only
        rw [hsql, List.getElem?_append_right (hplaces ▸ hle), hplaces, List.getElem?_map, hstands, sqlOf_cons,
          String.length_append, Option.map_some, Nat.add_assoc]

theorem Composite.Aligned.binds_of_isEmpty {c : Composite} (h : c.Aligned)
    (hempty : c.compile.sql.isEmpty = true) : c.compile.binds = [] := by
  have hmatched := h.carries.matched_sqlOf
  rw [c.sqlOf_fragments, String.isEmpty_iff.mp hempty] at hmatched
  exact List.eq_nil_of_length_eq_zero hmatched.2.symm

namespace Query

variable {α : Type}

theorem carries_conditionFragments (word : String) (hword : Matched (word ++ " ") []) {c : Composite}
    (h : c.Aligned) : Carries (conditionFragments word c).flatten c.compile.binds := by
  rw [conditionFragments, c.sqlOf_fragments]
  split
  · next hempty =>
    rw [h.binds_of_isEmpty hempty]
    exact Carries.nil
  · rw [List.flatten_singleton]
    exact h.carries.behind hword

theorem binds_conditionClause (word : String) {c : Composite} (h : c.Aligned) :
    (conditionClause word c).flatMap (·.binds) = c.compile.binds := by
  rw [conditionClause]
  split
  · next hempty => rw [h.binds_of_isEmpty hempty]; rfl
  · exact List.append_nil _

theorem carries_assignments (data : Data) (written : String → String)
    (h : ∀ d ∈ data, Matched (written d.1) [d.2]) :
    Carries (data.map fun d => [(⟨written d.1, [d.2]⟩ : Fragment)]).flatten (data.map (·.2)) := by
  have hflat := Carries.flatMap fun d hd => Carries.single (h d hd)
  rw [List.flatMap_def, ← List.map_eq_flatMap] at hflat
  exact hflat

theorem bare_commas {items : List String} (h : ∀ s ∈ items, Bare s) : Bare (commas items) := by
  have hcomma : Bare ", " := by decide
  exact Bare.intercalate hcomma h

theorem bare_commas_map {ι : Type} {xs : List ι} {f : ι → String} (h : ∀ x ∈ xs, Bare (f x)) :
    Bare (commas (xs.map f)) :=
  bare_commas (List.forall_mem_map.mpr h)

theorem carries_setFragments {data : Data} (h : ∀ d ∈ data, Bare d.1) :
    Carries (setFragments data) (data.map (·.2)) := by
  have hset : Matched "SET " [] := by decide
  have hcomma : Matched ", " [] := by decide
  have hmark : Closed " = ?" ∧ placeholders " = ?" = 1 := by decide
  have hdata : ∀ d ∈ data, Matched (d.1 ++ " = ?") [d.2] := fun d hd => (h d hd).matched.append hmark
  have hassigned := carries_assignments data (· ++ " = ?") hdata
  exact (hassigned.separated hcomma).behind hset

namespace Aligned

variable {q : Query α} (h : q.Aligned)

include h

theorem bare_columnList : Bare q.columnList := by
  have hstar : Bare "*" := by decide
  unfold columnList
  split
  · exact hstar.columnize h.qualifier
  · refine bare_commas_map fun c hc => ?_
    obtain ⟨hcolumn, hname⟩ := h.columns c hc
    obtain ⟨column, name?⟩ := c
    cases name? with
    | none => exact hcolumn.columnize h.qualifier
    | some name => exact (hcolumn.columnize h.qualifier).aliased (hname name rfl)

theorem bare_tableList : Bare q.tableList :=
  bare_commas_map fun t ht => (h.tables t ht).render

theorem bare_writtenTables : Bare q.writtenTables :=
  bare_commas_map fun t ht => (h.tables t ht).renderForWrite

theorem carries_groupClauses : Carries q.groupClauses [] := by
  have hword : Bare "GROUP BY " := by decide
  unfold groupClauses
  split
  · exact Carries.nil
  · refine Carries.single (hword.append ?_).matched
    exact bare_commas_map fun c hc => (h.grouping c hc).columnize h.qualifier

theorem carries_orderClauses : Carries q.orderClauses [] := by
  have hword : Bare "ORDER BY " := by decide
  have hspace : Bare " " := by decide
  have hdirection (d : Direction) : Bare d.sql := by cases d <;> decide
  unfold orderClauses
  split
  · exact Carries.nil
  · refine Carries.single (hword.append ?_).matched
    refine bare_commas_map fun o ho => ?_
    exact (((h.ordering o ho).columnize h.qualifier).append hspace).append (hdirection o.2)

theorem carries_joins :
    Carries (q.joins.map Join.fragments).flatten (q.joins.flatMap (·.fragment.binds)) := by
  rw [← List.flatMap_def]
  exact Carries.flatMap fun j hj => (h.joins j hj).carries

theorem carries_insertFragments {data : Data} (hdata : ∀ d ∈ data, Bare d.1) :
    Carries (q.insertFragments data) (data.map (·.2)) := by
  have hinsert : Bare "INSERT INTO " := by decide
  have hopen : Bare " (" := by decide
  have hcomma : Bare "," := by decide
  have hvalues : Bare ") VALUES (" := by decide
  have hclose : Bare ")" := by decide
  have hmark : Closed "?" ∧ placeholders "?" = 1 := by decide
  have hcolumns : Bare (",".intercalate (data.map (·.1))) :=
    Bare.intercalate hcomma (List.forall_mem_map.mpr hdata)
  have hhead := ((((hinsert.append h.bare_writtenTables).append hopen).append hcolumns).append hvalues)
  have hmarks := carries_assignments data (fun _ => "?") fun _ _ => hmark
  exact (hmarks.separated hcomma.matched).wrapped hhead.matched hclose.matched

end Aligned

theorem bare_limitText (q : Query α) (kind : StatementKind) : Bare (q.limitText kind) := by
  have hlimit : Bare " LIMIT " := by decide
  have hoffset : Bare " OFFSET " := by decide
  have hrows : Bare " ROWS" := by decide
  have hfetch : Bare " FETCH NEXT " := by decide
  have honly : Bare " ROWS ONLY" := by decide
  have hempty : Bare "" := rfl
  have hlimited : Bare (q.limited (.raw "")).sql := by
    rw [limited]
    split
    · exact hempty
    · cases q.dialect with
      | postgres =>
        refine (hempty.append ?_).append ?_
        · cases positive q.rowLimit with
          | none => exact hempty
          | some n => exact hlimit.append (bare_toString n)
        · cases positive q.rowOffset with
          | none => exact hempty
          | some n => exact hoffset.append (bare_toString n)
      | ansi =>
        refine (((hempty.append hoffset).append (bare_toString _)).append hrows).append ?_
        cases positive q.rowLimit with
        | none => exact hempty
        | some n => exact (hfetch.append (bare_toString n)).append honly
  cases kind with
  | insert => exact hempty
  | _ => exact hlimited

def bound (q : Query α) (data : Data) : StatementKind → List Value
  | .select =>
    q.joins.flatMap (·.fragment.binds) ++ q.whereClause.compile.binds ++ q.havingClause.compile.binds
  | .insert => data.map (·.2)
  | .update => data.map (·.2) ++ q.whereClause.compile.binds
  | .delete => q.joins.flatMap (·.fragment.binds) ++ q.whereClause.compile.binds

theorem flatten_singletons (clauses : List Fragment) : (clauses.map ([·])).flatten = clauses := by
  rw [← List.flatMap_def, List.flatMap_singleton']

theorem Aligned.carries_clauseFragments {q : Query α} (h : q.Aligned) {data : Data}
    (hdata : ∀ d ∈ data, Bare d.1) (kind : StatementKind) :
    Carries (q.clauseFragments data kind).flatten (q.bound data kind) := by
  have hwhere := carries_conditionFragments "WHERE" (by decide) h.whereClause
  have hhaving := carries_conditionFragments "HAVING" (by decide) h.havingClause
  cases kind with
  | select =>
    have hselect : Bare "SELECT " := by decide
    have hfrom : Bare "FROM " := by decide
    have hclauses := (((h.carries_joins.append hwhere).append h.carries_groupClauses).append hhaving).append
      h.carries_orderClauses
    rw [List.append_nil, List.append_nil] at hclauses
    simp only [clauseFragments, List.flatten_cons, List.flatten_append, flatten_singletons]
    exact (hclauses.behind (hfrom.append h.bare_tableList).matched).behind
      (hselect.append h.bare_columnList).matched
  | insert =>
    rw [clauseFragments, List.flatten_singleton]
    exact h.carries_insertFragments hdata
  | update =>
    have hupdate : Bare "UPDATE " := by decide
    have hclauses := (carries_setFragments hdata).append hwhere
    simp only [clauseFragments, List.flatten_cons]
    exact hclauses.behind (hupdate.append h.bare_writtenTables).matched
  | delete =>
    have hdelete : Bare "DELETE FROM " := by decide
    have hclauses := (h.carries_joins.append hwhere).append h.carries_orderClauses
    rw [List.append_nil] at hclauses
    simp only [clauseFragments, List.flatten_cons, List.flatten_append, flatten_singletons]
    exact hclauses.behind (hdelete.append h.bare_writtenTables).matched

theorem Aligned.carries_fragments {q : Query α} (h : q.Aligned) {data : Data}
    (hdata : ∀ d ∈ data, Bare d.1) (kind : StatementKind) :
    Carries (q.fragments data kind) (q.bound data kind) := by
  have hspace : Matched " " [] := by decide
  have hlimit := Carries.single (q.bare_limitText kind).matched
  have hclauses := ((h.carries_clauseFragments hdata kind).separated hspace).append hlimit
  rw [List.append_nil] at hclauses
  exact hclauses

theorem Aligned.params_eq {q : Query α} (h : q.Aligned) {data : Data} {kind : StatementKind}
    {s : Statement} (hs : q.statement data kind = .ok s) : s.params = q.bound data kind := by
  have hwhere := binds_conditionClause "WHERE" h.whereClause
  have hhaving := binds_conditionClause "HAVING" h.havingClause
  have hgroup : q.groupClauses.flatMap (·.binds) = [] := h.carries_groupClauses.binds_eq
  have horder : q.orderClauses.flatMap (·.binds) = [] := h.carries_orderClauses.binds_eq
  have hjoins : q.joinClauses.flatMap (·.binds) = q.joins.flatMap (·.fragment.binds) := List.flatMap_map ..
  rw [eq_of_statement_eq_ok hs, finish_eq, Statement.ofClauses]
  cases kind with
  | select =>
    simp only [clauses, selectClauses, whereClauses, havingClauses, List.flatMap_cons, List.flatMap_append,
      List.nil_append, List.append_nil, hjoins, hwhere, hgroup, hhaving, horder, bound]
  | insert => exact List.append_nil _
  | update =>
    simp only [clauses, updateClauses, whereClauses, List.flatMap_cons, List.nil_append, setClause, hwhere,
      bound]
  | delete =>
    simp only [clauses, deleteClauses, whereClauses, List.flatMap_cons, List.flatMap_append, List.nil_append,
      List.append_nil, hjoins, hwhere, horder, bound]

/-- Whatever aligned calls built a query, its statements have a placeholder for each parameter. Their
fragments are all matched, write the text and hold the parameters in the order of the clauses, and each
parameter belongs to the fragment in which its placeholder stands. -/
theorem statement_aligned {primaryKey : String} (hkey : Bare primaryKey) {es : List Edit}
    (hes : ∀ e ∈ es, e.Aligned) {data : Data} (hdata : ∀ d ∈ data, Bare d.1) {kind : StatementKind}
    {s : Statement} (hs : ((start primaryKey).edits es).statement data kind = .ok s) :
    let q := (start primaryKey).edits es
    let fs := q.fragments data kind
    placeholders s.sql = s.params.length ∧ sqlOf fs = s.sql ∧ bindsOf fs = s.params ∧
    s.params = q.bound data kind ∧ (∀ f ∈ fs, Matched f.sql f.binds) ∧
    ∀ i < s.params.length, ∃ f, s.Owner fs i f := by
  intro q fs
  have hq : q.Aligned := (aligned_start hkey).edits hes
  have hparams : s.params = q.bound data kind := hq.params_eq hs
  have hcarries : Carries fs s.params := hparams ▸ hq.carries_fragments hdata kind
  have hsql : sqlOf fs = s.sql := sqlOf_fragments hs
  refine ⟨?_, hsql, hcarries.binds_eq, hparams, hcarries.matched, fun i hi => ?_⟩
  · rw [← hsql]
    exact hcarries.matched_sqlOf.2
  · have howner := exists_owner hcarries.matched (hcarries.binds_eq.symm ▸ hi)
    rw [hsql, hcarries.binds_eq] at howner
    exact howner

theorem statement_aligned_nested :
    let es : List Edit :=
      [.table ⟨"users", some "u"⟩,
        .join "posts p" (some (.condition (.all (.raw "p.mark = '?' AND p.kind = ?" [.text "a"])))),
        .exclude .or (.condition (.predicate (.group (some "p")
          [.mk .and (.raw " " []),
            .mk .or (.predicate (.not (.template "%s.a = ? OR b = ?" [.null, .list []])))]))),
        .having .and (.raw "COUNT(*) > ?" [.text "b"]), .limit 5]
    ∃ s, ((start "id").edits es).statement [] .select = .ok s ∧
      s.sql = "SELECT u.* FROM users AS u INNER JOIN posts p ON (p.mark = '?' AND p.kind = ?)" ++
        " WHERE NOT (NOT (p.a = ? OR b = ?)) HAVING COUNT(*) > ? LIMIT 5" ∧
      placeholders s.sql = 4 ∧ ∃ f, s.Owner (((start "id").edits es).fragments [] .select) 2 f := by
  intro es
  have hes : ∀ e ∈ es, e.Aligned := by
    have hu : Bare "u" := by decide
    have hp : Bare "p" := by decide
    have hraw : Matched "p.mark = '?' AND p.kind = ?" [.text "a"] := by decide
    have hblank : Matched " " [] := by decide
    have htemplate : Matched "%s.a = ? OR b = ?" [.null, .list []] := by decide
    have hcount : Matched "COUNT(*) > ?" [.text "b"] := by decide
    intro e he
    simp only [es, List.mem_cons, List.not_mem_nil, or_false] at he
    rcases he with rfl | rfl | rfl | rfl | rfl
    · exact ⟨by decide, fun name hn => Option.mem_some_iff.mp hn ▸ hu⟩
    · refine ⟨by decide, fun on hon => ?_⟩
      obtain rfl := Option.mem_some_iff.mp hon
      exact Composite.aligned_empty.push .and hraw
    · refine ⟨fun name hn => ?_, hblank, htemplate, trivial⟩
      exact Option.mem_some_iff.mp hn ▸ hp
    · exact hcount
    · trivial
  have hkey : Bare "id" := by decide
  have hs : ((start "id").edits es).statement [] .select = .ok _ := rfl
  obtain ⟨hcount, -, -, -, -, howner⟩ := statement_aligned hkey hes (List.forall_mem_nil _) hs
  exact ⟨_, hs, by decide +kernel, hcount.trans (by decide +kernel), howner 2 (by decide +kernel)⟩

end Query

end BoundSql
