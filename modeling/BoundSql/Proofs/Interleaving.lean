import BoundSql.Proofs.Statements

/-! Calls of different clauses commute, so the first table may as well be named last. -/

namespace BoundSql

inductive Clause where
  | tables
  | columns
  | grouping
  | ordering
  | joins
  | filters
  | having
  | limit
  | offset
  | dialect
  deriving DecidableEq

def Edit.clause : Edit → Clause
  | .table _ => .tables
  | .select _ | .selectAs .. => .columns
  | .groupBy _ => .grouping
  | .orderBy .. => .ordering
  | .join .. => .joins
  | .filter .. | .exclude .. => .filters
  | .having .. => .having
  | .limit _ => .limit
  | .offset _ => .offset
  | .dialect _ => .dialect

/-- The same calls clause by clause, in the same order within each. -/
def SameClauses (es es' : List Edit) : Prop :=
  ∀ k : Clause, es.filter (·.clause = k) = es'.filter (·.clause = k)

section

variable {σ ι κ : Type} {f : σ → ι → σ} {c : ι → κ}

theorem foldl_commute (hcomm : ∀ s a b, c a ≠ c b → f (f s a) b = f (f s b) a) {a : ι} {bs : List ι}
    (h : ∀ b ∈ bs, c b ≠ c a) (s : σ) : f (bs.foldl f s) a = bs.foldl f (f s a) := by
  induction bs generalizing s with
  | nil => rfl
  | cons b bs ih =>
    rw [List.foldl_cons, List.foldl_cons, ih fun x hx => h x (List.mem_cons_of_mem b hx),
      hcomm s b a (h b List.mem_cons_self)]

variable [DecidableEq κ]

theorem filter_class_eq_nil {k : κ} {bs : List ι} (h : ∀ b ∈ bs, c b ≠ k) :
    bs.filter (c · = k) = [] := by
  apply List.filter_eq_nil_iff.mpr
  intro b hb
  simpa only [decide_eq_true_eq] using h b hb

/-- Steps of different classes commute, so only the order within each class matters. -/
theorem foldl_of_filter_eq (hcomm : ∀ s a b, c a ≠ c b → f (f s a) b = f (f s b) a) {as bs : List ι}
    (h : ∀ k, as.filter (c · = k) = bs.filter (c · = k)) (s : σ) : as.foldl f s = bs.foldl f s := by
  induction as generalizing bs s with
  | nil =>
    cases bs with
    | nil => rfl
    | cons b bs =>
      have hb := h (c b)
      simp only [List.filter_nil, List.filter_cons, decide_true, if_true] at hb
      cases hb
  | cons a as ih =>
    -- the first step is the first of its class in the other order too, and moves to its front
    have ha := h (c a)
    simp only [List.filter_cons, decide_true, if_true] at ha
    obtain ⟨before, after, rfl, hbefore, -, hafter⟩ := List.filter_eq_cons_iff.mp ha.symm
    simp only [decide_eq_true_eq] at hbefore
    have hrest : ∀ k, as.filter (c · = k) = (before ++ after).filter (c · = k) := by
      intro k
      by_cases hk : c a = k
      · subst hk
        rw [List.filter_append, filter_class_eq_nil hbefore, List.nil_append, hafter]
      · have hall := h k
        simp only [List.filter_append, List.filter_cons, hk, decide_false, Bool.false_eq_true,
          if_false] at hall
        rw [List.filter_append, hall]
    rw [List.foldl_cons, ih hrest, List.foldl_append, List.foldl_append, List.foldl_cons,
      foldl_commute hcomm hbefore]

end

namespace Query

variable {α : Type}

theorem edit_addTable (q : Query α) (t : TableRef) {e : Edit} (h : e.clause ≠ .tables) :
    (q.addTable t).edit e = (q.edit e).addTable t := by
  obtain ⟨primaryKey, tables, qualifier, columns, joins, whereClause, havingClause, grouping, ordering,
    rowLimit, rowOffset, dialect, fetch⟩ := q
  cases e with
  | table t' => exact absurd rfl h
  | _ => cases qualifier <;> rfl

theorem edit_comm (q : Query α) {e e' : Edit} (h : e.clause ≠ e'.clause) :
    (q.edit e).edit e' = (q.edit e').edit e := by
  cases e with
  | table t => exact q.edit_addTable t h.symm
  | _ =>
    cases e' with
    | table t => exact (q.edit_addTable t h).symm
    | _ => first | rfl | exact absurd rfl h

theorem edits_of_sameClauses (q : Query α) {es es' : List Edit} (h : SameClauses es es') :
    q.edits es = q.edits es' :=
  foldl_of_filter_eq (fun q _ _ => q.edit_comm) h q

end Query

theorem sameClauses_table_first (t : TableRef) {before : List Edit}
    (h : ∀ e ∈ before, e.clause ≠ .tables) (after : List Edit) :
    SameClauses (before ++ .table t :: after) (.table t :: (before ++ after)) := by
  intro k
  by_cases hk : Clause.tables = k
  · subst hk
    simp only [List.filter_append, filter_class_eq_nil h, List.nil_append, List.filter_cons]
  · have ht : ¬ (Edit.table t).clause = k := hk
    simp only [List.filter_append, List.filter_cons, ht, decide_false, Bool.false_eq_true, if_false]

namespace Query

variable {α : Type}

/-- Calls that agree clause by clause give the same statements and errors and the same conditions,
however the clauses interleave. So what is added before the first table is qualified as if it had been
added after it. -/
theorem statement_of_sameClauses (q : Query α) {es es' : List Edit} (h : SameClauses es es') :
    (∀ data kind, (q.edits es).statement data kind = (q.edits es').statement data kind) ∧
    (q.edits es).whereClause.compile = (q.edits es').whereClause.compile ∧
    (q.edits es).havingClause.compile = (q.edits es').havingClause.compile ∧
    ∀ t before after, (∀ e ∈ before, e.clause ≠ .tables) → ∀ data kind,
      (q.edits (before ++ .table t :: after)).statement data kind =
        (q.edits (.table t :: (before ++ after))).statement data kind := by
  have hes := q.edits_of_sameClauses h
  refine ⟨fun data kind => by rw [hes], by rw [hes], by rw [hes], ?_⟩
  intro t before after hbefore data kind
  rw [q.edits_of_sameClauses (sameClauses_table_first t hbefore after)]

theorem statement_of_sameClauses_late_table :
    let es : List Edit :=
      [.filter .and (.key (.list [.null])), .groupBy ["name"],
        .exclude .or (.condition (.predicate (.group none [.mk .and (.pairs [.column "a" (.value .null)])]))),
        .having .and (.pairs [.column "b" (.predicate .isNull)]), .limit 5, .table ⟨"users", some "u"⟩,
        .filter .or (.condition (.raw "u.c" [])), .limit 3, .table ⟨"posts", none⟩]
    let es' : List Edit :=
      [.table ⟨"users", some "u"⟩, .table ⟨"posts", none⟩, .limit 5, .limit 3,
        .having .and (.pairs [.column "b" (.predicate .isNull)]), .filter .and (.key (.list [.null])),
        .exclude .or (.condition (.predicate (.group none [.mk .and (.pairs [.column "a" (.value .null)])]))),
        .filter .or (.condition (.raw "u.c" [])), .groupBy ["name"]]
    SameClauses es es' ∧
      ∃ s, ((start "id").edits es).statement [] .select = .ok s ∧
        ((start "id").edits es').statement [] .select = .ok s ∧
        s.sql = "SELECT u.* FROM users AS u, posts WHERE u.id IN ? AND NOT (u.a = ?) OR u.c" ++
          " GROUP BY u.name HAVING u.b IS NULL LIMIT 3" := by
  intro es es'
  have hes : SameClauses es es' := by
    intro k
    cases k <;> rfl
  have hs : ((start "id").edits es).statement [] .select = .ok _ := rfl
  obtain ⟨hstatement, -⟩ := statement_of_sameClauses (start "id") hes
  exact ⟨hes, _, hs, (hstatement [] .select).symm.trans hs, by decide +kernel⟩

end Query

end BoundSql
