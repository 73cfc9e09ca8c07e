import BoundSql.Proofs.Leaves
import BoundSql.Proofs.Statements

/-! Void conditions, of blank texts only, leave no trace wherever they are added. -/

namespace BoundSql

mutual

def Predicate.isVoid : Predicate → Bool
  | .template _ _ => false
  | .not inner => inner.isVoid
  | .group _ entries => entriesVoid entries

def entriesVoid : List Entry → Bool
  | [] => true
  | e :: rest => e.isVoid && entriesVoid rest

def Entry.isVoid : Entry → Bool
  | .mk _ condition => condition.isVoid

def Condition.isVoid : Condition → Bool
  | .raw sql _ => Text.blank sql
  | .predicate p => p.isVoid
  | .pairs ps => pairsVoid ps

def pairsVoid : List Pair → Bool
  | [] => true
  | p :: rest => p.isVoid && pairsVoid rest

def Pair.isVoid : Pair → Bool
  | .literal sql => Text.blank sql
  | .column _ operand => operand.isVoid

def Operand.isVoid : Operand → Bool
  | .value _ => false
  | .predicate p => p.isVoid

end

/-- What a void condition amounts to: blank texts, and no values. -/
def Vanishes (texts : List String) (binds : List Value) : Prop :=
  (∀ t ∈ texts, Text.blank t = true) ∧ binds = []

theorem Vanishes.nil : Vanishes [] [] := ⟨List.forall_mem_nil _, rfl⟩

theorem Vanishes.leaf {text : String} (h : Text.blank text = true) (binds : List Value) :
    Vanishes [text] (kept text binds) :=
  ⟨List.forall_mem_singleton.mpr h, if_pos h⟩

theorem Vanishes.append {texts texts' : List String} {binds binds' : List Value}
    (h : Vanishes texts binds) (h' : Vanishes texts' binds') :
    Vanishes (texts ++ texts') (binds ++ binds') :=
  ⟨List.forall_mem_append.mpr ⟨h.1, h'.1⟩, by rw [h.2, h'.2]; rfl⟩

theorem staying_eq_nil {leaves : List (Joiner × String)} (h : ∀ l ∈ leaves, Text.blank l.2 = true) :
    staying leaves = [] := by
  apply List.filter_eq_nil_iff.mpr
  intro l hl
  rw [h l hl]
  exact Bool.false_ne_true

mutual

theorem Predicate.render_void :
    (p : Predicate) → p.isVoid = true → ∀ column, p.render column = "" ∧ p.binds = []
  | .template _ _, h, _ => absurd h Bool.false_ne_true
  | .not inner, h, column => by
    obtain ⟨htext, hbinds⟩ := inner.render_void h column
    rw [Predicate.render, Predicate.binds, htext, hbinds]
    exact ⟨rfl, rfl⟩
  | .group alias? entries, h, column => by
    -- the text is read under the alias it inherits, the values under the group's own
    obtain ⟨htexts, -⟩ := entriesVoid_vanish (alias?.or (some column)) entries h
    obtain ⟨-, hbinds⟩ := entriesVoid_vanish alias? entries h
    rw [Predicate.render, Predicate.binds, joinLeaves_eq_chain, htexts, hbinds]
    exact ⟨rfl, rfl⟩

theorem entriesVoid_vanish (alias? : Option String) : (es : List Entry) → entriesVoid es = true →
    staying (entryTexts alias? es) = [] ∧ entryBinds alias? es = []
  | [], _ => ⟨rfl, rfl⟩
  | .mk joiner condition :: rest, h => by
    obtain ⟨hcondition, hrest⟩ := Bool.and_eq_true_iff.mp h
    obtain ⟨htexts, hbinds⟩ := condition.vanishes_of_void alias? hcondition
    obtain ⟨hmore, hvalues⟩ := entriesVoid_vanish alias? rest hrest
    have hleaves : staying ((condition.texts alias?).map (joiner, ·)) = [] :=
      staying_eq_nil (List.forall_mem_map.mpr htexts)
    rw [entryTexts, entryBinds, Entry.texts, Entry.binds, staying_append, hleaves, hbinds, hmore, hvalues]
    exact ⟨rfl, rfl⟩

theorem Condition.vanishes_of_void (alias? : Option String) :
    (c : Condition) → c.isVoid = true → Vanishes (c.texts alias?) (c.binds alias?)
  | .raw _ binds, h => Vanishes.leaf h binds
  | .predicate p, h => by
    obtain ⟨htext, -⟩ := p.render_void h (alias?.getD "")
    rw [Condition.texts, Condition.binds, htext]
    exact Vanishes.leaf Text.blank_empty p.binds
  | .pairs ps, h => pairsVoid_vanish alias? ps h

theorem pairsVoid_vanish (alias? : Option String) :
    (ps : List Pair) → pairsVoid ps = true → Vanishes (pairTexts alias? ps) (pairBinds alias? ps)
  | [], _ => Vanishes.nil
  | p :: rest, h => by
    obtain ⟨hp, hrest⟩ := Bool.and_eq_true_iff.mp h
    exact (p.vanishes_of_void alias? hp).append (pairsVoid_vanish alias? rest hrest)

theorem Pair.vanishes_of_void (alias? : Option String) :
    (p : Pair) → p.isVoid = true → Vanishes [p.text alias?] (p.binds alias?)
  | .literal _, h => ⟨List.forall_mem_singleton.mpr h, rfl⟩
  | .column name operand, h => by
    rw [Pair.text, Pair.binds, operand.render_void h]
    exact Vanishes.leaf Text.blank_empty operand.binds

theorem Operand.render_void : (o : Operand) → o.isVoid = true → ∀ column, o.render column = ""
  | .value _, h, _ => absurd h Bool.false_ne_true
  | .predicate p, h, column => (p.render_void h column).1

end

namespace Composite

structure Alike (c d : Composite) : Prop where
  alias_eq : c.alias? = d.alias?
  texts_eq : ∀ alias?, staying (entryTexts alias? c.entries) = staying (entryTexts alias? d.entries)
  binds_eq : ∀ alias?, entryBinds alias? c.entries = entryBinds alias? d.entries

theorem Alike.refl (c : Composite) : c.Alike c := ⟨rfl, fun _ => rfl, fun _ => rfl⟩

theorem Alike.withAlias {c d : Composite} (h : c.Alike d) (name : String) :
    (c.withAlias name).Alike (d.withAlias name) := ⟨rfl, h.texts_eq, h.binds_eq⟩

theorem Alike.compile_eq {c d : Composite} (h : c.Alike d) : c.compile = d.compile := by
  simp only [compile, build, joinLeaves_eq_chain, h.alias_eq, h.texts_eq, h.binds_eq]

theorem staying_push (c : Composite) (joiner : Joiner) (condition : Condition)
    (alias? : Option String) :
    staying (entryTexts alias? (c.push joiner condition).entries) =
      staying (entryTexts alias? c.entries) ++ staying ((condition.texts alias?).map (joiner, ·)) := by
  rw [push, entryTexts_append, staying_append, entryTexts, entryTexts, List.append_nil, Entry.texts]

theorem entryBinds_push (c : Composite) (joiner : Joiner) (condition : Condition)
    (alias? : Option String) :
    entryBinds alias? (c.push joiner condition).entries =
      entryBinds alias? c.entries ++ condition.binds alias? := by
  rw [push, entryBinds_append, entryBinds, entryBinds, List.append_nil, Entry.binds]

theorem Alike.push {c d : Composite} (h : c.Alike d) (joiner : Joiner) (condition : Condition) :
    (c.push joiner condition).Alike (d.push joiner condition) := by
  refine ⟨h.alias_eq, fun alias? => ?_, fun alias? => ?_⟩
  · rw [staying_push, staying_push, h.texts_eq]
  · rw [entryBinds_push, entryBinds_push, h.binds_eq]

theorem alike_push_void (c : Composite) (joiner : Joiner) {v : Condition} (hv : v.isVoid = true) :
    (c.push joiner v).Alike c := by
  refine ⟨rfl, fun alias? => ?_, fun alias? => ?_⟩
  · obtain ⟨htexts, -⟩ := v.vanishes_of_void alias? hv
    rw [staying_push, staying_eq_nil (List.forall_mem_map.mpr htexts), List.append_nil]
  · obtain ⟨-, hbinds⟩ := v.vanishes_of_void alias? hv
    rw [entryBinds_push, hbinds, List.append_nil]

theorem compile_all_void {v : Condition} (hv : v.isVoid = true) : (all v).compile = ⟨"", []⟩ :=
  (empty.alike_push_void .and hv).compile_eq

end Composite

theorem isVoid_excluded (joiner : Joiner) {v : Condition} (hv : v.isVoid = true) :
    (Condition.predicate (.not (Composite.empty.push joiner v).toPredicate)).isVoid = true :=
  Bool.and_eq_true_iff.mpr ⟨hv, rfl⟩

theorem Join.fragment_void (table : String) {v : Condition} (hv : v.isVoid = true) :
    (⟨table, some (.condition (.all v))⟩ : Join).fragment = (⟨table, none⟩ : Join).fragment := by
  simp only [Join.fragment, Join.onComposite, Composite.compile_all_void hv]
  rfl

namespace Query

variable {α : Type}

/-- Queries that differ in joins and conditions only, and there in nothing that is emitted. -/
inductive Alike (q : Query α) : Query α → Prop
  | mk {joins : List Join} {whereClause havingClause : Composite}
    (joins_eq : q.joins.map Join.fragment = joins.map Join.fragment)
    (whereAlike : q.whereClause.Alike whereClause) (havingAlike : q.havingClause.Alike havingClause) :
    Alike q { q with joins := joins, whereClause := whereClause, havingClause := havingClause }

theorem Alike.edit {q r : Query α} (h : q.Alike r) (e : Edit) : (q.edit e).Alike (r.edit e) := by
  obtain ⟨hjoins, hwhere, hhaving⟩ := h
  cases e with
  | table t =>
    simp only [Query.edit, addTable]
    cases q.qualifier with
    | none => exact ⟨hjoins, hwhere.withAlias _, hhaving.withAlias _⟩
    | some name => exact ⟨hjoins, hwhere, hhaving⟩
  | join target on =>
    refine ⟨?_, hwhere, hhaving⟩
    simp only [Query.edit, join, List.map_append, hjoins]
  | filter joiner f => exact ⟨hjoins, hwhere.push joiner _, hhaving⟩
  | exclude joiner f => exact ⟨hjoins, hwhere.push .and _, hhaving⟩
  | having joiner c => exact ⟨hjoins, hwhere, hhaving.push joiner c⟩
  | _ => exact ⟨hjoins, hwhere, hhaving⟩

theorem Alike.edits {q r : Query α} (h : q.Alike r) (es : List Edit) :
    (q.edits es).Alike (r.edits es) := by
  induction es generalizing q r with
  | nil => exact h
  | cons e rest ih => exact ih (h.edit e)

theorem Alike.statement_eq {q r : Query α} (h : q.Alike r) (data : Data) (kind : StatementKind) :
    q.statement data kind = r.statement data kind := by
  obtain ⟨hjoins, hwhere, hhaving⟩ := h
  have hclauses (word : String) {c d : Composite} (h : c.Alike d) :
      conditionClause word c = conditionClause word d := by
    rw [conditionClause, conditionClause, h.compile_eq]
  rw [Query.statement_eq, Query.statement_eq]
  cases kind <;>
    simp only [clauses, selectClauses, updateClauses, deleteClauses, joinClauses, whereClauses,
      havingClauses, hjoins, hclauses _ hwhere, hclauses _ hhaving] <;> rfl

theorem statement_edits_of_alike (q : Query α) {es es' : List Edit}
    (h : (q.edits es).Alike (q.edits es')) (after : List Edit) (data : Data) (kind : StatementKind) :
    (q.edits (es ++ after)).statement data kind = (q.edits (es' ++ after)).statement data kind := by
  rw [edits_append, edits_append]
  exact (h.edits after).statement_eq data kind

theorem alike_edit_void (q : Query α) (joiner : Joiner) {v : Condition} (hv : v.isVoid = true) :
    ∀ e ∈ [Edit.filter joiner (.condition v), .exclude joiner (.condition v), .having joiner v],
      (q.edit e).Alike q := by
  have hsame (c : Composite) : c.Alike c := Composite.Alike.refl c
  intro e he
  simp only [List.mem_cons, List.not_mem_nil, or_false] at he
  rcases he with rfl | rfl | rfl
  · exact ⟨rfl, q.whereClause.alike_push_void joiner hv, hsame _⟩
  · exact ⟨rfl, q.whereClause.alike_push_void .and (isVoid_excluded joiner hv), hsame _⟩
  · exact ⟨rfl, hsame _, q.havingClause.alike_push_void joiner hv⟩

theorem alike_join_void (q : Query α) (table : String) {v : Condition} (hv : v.isVoid = true) :
    (q.edit (.join table (some (.condition (.all v))))).Alike (q.edit (.join table none)) := by
  refine ⟨?_, Composite.Alike.refl _, Composite.Alike.refl _⟩
  simp only [Query.edit, join, List.map_append, List.map_cons, Join.fragment_void table hv]

/-- A void condition leaves every statement as it is, wherever among the calls it is filtered by,
excluded or asked for in HAVING, and a join on it is a join without a condition. -/
theorem statement_of_void (q : Query α) {v : Condition} (hv : v.isVoid = true) (before after : List Edit)
    (data : Data) (kind : StatementKind) :
    (∀ joiner,
      ∀ e ∈ [Edit.filter joiner (.condition v), .exclude joiner (.condition v), .having joiner v],
      (q.edits (before ++ e :: after)).statement data kind =
        (q.edits (before ++ after)).statement data kind) ∧
    ∀ table, (q.edits (before ++ .join table (some (.condition (.all v))) :: after)).statement data kind =
      (q.edits (before ++ .join table none :: after)).statement data kind := by
  constructor
  · intro joiner e he
    rw [List.append_cons]
    apply q.statement_edits_of_alike
    rw [edits_append]
    exact (q.edits before).alike_edit_void joiner hv e he
  · intro table
    rw [List.append_cons, List.append_cons before (.join table none)]
    apply q.statement_edits_of_alike
    rw [edits_append, edits_append]
    exact (q.edits before).alike_join_void table hv

theorem statement_of_void_nested :
    let v : Condition :=
      .pairs [.literal " ", .column "a" (.predicate (.not (.group (some "p")
        [.mk .or (.raw "\t" [.null]), .mk .and (.predicate (.not (.group none [])))])))]
    let before : List Edit := [.table ⟨"users", none⟩, .filter .and (.condition (.raw "x = ?" [.null]))]
    let after : List Edit := [.join "posts" none, .filter .or (.condition (.raw "y" []))]
    v.isVoid = true ∧
      ∃ s, ((start "id").edits (before ++ .exclude .or (.condition v) :: after)).statement [] .select =
          .ok s ∧
        ((start "id").edits ([] ++ .join "roles" (some (.condition (.all v))) :: before)).statement []
          .select = ((start "id").edits ([] ++ .join "roles" none :: before)).statement [] .select ∧
        s.sql = "SELECT users.* FROM users INNER JOIN posts WHERE x = ? OR y" ∧ s.params = [.null] := by
  intro v before after
  have hv : v.isVoid = true := by decide
  obtain ⟨hfilter, -⟩ := statement_of_void (start "id") hv before after [] .select
  obtain ⟨-, hjoin⟩ := statement_of_void (start "id") hv [] before [] .select
  have hs : ((start "id").edits (before ++ after)).statement [] .select = .ok _ := rfl
  have hexclude := hfilter .or (.exclude .or (.condition v))
    (by simp only [List.mem_cons, true_or, or_true])
  exact ⟨hv, _, hexclude.trans hs, hjoin "roles", by decide +kernel, rfl⟩

end Query

end BoundSql
