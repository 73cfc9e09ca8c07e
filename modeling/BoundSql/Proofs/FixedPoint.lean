import BoundSql.Proofs.Closed
import BoundSql.Proofs.Expansion

/-! A bound text has no placeholders outside quotes, so binding it again changes nothing. -/

namespace BoundSql

namespace Zone

/-- The characters of a text, each with the zone in which it is read. -/
def marked : Zone → List Char → List (Zone × Char)
  | _, [] => []
  | z, c :: rest => (z, c) :: marked (z.next c) rest

def mark : Zone × Char := (outside, '?')

/-- Put texts for the placeholders, one each, to be read outside quotes. A placeholder for which no text
is left stays. -/
def refill : List (Zone × Char) → List String → List (Zone × Char)
  | [], _ => []
  | m :: rest, [] => m :: refill rest []
  | m :: rest, t :: texts =>
    if m = mark then t.toList.map (outside, ·) ++ refill rest texts else m :: refill rest (t :: texts)

theorem marked_append (z : Zone) (as bs : List Char) :
    z.marked (as ++ bs) = z.marked as ++ (z.after as).marked bs := by
  induction as generalizing z with
  | nil => rfl
  | cons c as ih => simp only [List.cons_append, marked, ih (z.next c), after, List.foldl_cons]

theorem marked_plain {cs : List Char} (h : cs.all plain = true) (z : Zone) :
    z.marked cs = cs.map (z, ·) := by
  induction cs with
  | nil => rfl
  | cons c rest ih =>
    rw [List.all_cons, Bool.and_eq_true] at h
    rw [marked, next_plain h.1, ih h.2, List.map_cons]

theorem refill_nil (marks : List (Zone × Char)) : refill marks [] = marks := by
  induction marks with
  | nil => rfl
  | cons m rest ih => rw [refill, ih]

theorem holes_scan (z : Zone) (cs : List Char) : holes (z.scan cs) = (z.marked cs).count mark := by
  induction cs generalizing z with
  | nil => rfl
  | cons c rest ih =>
    rw [scan, marked]
    by_cases h : z = outside ∧ c = '?'
    · obtain ⟨rfl, rfl⟩ := h
      rw [if_pos ⟨rfl, rfl⟩, ← mark, List.count_cons_self, ← ih]
      exact List.countP_cons_of_pos rfl
    · have hmark : (z, c) ≠ mark := fun heq => h (Prod.mk.inj heq)
      rw [if_neg h, holes_text, ih, List.count_cons_of_ne hmark]

theorem marked_weave {texts : List String} (h : ∀ t ∈ texts, Bare t) (z : Zone) (cs : List Char) :
    z.marked (weave (z.scan cs) texts) = refill (z.marked cs) texts := by
  induction cs generalizing z texts with
  | nil => rfl
  | cons c rest ih =>
    cases texts with
    | nil => rw [weave_scan, refill_nil]
    | cons t texts =>
      rw [scan, marked, refill]
      by_cases hc : z = outside ∧ c = '?'
      · obtain ⟨rfl, rfl⟩ := hc
        have ht := h t List.mem_cons_self
        have htexts : ∀ u ∈ texts, Bare u := fun u hu => h u (List.mem_cons_of_mem t hu)
        have hmark : (outside, '?') = mark := rfl
        rw [if_pos ⟨rfl, rfl⟩, if_pos hmark, weave, marked_append, marked_plain ht, after_plain ht]
        exact congrArg (t.toList.map (outside, ·) ++ ·) (ih htexts outside)
      · have hmark : (z, c) ≠ mark := fun heq => hc (Prod.mk.inj heq)
        rw [if_neg hc, if_neg hmark, weave, marked, ih h]

theorem filter_refill (marks : List (Zone × Char)) (texts : List String) :
    (refill marks texts).filter (·.1 != outside) = marks.filter (·.1 != outside) := by
  induction marks generalizing texts with
  | nil => rfl
  | cons m rest ih =>
    cases texts with
    | nil => rw [refill_nil]
    | cons t texts =>
      rw [refill]
      by_cases hm : m = mark
      · have hinserted : (t.toList.map (outside, ·)).filter (·.1 != outside) = [] := by
          rw [List.filter_map]
          exact List.map_eq_nil_iff.mpr (List.filter_eq_nil_iff.mpr fun _ _ => Bool.false_ne_true)
        rw [if_pos hm, List.filter_append, hinserted, List.nil_append, ih, hm]
        rfl
      · rw [if_neg hm, List.filter_cons, List.filter_cons, ih]

theorem count_refill {marks : List (Zone × Char)} {texts : List String} (h : ∀ t ∈ texts, Bare t)
    (hcount : marks.count mark ≤ texts.length) : (refill marks texts).count mark = 0 := by
  induction marks generalizing texts with
  | nil => rfl
  | cons m rest ih =>
    cases texts with
    | nil => rw [refill_nil]; exact Nat.le_zero.mp hcount
    | cons t texts =>
      rw [refill]
      by_cases hm : m = mark
      · have hinserted : (t.toList.map (outside, ·)).count mark = 0 := by
          refine List.count_eq_zero.mpr fun hmem => ?_
          obtain ⟨c, hc, heq⟩ := List.mem_map.mp hmem
          exact ne_of_plain (List.all_eq_true.mp (h t List.mem_cons_self) c hc) (Prod.mk.inj heq).2
        rw [hm, List.count_cons_self, List.length_cons, Nat.add_le_add_iff_right] at hcount
        rw [if_pos hm, List.count_append, hinserted,
          ih (fun u hu => h u (List.mem_cons_of_mem t hu)) hcount]
      · rw [List.count_cons_of_ne hm] at hcount
        rw [if_neg hm, List.count_cons_of_ne hm, ih h hcount]

end Zone

theorem bare_parameter (n : Nat) : Bare (parameter n) := by
  have hdollar : Bare "$" := by decide
  exact hdollar.append (bare_toString n)

theorem bare_written (v : Value) (numbers : List Nat) : Bare (v.written numbers) := by
  have hopen : Bare "(" := by decide
  have hclose : Bare ")" := by decide
  have hcomma : Bare ", " := by decide
  have hnone : Bare "(SELECT NULL WHERE FALSE)" := by decide
  have hnumbers : Bare (parameters numbers) := by
    refine hcomma.intercalate fun s hs => ?_
    obtain ⟨n, -, rfl⟩ := List.mem_map.mp hs
    exact bare_parameter n
  cases v with
  | list items =>
    cases items with
    | nil => exact hnone
    | cons item rest => exact (hopen.append hnumbers).append hclose
  | _ => exact hnumbers

def Statement.inserted (s : Statement) : List String :=
  List.zipWith Value.written s.params (numbering 1 s.params)

theorem length_numbering (first : Nat) (params : List Value) :
    (numbering first params).length = params.length := by
  induction params generalizing first with
  | nil => rfl
  | cons v rest ih => rw [numbering, List.length_cons, List.length_cons, ih]

namespace Statement

theorem length_inserted (s : Statement) : s.inserted.length = s.params.length := by
  rw [inserted, List.length_zipWith, length_numbering, Nat.min_self]

theorem bare_inserted (s : Statement) : ∀ t ∈ s.inserted, Bare t := by
  intro t ht
  rw [inserted, List.mem_iff_getElem] at ht
  obtain ⟨i, hi, rfl⟩ := ht
  rw [List.getElem_zipWith]
  exact bare_written _ _

theorem holes_of_expand {s t : Statement} (h : s.expand = .ok t) :
    holes (Zone.outside.scan s.sql.toList) = s.params.length ∧
      t.sql.toList = weave (Zone.outside.scan s.sql.toList) s.inserted := by
  have hpieces : pieces none s.sql.toList = Zone.outside.scan s.sql.toList :=
    Zone.pieces_eq_scan .outside s.sql.toList
  by_cases hholes : holes (pieces none s.sql.toList) = s.params.length
  · rw [expand_of_holes_eq hholes] at h
    obtain rfl := Except.ok.inj h
    rw [← hpieces, String.toList_ofList, fillHoles_eq_weave]
    exact ⟨hholes, rfl⟩
  · obtain ⟨m, herror⟩ := expand_of_holes_ne hholes
    rw [herror] at h
    cases h

theorem expand_of_count {sql : String} (h : (Zone.outside.marked sql.toList).count Zone.mark = 0) :
    (⟨sql, []⟩ : Statement).expand = .ok ⟨sql, []⟩ := by
  have hpieces : pieces none sql.toList = Zone.outside.scan sql.toList :=
    Zone.pieces_eq_scan .outside sql.toList
  have hholes : holes (pieces none sql.toList) = 0 := by rw [hpieces, Zone.holes_scan, h]
  have hweave : fillHoles 0 (pieces none sql.toList) [] = sql.toList := by
    rw [fillHoles_eq_weave, List.zipWith_nil_left, hpieces, weave_scan]
  rw [expand_of_holes_eq (s := ⟨sql, []⟩) hholes]
  dsimp only
  rw [hweave, String.ofList_toList, List.flatMap_nil]

/-- A bound text is bound to itself. It is the text before with bare texts for the placeholders, every
other character staying in its zone; so what is quoted in it is what was quoted, and no question mark is
outside quotes. -/
theorem expand_settled {s t : Statement} (h : s.expand = .ok t) :
    let before := Zone.outside.marked s.sql.toList
    let after := Zone.outside.marked t.sql.toList
    (⟨t.sql, []⟩ : Statement).expand = .ok ⟨t.sql, []⟩ ∧
    after = Zone.refill before s.inserted ∧
    (∀ text ∈ s.inserted, ∀ z : Zone, z.after text.toList = z) ∧
    after.filter (·.1 != .outside) = before.filter (·.1 != .outside) ∧
    (Zone.outside, '?') ∉ after := by
  intro before after
  obtain ⟨hholes, htext⟩ := holes_of_expand h
  have hafter : after = Zone.refill before s.inserted := by
    rw [← Zone.marked_weave s.bare_inserted, ← htext]
  have hcount : before.count Zone.mark = s.inserted.length :=
    (Zone.holes_scan .outside s.sql.toList).symm.trans (hholes.trans s.length_inserted.symm)
  have hnone : after.count Zone.mark = 0 := by
    rw [hafter]
    exact Zone.count_refill s.bare_inserted (Nat.le_of_eq hcount)
  refine ⟨expand_of_count hnone, hafter, fun text htext => Zone.after_plain (s.bare_inserted text htext),
    ?_, List.count_eq_zero.mp hnone⟩
  rw [hafter]
  exact Zone.filter_refill before s.inserted

theorem expand_settled_between_quotes :
    let s : Statement := ⟨"'?'?'it''s ?'?'' IN ? OR \"a?\"\"?", [.null, .list [], .list [.int 7, .text "?"]]⟩
    let t : Statement :=
      ⟨"'?'$1'it''s ?'(SELECT NULL WHERE FALSE)'' IN ($2, $3) OR \"a?\"\"?", [.null, .int 7, .text "?"]⟩
    s.expand = .ok t ∧ (⟨t.sql, []⟩ : Statement).expand = .ok ⟨t.sql, []⟩ ∧
      (Zone.literal, '?') ∈ Zone.outside.marked t.sql.toList := by
  intro s t
  have hbound : s.expand = .ok t := by cbv
  obtain ⟨hagain, -, -, -, -⟩ := expand_settled hbound
  exact ⟨hbound, hagain, by decide⟩

end Statement
end BoundSql
