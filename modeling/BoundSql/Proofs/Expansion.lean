import BoundSql.Proofs.Quotes

/-! The meaning of binding, by the scanner without lookahead. -/

namespace BoundSql

/-- Put texts for the holes, one each. A hole for which no text is left keeps its question mark. -/
def weave : List Piece → List String → List Char
  | [], _ => []
  | .text c :: rest, texts => c :: weave rest texts
  | .hole :: rest, [] => '?' :: weave rest []
  | .hole :: rest, t :: texts => t.toList ++ weave rest texts

/-- Number the items of the values from `first` on, those of each value together. -/
def numbering (first : Nat) : List Value → List (List Nat)
  | [] => []
  | v :: rest => List.range' first v.flat.length :: numbering (first + v.flat.length) rest

def parameters (numbers : List Nat) : String := ", ".intercalate (numbers.map parameter)

def Value.written : Value → List Nat → String
  | list [], _ => "(SELECT NULL WHERE FALSE)"
  | list _, numbers => "(" ++ parameters numbers ++ ")"
  | _, numbers => parameters numbers

theorem weave_scan (z : Zone) (cs : List Char) : weave (z.scan cs) [] = cs := by
  induction cs generalizing z with
  | nil => rfl
  | cons c rest ih =>
    by_cases h : z = Zone.outside ∧ c = '?'
    · rw [Zone.scan, if_pos h, weave, ih, h.2]
    · rw [Zone.scan, if_neg h, weave, ih]

theorem Value.placeholder_eq_written (v : Value) (bound : Nat) :
    v.placeholder bound = v.written (List.range' (bound + 1) v.flat.length) := by
  have hone : parameters (List.range' (bound + 1) 1) = parameter (bound + 1) := by
    simp only [parameters, List.range'_one, List.map_cons, List.map_nil, String.intercalate_singleton]
  cases v with
  | list items =>
    cases items with
    | nil => rfl
    | cons item rest =>
      have hmap : (List.range (item :: rest).length).map (parameter <| bound + · + 1) =
          (List.range' (bound + 1) (item :: rest).length).map parameter := by
        rw [List.range'_eq_map_range, List.map_map]
        refine List.map_congr_left fun i _ => ?_
        rw [Function.comp_apply, Nat.add_right_comm]
      exact congrArg (fun numbers => "(" ++ ", ".intercalate numbers ++ ")") hmap
  | _ => exact hone.symm

theorem fillHoles_eq_weave (ps : List Piece) (params : List Value) (bound : Nat) :
    fillHoles bound ps params =
      weave ps (List.zipWith Value.written params (numbering (bound + 1) params)) := by
  fun_induction fillHoles bound ps params with
  | case1 => rw [weave]
  | case2 bound c rest params ih => rw [weave, ih]
  | case3 bound rest ih =>
    simpa only [weave, numbering, List.zipWith_nil_left, List.cons.injEq, true_and] using ih
  | case4 bound rest v params ih =>
    rw [numbering, List.zipWith_cons_cons, weave, ← v.placeholder_eq_written, ih, Nat.add_right_comm]

theorem numbering_flatten (first : Nat) (params : List Value) :
    (numbering first params).flatten = List.range' first (params.flatMap Value.flat).length := by
  induction params generalizing first with
  | nil => rfl
  | cons v rest ih =>
    rw [numbering, List.flatten_cons, ih, List.flatMap_cons, List.length_append,
      List.range'_append_1]

theorem map_range'_getElem? (xs ys zs : List Value) :
    (List.range' (xs.length + 1) ys.length).map (fun n => (xs ++ ys ++ zs)[n - 1]?) = ys.map some := by
  -- the head of the middle part moves to the end of the first one
  induction ys generalizing xs with
  | nil => rfl
  | cons y ys ih =>
    have hhead : (xs ++ y :: ys ++ zs)[xs.length]? = some y := by
      rw [List.append_assoc, List.getElem?_append_right (Nat.le_refl _), Nat.sub_self]
      rfl
    have htail := ih (xs ++ [y])
    rw [List.length_append, List.append_assoc xs] at htail
    rw [List.length_cons, List.range'_succ, List.map_cons, List.map_cons, Nat.add_sub_cancel, hhead]
    exact congrArg (some y :: ·) htail

theorem numbering_names (params before : List Value) :
    (numbering (before.length + 1) params).map
        (·.map fun n => (before ++ params.flatMap Value.flat)[n - 1]?) =
      params.map (·.flat.map some) := by
  induction params generalizing before with
  | nil => rfl
  | cons v rest ih =>
    have hlength : before.length + 1 + v.flat.length = (before ++ v.flat).length + 1 := by
      rw [List.length_append, Nat.add_right_comm]
    rw [numbering, List.map_cons, List.map_cons, List.flatMap_cons, ← List.append_assoc, hlength,
      ih (before ++ v.flat), map_range'_getElem?]

theorem expand_of_holes_eq {s : Statement} (h : holes (pieces none s.sql.toList) = s.params.length) :
    s.expand = .ok ⟨String.ofList (fillHoles 0 (pieces none s.sql.toList) s.params),
      s.params.flatMap Value.flat⟩ := by
  simp only [Statement.expand, h, Nat.lt_irrefl, if_false]

theorem expand_of_holes_ne {s : Statement} (h : holes (pieces none s.sql.toList) ≠ s.params.length) :
    ∃ m, s.expand = .error (.construction m) := by
  unfold Statement.expand
  rcases Nat.lt_or_gt_of_ne h with h | h
  · exact ⟨_, by rw [if_neg (Nat.lt_asymm h), if_pos h, Error.fewerPlaceholders]⟩
  · exact ⟨_, by rw [if_pos h, Error.morePlaceholders]⟩

/-- Binding means this: with as many placeholders as parameters, every placeholder becomes its
parameter with its numbers, the rest of the text stays in place, the numbers run from one to the number
of flattened parameters, and each names its place among them. Otherwise nothing is bound. -/
theorem expand_meaning (s : Statement) :
    let marks := Zone.outside.scan s.sql.toList
    let numbers := numbering 1 s.params
    let flat := s.params.flatMap Value.flat
    (holes marks = s.params.length →
      s.expand = .ok ⟨String.ofList (weave marks (List.zipWith Value.written s.params numbers)), flat⟩) ∧
    (holes marks ≠ s.params.length → ∃ m, s.expand = .error (.construction m)) ∧
    weave marks [] = s.sql.toList ∧
    numbers.flatten = List.range' 1 flat.length ∧
    numbers.map (·.map fun n => flat[n - 1]?) = s.params.map (·.flat.map some) := by
  intro marks numbers flat
  have hpieces : pieces none s.sql.toList = marks := Zone.pieces_eq_scan .outside s.sql.toList
  refine ⟨fun h => ?_, fun h => ?_, weave_scan .outside s.sql.toList, numbering_flatten 1 s.params,
    numbering_names s.params []⟩
  · rw [expand_of_holes_eq (hpieces ▸ h), fillHoles_eq_weave, hpieces]
  · exact expand_of_holes_ne (hpieces ▸ h)

end BoundSql
