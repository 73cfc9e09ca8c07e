import BoundSql.Proofs.Leaves
import BoundSql.Proofs.Quotes

/-! Closed texts leave the quote zone as they find it, and may be put together freely. -/

namespace BoundSql

def placeholders (s : String) : Nat := holes (pieces none s.toList)

def Closed (s : String) : Prop := Zone.outside.after s.toList = .outside

instance (s : String) : Decidable (Closed s) := inferInstanceAs (Decidable (_ = _))

def Matched (sql : String) (binds : List Value) : Prop := Closed sql ∧ placeholders sql = binds.length

instance (sql : String) (binds : List Value) : Decidable (Matched sql binds) :=
  inferInstanceAs (Decidable (_ ∧ _))

def plain (c : Char) : Bool := c != '?' && !isQuote c

/-- A text that changes neither placeholders nor quotes, wherever it stands. -/
def Bare (s : String) : Prop := s.toList.all plain = true

instance (s : String) : Decidable (Bare s) := inferInstanceAs (Decidable (_ = _))

theorem holes_append (xs ys : List Piece) : holes (xs ++ ys) = holes xs + holes ys :=
  List.countP_append

theorem holes_text (c : Char) (ps : List Piece) : holes (.text c :: ps) = holes ps :=
  List.countP_cons_of_neg Bool.false_ne_true

namespace Zone

theorem next_plain {c : Char} (h : plain c = true) (z : Zone) : z.next c = z := by
  rw [plain, isQuote, Bool.and_eq_true, Bool.not_eq_true', Bool.or_eq_false_iff] at h
  have hliteral : ¬ c = '\'' := ne_of_beq_false h.2.1
  have hname : ¬ c = '"' := ne_of_beq_false h.2.2
  cases z with
  | outside => rw [next, if_neg hliteral, if_neg hname]
  | literal => rw [next, if_neg hliteral]
  | name => rw [next, if_neg hname]

theorem scan_of_ne {c : Char} (h : c ≠ '?') (z : Zone) (rest : List Char) :
    z.scan (c :: rest) = .text c :: (z.next c).scan rest := by
  rw [scan, if_neg fun hc => h hc.2]

theorem ne_of_plain {c : Char} (h : plain c = true) : c ≠ '?' := by
  rw [plain, Bool.and_eq_true] at h
  exact ne_of_beq_false (Bool.not_eq_true' _ ▸ h.1)

theorem after_plain {cs : List Char} (h : cs.all plain = true) (z : Zone) : z.after cs = z := by
  induction cs with
  | nil => rfl
  | cons c rest ih =>
    rw [List.all_cons, Bool.and_eq_true] at h
    rw [after, List.foldl_cons, next_plain h.1, ← after, ih h.2]

theorem holes_scan_eq_zero {cs : List Char} (h : ∀ c ∈ cs, c ≠ '?') (z : Zone) :
    holes (z.scan cs) = 0 := by
  induction cs generalizing z with
  | nil => rfl
  | cons c rest ih =>
    rw [scan_of_ne (h c List.mem_cons_self), holes_text, ih fun d hd => h d (List.mem_cons_of_mem c hd)]

theorem holes_scan_plain {cs : List Char} (h : cs.all plain = true) (z : Zone) :
    holes (z.scan cs) = 0 :=
  holes_scan_eq_zero (fun c hc => ne_of_plain (List.all_eq_true.mp h c hc)) z

theorem read_substitute {column : List Char} (h : column.all plain = true) (cs : List Char) (z : Zone) :
    z.after (substitute column cs) = z.after cs ∧
      holes (z.scan (substitute column cs)) = holes (z.scan cs) := by
  have hmark : ['%', 's'].all plain = true := by decide
  obtain ⟨template, rfl, hcolumn⟩ := exists_template cs
  rw [hcolumn]
  clear hcolumn
  induction template generalizing z with
  | nil => exact ⟨rfl, rfl⟩
  | cons t rest ih =>
    rw [spell_cons, spell_cons, after_append, after_append, scan_append, scan_append, holes_append,
      holes_append]
    cases t with
    | none =>
      -- column and marker are plain both
      dsimp only [Option.elim]
      rw [after_plain h, after_plain hmark, holes_scan_plain h, holes_scan_plain hmark]
      exact ⟨(ih z).1, congrArg (0 + ·) (ih z).2⟩
    | some c => exact ⟨(ih _).1, congrArg (holes (z.scan [c]) + ·) (ih _).2⟩

end Zone

theorem placeholders_eq_scan (s : String) : placeholders s = holes (Zone.outside.scan s.toList) :=
  congrArg holes (Zone.pieces_eq_scan .outside s.toList)

theorem Closed.pieces_append {s : String} (h : Closed s) (t : String) :
    pieces none (s ++ t).toList = pieces none s.toList ++ pieces none t.toList := by
  have hscan := Zone.pieces_eq_scan .outside
  rw [Zone.quote?] at hscan
  rw [hscan, hscan, hscan, String.toList_append, Zone.scan_append, h]

theorem Closed.append {s t : String} (hs : Closed s) (ht : Closed t) : Closed (s ++ t) := by
  rw [Closed, String.toList_append, Zone.after_append, hs, ht]

theorem Closed.placeholders_append {s : String} (h : Closed s) (t : String) :
    placeholders (s ++ t) = placeholders s + placeholders t := by
  rw [placeholders, h.pieces_append, holes_append, placeholders, placeholders]

theorem Matched.append {s t : String} {xs ys : List Value} (hs : Matched s xs) (ht : Matched t ys) :
    Matched (s ++ t) (xs ++ ys) :=
  ⟨hs.1.append ht.1, by rw [hs.1.placeholders_append, hs.2, ht.2, List.length_append]⟩

theorem Matched.fillTemplate {sql column : String} {binds : List Value} (h : Matched sql binds)
    (hcolumn : Bare column) : Matched (fillTemplate sql column) binds := by
  obtain ⟨hafter, hholes⟩ := Zone.read_substitute hcolumn sql.toList .outside
  refine ⟨?_, ?_⟩
  · rw [Closed, BoundSql.fillTemplate, String.toList_ofList, hafter, h.1]
  · rw [placeholders_eq_scan, BoundSql.fillTemplate, String.toList_ofList, hholes,
      ← placeholders_eq_scan, h.2]

theorem placeholders_of_blank {s : String} (h : Text.blank s = true) : placeholders s = 0 := by
  rw [placeholders_eq_scan]
  refine Zone.holes_scan_eq_zero (fun c hc hmark => ?_) .outside
  have hblank := List.all_eq_true.mp h c hc
  rw [hmark] at hblank
  exact absurd hblank (by decide)

theorem Matched.kept {sql : String} {binds : List Value} (h : Matched sql binds) :
    kept sql binds = binds := by
  rw [BoundSql.kept]
  cases hblank : Text.blank sql with
  | false => rw [if_neg Bool.false_ne_true]
  | true =>
    rw [if_pos rfl, List.eq_nil_of_length_eq_zero (h.2.symm.trans (placeholders_of_blank hblank))]

theorem Bare.matched {s : String} (h : Bare s) : Matched s [] :=
  ⟨Zone.after_plain h .outside, by rw [placeholders_eq_scan, Zone.holes_scan_plain h]; rfl⟩

theorem Bare.append {s t : String} (hs : Bare s) (ht : Bare t) : Bare (s ++ t) := by
  rw [Bare, String.toList_append, List.all_append, hs, ht, Bool.and_self]

theorem Bare.intercalate {sep : String} (hsep : Bare sep) {items : List String}
    (h : ∀ s ∈ items, Bare s) : Bare (sep.intercalate items) := by
  induction items with
  | nil => rfl
  | cons s rest ih =>
    have hs := h s List.mem_cons_self
    cases rest with
    | nil => rwa [String.intercalate_singleton]
    | cons t rest =>
      rw [String.intercalate_cons_cons]
      exact (hs.append hsep).append (ih fun u hu => h u (List.mem_cons_of_mem s hu))

theorem bare_toString (n : Nat) : Bare (toString n) := by
  rw [Bare, Nat.toString_eq_ofList_toDigits, String.toList_ofList, List.all_eq_true]
  intro c hc
  have hpos : 0 < 10 := by decide
  have hdigit : c.isDigit = true := Nat.isDigit_of_mem_toDigits hpos (Nat.le_refl 10) hc
  have hne {d : Char} (hd : d.isDigit = false) : (c == d) = false := by
    rw [beq_eq_false_iff_ne]
    rintro rfl
    rw [hd] at hdigit
    cases hdigit
  have hmark : (c == '?') = false := hne (by decide)
  have hliteral : (c == '\'') = false := hne (by decide)
  have hname : (c == '"') = false := hne (by decide)
  rw [plain, isQuote, bne, hmark, hliteral, hname]
  rfl

theorem Bare.columnize {column : String} {alias? : Option String} (hcolumn : Bare column)
    (halias : ∀ name ∈ alias?, Bare name) : Bare (columnize column alias?) := by
  cases alias? with
  | none => exact hcolumn
  | some name =>
    have hpoint : Bare "." := by decide
    rw [BoundSql.columnize]
    split
    · exact hcolumn
    · exact ((halias name rfl).append hpoint).append hcolumn

theorem Bare.aliased {source name : String} (hsource : Bare source) (hname : Bare name) :
    Bare (aliased source name) := by
  have has : Bare " AS " := by decide
  exact (hsource.append has).append hname

def holePlaces (start : Nat) : List Piece → List Nat
  | [] => []
  | .hole :: rest => start :: holePlaces (start + 1) rest
  | .text _ :: rest => holePlaces (start + 1) rest

def places (s : String) : List Nat := holePlaces 0 (pieces none s.toList)

theorem length_holePlaces (start : Nat) (ps : List Piece) :
    (holePlaces start ps).length = holes ps := by
  induction ps generalizing start with
  | nil => rfl
  | cons p rest ih =>
    cases p with
    | hole => rw [holePlaces, List.length_cons, ih]; exact (List.countP_cons_of_pos rfl).symm
    | text c => rw [holePlaces, ih, holes_text]

theorem holePlaces_append (start : Nat) (xs ys : List Piece) :
    holePlaces start (xs ++ ys) = holePlaces start xs ++ holePlaces (start + xs.length) ys := by
  induction xs generalizing start with
  | nil => rfl
  | cons p rest ih =>
    have hstart : start + 1 + rest.length = start + (p :: rest).length := by
      rw [List.length_cons, Nat.add_assoc, Nat.add_comm 1]
    cases p with
    | hole => rw [List.cons_append, holePlaces, holePlaces, ih, hstart, List.cons_append]
    | text c => rw [List.cons_append, holePlaces, holePlaces, ih, hstart]

theorem holePlaces_add (start shift : Nat) (ps : List Piece) :
    holePlaces (shift + start) ps = (holePlaces start ps).map (shift + ·) := by
  induction ps generalizing start with
  | nil => rfl
  | cons p rest ih =>
    cases p with
    | hole => rw [holePlaces, holePlaces, Nat.add_assoc, ih, List.map_cons]
    | text c => rw [holePlaces, holePlaces, Nat.add_assoc, ih]

theorem length_places (s : String) : (places s).length = placeholders s := length_holePlaces 0 _

theorem length_scan (z : Zone) (cs : List Char) : (z.scan cs).length = cs.length := by
  induction cs generalizing z with
  | nil => rfl
  | cons c rest ih => rw [Zone.scan, List.length_cons, List.length_cons, ih]

theorem Closed.places_append {s : String} (h : Closed s) (t : String) :
    places (s ++ t) = places s ++ (places t).map (s.length + ·) := by
  have hlength : (pieces none s.toList).length = s.length := by
    rw [← String.length_toList, ← length_scan .outside, ← Zone.pieces_eq_scan]
    rfl
  rw [places, h.pieces_append, holePlaces_append, Nat.zero_add, hlength, ← Nat.add_zero s.length,
    holePlaces_add, Nat.add_zero]
  rfl

end BoundSql
