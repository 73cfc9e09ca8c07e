import BoundSql.Placeholder

/-! Quote zones of SQL text, scanned character by character without lookahead. -/

namespace BoundSql

/-- Where a character stands: outside quotes, in a literal, or in a quoted name. -/
inductive Zone where
  | outside
  | literal
  | name
  deriving DecidableEq

namespace Zone

def next : Zone → Char → Zone
  | outside, c => if c = '\'' then literal else if c = '"' then name else outside
  | literal, c => if c = '\'' then outside else literal
  | name, c => if c = '"' then outside else name

def after (z : Zone) (cs : List Char) : Zone := cs.foldl next z

def scan : Zone → List Char → List Piece
  | _, [] => []
  | z, c :: rest => (if z = outside ∧ c = '?' then .hole else .text c) :: scan (z.next c) rest

def quote? : Zone → Option Char
  | outside => none
  | literal => some '\''
  | name => some '"'

theorem quote?_eq_none {z : Zone} : z.quote? = none ↔ z = outside := by
  cases z <;> simp [quote?]

theorem next_outside {c : Char} (h : ¬ isQuote c = true) : outside.next c = outside := by
  simp only [isQuote, Bool.or_eq_true, beq_iff_eq, not_or] at h
  simp only [next, if_neg h.1, if_neg h.2]

theorem quote?_next_outside {c : Char} (h : isQuote c = true) : (outside.next c).quote? = some c := by
  simp only [isQuote, Bool.or_eq_true, beq_iff_eq] at h
  rcases h with rfl | rfl <;> rfl

theorem next_close {z : Zone} {q : Char} (h : z.quote? = some q) : z.next q = outside := by
  cases z <;> simp only [quote?, Option.some.injEq, reduceCtorEq] at h <;> subst h <;> rfl

theorem next_reopen {z : Zone} {q : Char} (h : z.quote? = some q) : outside.next q = z := by
  cases z <;> simp only [quote?, Option.some.injEq, reduceCtorEq] at h <;> subst h <;> rfl

theorem next_inside {z : Zone} {q c : Char} (h : z.quote? = some q) (hc : ¬ c = q) : z.next c = z := by
  cases z <;> simp only [quote?, Option.some.injEq, reduceCtorEq] at h <;> subst h <;>
    simp only [next, if_neg hc]

theorem scan_quote {z : Zone} {c : Char} (h : isQuote c = true) (rest : List Char) :
    z.scan (c :: rest) = .text c :: (z.next c).scan rest := by
  have hc : c ≠ '?' := by
    rintro rfl
    exact absurd h (by decide)
  simp only [scan, hc, and_false, if_false]

theorem scan_inside {z : Zone} {q : Char} (h : z.quote? = some q) (c : Char) (rest : List Char) :
    z.scan (c :: rest) = .text c :: (z.next c).scan rest := by
  have hz : z ≠ outside := by
    rintro rfl
    cases h
  simp only [scan, hz, false_and, if_false]

theorem isQuote_of_quote? {z : Zone} {q : Char} (h : z.quote? = some q) : isQuote q = true := by
  cases z <;> simp only [quote?, Option.some.injEq, reduceCtorEq] at h <;> subst h <;> rfl

theorem after_append (z : Zone) (as bs : List Char) : z.after (as ++ bs) = (z.after as).after bs :=
  List.foldl_append

theorem scan_append (z : Zone) (as bs : List Char) :
    z.scan (as ++ bs) = z.scan as ++ (z.after as).scan bs := by
  induction as generalizing z with
  | nil => rfl
  | cons c as ih => simp only [List.cons_append, scan, ih (z.next c), after, List.foldl_cons]

/-- Looking ahead for doubled quotes makes no difference to the pieces. -/
theorem pieces_eq_scan (z : Zone) (cs : List Char) : pieces z.quote? cs = z.scan cs := by
  generalize hq : z.quote? = q
  fun_induction pieces q cs generalizing z with
  | case1 => rfl
  | case2 c rest hc ih =>
    obtain rfl := quote?_eq_none.mp hq
    rw [scan_quote hc, ih _ (quote?_next_outside hc)]
  | case3 rest hc ih =>
    obtain rfl := quote?_eq_none.mp hq
    rw [scan, next_outside hc, ih _ hq, if_pos ⟨rfl, rfl⟩]
  | case4 c rest hc hmark ih =>
    obtain rfl := quote?_eq_none.mp hq
    rw [scan, next_outside hc, ih _ hq, if_neg (by simp only [hmark, and_false, not_false_eq_true])]
  | case5 d rest ih =>
    -- the first quote closes the zone and the second one opens it again
    rw [scan_inside hq, next_close hq, scan_quote (isQuote_of_quote? hq), next_reopen hq, ih z hq]
  | case6 c d rest hd ih => rw [scan_inside hq, next_close hq, ih outside rfl]
  | case7 q c d rest hc ih => rw [scan_inside hq, next_inside hq hc, ih z hq]
  | case8 => rw [scan_inside hq]; rfl

end Zone
end BoundSql
