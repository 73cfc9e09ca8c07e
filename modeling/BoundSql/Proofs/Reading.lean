import BoundSql.Proofs.Quotes

/-! SQL conditions read back from their text, with the precedence of NOT, AND and OR. -/

namespace BoundSql.Reading

inductive Truth where
  | false
  | unknown
  | true
  deriving DecidableEq

namespace Truth

def not : Truth → Truth
  | false => true
  | unknown => unknown
  | true => false

def and : Truth → Truth → Truth
  | false, _ => false
  | true, b => b
  | unknown, false => false
  | unknown, _ => unknown

def or (a b : Truth) : Truth := (a.not.and b.not).not

@[simp] theorem and_true (a : Truth) : a.and true = a := by cases a <;> rfl

@[simp] theorem true_and (a : Truth) : true.and a = a := rfl

@[simp] theorem false_or (a : Truth) : false.or a = a := by cases a <;> rfl

theorem and_assoc (a b c : Truth) : (a.and b).and c = a.and (b.and c) := by
  cases a <;> cases b <;> cases c <;> rfl

theorem and_eq_true {a b : Truth} : a.and b = true ↔ a = true ∧ b = true := by
  cases a <;> cases b <;> decide

end Truth

abbrev Word := List Char

inductive Token where
  | opening
  | closing
  | word (w : Word)
  deriving DecidableEq

def isSpace (c : Char) : Bool := c.isWhitespace || c == '\x0b' || c == '\x0c'

def separator? (c : Char) : Option (List Token) :=
  if isSpace c then some []
  else if c = '(' then some [.opening]
  else if c = ')' then some [.closing]
  else none

def finished (w : Word) : List Word := if w.isEmpty then [] else [w]

def tokensFrom (z : Zone) (w : Word) : List Char → List Token
  | [] => (finished w).map .word
  | c :: rest =>
    match if z = .outside then separator? c else none with
    | some between => (finished w).map .word ++ between ++ tokensFrom .outside [] rest
    | none => tokensFrom (z.next c) (w ++ [c]) rest

def tokens (sql : String) : List Token := tokensFrom .outside [] sql.toList

inductive Keyword where
  | and
  | or
  | not
  | between
  deriving DecidableEq

def Keyword.word : Keyword → Word
  | and => ['A', 'N', 'D']
  | or => ['O', 'R']
  | not => ['N', 'O', 'T']
  | between => ['B', 'E', 'T', 'W', 'E', 'E', 'N']

def keyword? (w : Word) : Option Keyword :=
  [Keyword.and, .or, .not, .between].find? fun k => w.map Char.toUpper == k.word

theorem ne_or_of_keyword?_eq_none {w : Word} (h : keyword? w = none) : keyword? w ≠ some .or := by
  rw [h]
  exact (Option.some_ne_none _).symm

def outerWords : (depth : Nat) → List Token → List Word
  | _, [] => []
  | depth, .opening :: rest => outerWords (depth + 1) rest
  | depth, .closing :: rest => outerWords (depth - 1) rest
  | 0, .word w :: rest => w :: outerWords 0 rest
  | depth + 1, .word _ :: rest => outerWords (depth + 1) rest

/-- The words of a comparison, with the number of placeholders that the text has in front of it. -/
structure Comparison where
  words : List Word
  placeholders : Nat

def Comparison.push (c : Comparison) (w : Word) : Comparison := { c with words := c.words ++ [w] }

/-- A row with values for the placeholders: the truth of each comparison. -/
structure Row where
  holds : Comparison → Truth

inductive Term where
  | empty
  | comparison (c : Comparison) (range : Bool)
  | group (t : Truth)

def Term.ofWords (n : Nat) (ws : List Word) : Term :=
  if ws.isEmpty then .empty else .comparison ⟨ws, n⟩ false

theorem Term.ofWords_ne (n : Nat) (ws : List Word) (c : Comparison) :
    ofWords n ws ≠ .comparison c true := by
  cases ws with
  | nil => exact nofun
  | cons w ws => exact fun h => Bool.false_ne_true (Term.comparison.inj h).2

/-- What has been read inside a parenthesis: what stands in front of the last OR, what stands between
that and the last AND, and a term. -/
structure Level where
  disjuncts : Truth
  conjuncts : Truth
  negated : Bool
  term : Term

def Term.truth (row : Row) (negated : Bool) (term : Term) : Truth :=
  let t :=
    match term with
    | .empty => .unknown
    | .comparison c _ => row.holds c
    | .group t => t
  if negated then t.not else t

namespace Level

def fresh (disjuncts conjuncts : Truth) : Level := ⟨disjuncts, conjuncts, false, .empty⟩

def start : Level := fresh .false .true

variable (row : Row) (l : Level)

def conjunction : Truth := l.conjuncts.and (l.term.truth row l.negated)

def truth : Truth := l.disjuncts.or (l.conjunction row)

def read (placeholders : Nat) (w : Word) : Option Level :=
  match l.term, keyword? w with
  | .empty, some .not => some { l with negated := !l.negated }
  | .comparison c true, some .and => some { l with term := .comparison (c.push w) false }
  | _, some .and => some (fresh l.disjuncts (l.conjunction row))
  | _, some .or => some (fresh (l.truth row) .true)
  | .group _, _ => none
  | .empty, k => some { l with term := .comparison ⟨[w], placeholders⟩ (k == some .between) }
  | .comparison c range, k =>
    some { l with term := .comparison (c.push w) (range || k == some .between) }

end Level

structure State where
  placeholders : Nat
  level : Level
  outer : List Level

namespace Row

variable (row : Row)

def step (s : State) : Token → Option State
  | .opening =>
    match s.level.term with
    | .empty => some { s with level := .start, outer := s.level :: s.outer }
    | _ => none
  | .closing =>
    match s.outer with
    | [] => none
    | l :: outer =>
      some { s with level := { l with term := .group (s.level.truth row) }, outer := outer }
  | .word w =>
    (s.level.read row s.placeholders w).map fun l =>
      { s with placeholders := s.placeholders + holes (pieces none w), level := l }

def run (s : State) (ts : List Token) : Option State := ts.foldlM row.step s

/-- Read tokens behind a number of placeholders: their truth, and the placeholders with them. Without
any tokens there is no condition, which every row meets. -/
def readTokens (placeholders : Nat) (ts : List Token) : Option (Truth × Nat) :=
  if ts.isEmpty then some (.true, placeholders)
  else
    match row.run ⟨placeholders, .start, []⟩ ts with
    | some ⟨placeholders, level, []⟩ => some (level.truth row, placeholders)
    | _ => none

def read (placeholders : Nat) (sql : String) : Option (Truth × Nat) :=
  row.readTokens placeholders (tokens sql)

def readAll (placeholders : Nat) : List String → Option (Truth × Nat)
  | [] => some (.true, placeholders)
  | sql :: rest => do
    let (t, placeholders) ← row.read placeholders sql
    let (ts, placeholders) ← readAll placeholders rest
    return (t.and ts, placeholders)

def Meets (sql : String) : Prop := ∃ placeholders, row.read 0 sql = some (.true, placeholders)

end Row

def Ends (rest : List Char) : Prop := ∀ c ∈ rest.head?, (separator? c).isSome

theorem ends_nil : Ends [] := nofun

theorem ends_cons {c : Char} {between : List Token} (h : separator? c = some between) (rest : List Char) :
    Ends (c :: rest) := by
  intro d hd
  obtain rfl : c = d := Option.mem_some_iff.mp hd
  rw [h]
  rfl

/-- A text is read as tokens wherever a word can end behind it. -/
def Lexes (text : List Char) (ts : List Token) : Prop :=
  ∀ rest, Ends rest → tokensFrom .outside [] (text ++ rest) = ts ++ tokensFrom .outside [] rest

theorem tokensFrom_separator {c : Char} {between : List Token} (h : separator? c = some between)
    (w : Word) (rest : List Char) :
    tokensFrom .outside w (c :: rest) =
      (finished w).map .word ++ between ++ tokensFrom .outside [] rest := by
  rw [tokensFrom, if_pos rfl, h]

theorem tokensFrom_of_ends (w : Word) {rest : List Char} (h : Ends rest) :
    tokensFrom .outside w rest = (finished w).map .word ++ tokensFrom .outside [] rest := by
  cases rest with
  | nil => exact (List.append_nil _).symm
  | cons c rest =>
    obtain ⟨between, hc⟩ := Option.isSome_iff_exists.mp (h c rfl)
    rw [tokensFrom_separator hc, tokensFrom_separator hc, List.append_assoc]
    rfl

def Solid (w : Word) : Prop := ∀ c ∈ w, separator? c = none ∧ isQuote c = false

instance (w : Word) : Decidable (Solid w) := List.decidableBAll _ w

theorem tokensFrom_solid {w : Word} (h : Solid w) (front : Word) {rest : List Char} (hrest : Ends rest) :
    tokensFrom .outside front (w ++ rest) =
      (finished (front ++ w)).map .word ++ tokensFrom .outside [] rest := by
  induction w generalizing front with
  | nil => rw [List.append_nil, List.nil_append, tokensFrom_of_ends front hrest]
  | cons c w ih =>
    obtain ⟨hseparator, hquote⟩ := h c List.mem_cons_self
    have hzone : Zone.outside.next c = .outside := Zone.next_outside (Bool.eq_false_iff.mp hquote)
    have htail := ih (fun d hd => h d (List.mem_cons_of_mem c hd)) (front ++ [c])
    rw [List.cons_append, tokensFrom, if_pos rfl, hseparator]
    dsimp only
    rw [hzone, htail, List.append_assoc]
    rfl

theorem Lexes.solid {w : Word} (h : Solid w) : Lexes w ((finished w).map .word) :=
  fun _ hrest => tokensFrom_solid h [] hrest

theorem Lexes.tokens_eq {sql : String} {ts : List Token} (h : Lexes sql.toList ts) : tokens sql = ts := by
  have hall := h [] ends_nil
  rwa [List.append_nil, tokensFrom, finished, if_pos (by rfl), List.map_nil, List.append_nil] at hall

theorem Lexes.space {a b : List Char} {ts us : List Token} (ha : Lexes a ts) (hb : Lexes b us) :
    Lexes (a ++ ' ' :: b) (ts ++ us) := by
  have hspace : separator? ' ' = some [] := by decide
  intro rest hrest
  rw [List.append_assoc, List.cons_append, ha _ (ends_cons hspace _), tokensFrom_separator hspace,
    hb rest hrest]
  simp only [finished, List.isEmpty_nil, if_true, List.map_nil, List.nil_append, List.append_assoc]

def spaced (ws : List Word) : List Char := ws.flatMap (' ' :: ·)

theorem Lexes.spaced {ws : List Word} (h : ∀ w ∈ ws, Solid w ∧ w ≠ []) {a : List Char} {ts : List Token}
    (ha : Lexes a ts) : Lexes (a ++ Reading.spaced ws) (ts ++ ws.map .word) := by
  induction ws generalizing a ts with
  | nil =>
    rw [Reading.spaced, List.flatMap_nil, List.map_nil, List.append_nil, List.append_nil]
    exact ha
  | cons w ws ih =>
    obtain ⟨hsolid, hne⟩ := h w List.mem_cons_self
    have hword : finished w = [w] := if_neg (by rwa [List.isEmpty_iff])
    have hrest := ih (fun v hv => h v (List.mem_cons_of_mem w hv)) (ha.space (Lexes.solid hsolid))
    rw [hword, List.append_assoc, List.append_assoc] at hrest
    exact hrest

theorem Lexes.parenthesis {w : Word} (hw : Solid w) {a : List Char} {ts : List Token} (ha : Lexes a ts) :
    Lexes (w ++ ' ' :: '(' :: (a ++ [')']))
      ((finished w).map .word ++ .opening :: (ts ++ [.closing])) := by
  have hopening : separator? '(' = some [.opening] := by decide
  have hclosing : separator? ')' = some [.closing] := by decide
  have hgroup : Lexes ('(' :: (a ++ [')'])) (.opening :: (ts ++ [.closing])) := by
    intro rest _
    rw [List.cons_append, List.append_assoc, List.singleton_append, tokensFrom_separator hopening,
      ha _ (ends_cons hclosing rest), tokensFrom_separator hclosing]
    simp only [finished, List.isEmpty_nil, if_true, List.map_nil, List.nil_append, List.cons_append,
      List.append_assoc]
  exact (Lexes.solid hw).space hgroup

/-- Tokens that are closed in themselves: inside a parenthesis nothing of them is outside. -/
def Sheltered (ts : List Token) : Prop :=
  ∀ depth rest, outerWords (depth + 1) (ts ++ rest) = outerWords (depth + 1) rest

/-- Tokens that leave no OR outside parentheses. -/
def Guarded (ts : List Token) : Prop :=
  ∀ rest, ∃ ws, (∀ w ∈ ws, keyword? w ≠ some .or) ∧ outerWords 0 (ts ++ rest) = ws ++ outerWords 0 rest

theorem Sheltered.words (ws : List Word) : Sheltered (ws.map .word) := by
  intro depth rest
  induction ws with
  | nil => rfl
  | cons w ws ih => exact ih

theorem Sheltered.append {ts us : List Token} (ht : Sheltered ts) (hu : Sheltered us) :
    Sheltered (ts ++ us) := by
  intro depth rest
  rw [List.append_assoc, ht, hu]

theorem Sheltered.parenthesis {ts : List Token} (h : Sheltered ts) :
    Sheltered (.opening :: (ts ++ [.closing])) := by
  intro depth rest
  rw [List.cons_append, List.append_assoc, outerWords, h]
  rfl

theorem Guarded.words {ws : List Word} (h : ∀ w ∈ ws, keyword? w ≠ some .or) :
    Guarded (ws.map .word) := by
  intro rest
  refine ⟨ws, h, ?_⟩
  clear h
  induction ws with
  | nil => rfl
  | cons w ws ih => exact congrArg (w :: ·) ih

theorem Guarded.append {ts us : List Token} (ht : Guarded ts) (hu : Guarded us) : Guarded (ts ++ us) := by
  intro rest
  obtain ⟨vs, hvs, hts⟩ := ht (us ++ rest)
  obtain ⟨ws, hws, hus⟩ := hu rest
  refine ⟨vs ++ ws, ?_, ?_⟩
  · intro w hw
    exact (List.mem_append.mp hw).elim (hvs w) (hws w)
  · rw [List.append_assoc, hts, hus, List.append_assoc]

theorem Guarded.parenthesis {ts : List Token} (h : Sheltered ts) :
    Guarded (.opening :: (ts ++ [.closing])) := by
  intro rest
  refine ⟨[], nofun, ?_⟩
  rw [List.cons_append, List.append_assoc, outerWords, h]
  rfl

namespace Row

variable (row : Row)

theorem run_append (s : State) (ts us : List Token) :
    row.run s (ts ++ us) = (row.run s ts).bind fun s => row.run s us := List.foldlM_append

theorem run_cons (s : State) (t : Token) (ts : List Token) :
    row.run s (t :: ts) = (row.step s t).bind fun s => row.run s ts := List.foldlM_cons

/-- Tokens are read as one term, and not up to the middle of a range. -/
def ReadsTerm (n : Nat) (ts : List Token) (t : Truth) (m : Nat) : Prop :=
  ∃ negated term, term.truth row negated = t ∧ (∀ c, term ≠ .comparison c true) ∧
    ∀ d c outer, row.run ⟨n, .fresh d c, outer⟩ ts = some ⟨m, ⟨d, c, negated, term⟩, outer⟩

def ReadsTerms (n : Nat) (ts : List Token) (t : Truth) (m : Nat) : Prop :=
  ∀ d c outer, ∃ l, row.run ⟨n, .fresh d c, outer⟩ ts = some ⟨m, l, outer⟩ ∧
    l.disjuncts = d ∧ l.conjunction row = c.and t

def ReadsCondition (n : Nat) (ts : List Token) (t : Truth) (m : Nat) : Prop :=
  ∀ outer, ∃ l, row.run ⟨n, .start, outer⟩ ts = some ⟨m, l, outer⟩ ∧ l.truth row = t

def marks : List Word → Nat
  | [] => 0
  | w :: ws => holes (pieces none w) + marks ws

variable {row}

theorem ReadsTerm.terms {n m : Nat} {ts : List Token} {t : Truth} (h : row.ReadsTerm n ts t m) :
    row.ReadsTerms n ts t m := by
  obtain ⟨negated, term, rfl, -, hrun⟩ := h
  intro d c outer
  exact ⟨_, hrun d c outer, rfl, rfl⟩

theorem ReadsTerms.condition {n m : Nat} {ts : List Token} {t : Truth} (h : row.ReadsTerms n ts t m) :
    row.ReadsCondition n ts t m := by
  intro outer
  obtain ⟨l, hrun, hdisjuncts, hconjunction⟩ := h .false .true outer
  refine ⟨l, hrun, ?_⟩
  rw [Level.truth, hdisjuncts, hconjunction, Truth.false_or, Truth.true_and]

theorem ReadsCondition.readTokens {n m : Nat} {ts : List Token} {t : Truth}
    (h : row.ReadsCondition n ts t m) (hts : ts ≠ []) : row.readTokens n ts = some (t, m) := by
  obtain ⟨l, hrun, rfl⟩ := h []
  rw [Row.readTokens, if_neg (by rwa [List.isEmpty_iff]), hrun]

theorem step_and {n : Nat} {d c : Truth} {negated : Bool} {term : Term}
    (h : ∀ comparison, term ≠ .comparison comparison true) (outer : List Level) :
    row.step ⟨n, ⟨d, c, negated, term⟩, outer⟩ (.word Keyword.and.word) =
      some ⟨n, .fresh d (c.and (term.truth row negated)), outer⟩ := by
  cases term with
  | empty => rfl
  | group t => rfl
  | comparison comparison range =>
    cases range with
    | true => exact absurd rfl (h comparison)
    | false => rfl

theorem step_or (n : Nat) (l : Level) (outer : List Level) :
    row.step ⟨n, l, outer⟩ (.word Keyword.or.word) = some ⟨n, .fresh (l.truth row) .true, outer⟩ := by
  obtain ⟨d, c, negated, _ | ⟨comparison, _ | _⟩ | t⟩ := l <;> rfl

theorem ReadsTerm.and {n m k : Nat} {ts us : List Token} {t u : Truth} (ht : row.ReadsTerm n ts t m)
    (hu : row.ReadsTerms m us u k) :
    row.ReadsTerms n (ts ++ .word Keyword.and.word :: us) (t.and u) k := by
  obtain ⟨negated, term, rfl, hterm, hrun⟩ := ht
  intro d c outer
  obtain ⟨l, hrest, hdisjuncts, hconjunction⟩ := hu d (c.and (term.truth row negated)) outer
  refine ⟨l, ?_, hdisjuncts, hconjunction.trans (Truth.and_assoc ..)⟩
  rw [run_append, hrun, Option.bind_some, run_cons, step_and hterm]
  exact hrest

theorem ReadsTerm.or {n m k : Nat} {ts us : List Token} {t u : Truth} (ht : row.ReadsTerm n ts t m)
    (hu : row.ReadsTerm m us u k) :
    row.ReadsCondition n (ts ++ .word Keyword.or.word :: us) (t.or u) k := by
  obtain ⟨negated, term, rfl, -, hrun⟩ := ht
  intro outer
  obtain ⟨l, hrest, hdisjuncts, hconjunction⟩ := hu.terms (term.truth row negated) .true outer
  refine ⟨l, ?_, ?_⟩
  · rw [run_append, Level.start, hrun, Option.bind_some, run_cons, step_or, Level.truth,
      Level.conjunction, Truth.true_and, Truth.false_or]
    exact hrest
  · rw [Level.truth, hdisjuncts, hconjunction, Truth.true_and]

example :
    read ⟨fun c => if c.words = [['a']] then .true else .false⟩ 0 "a or b AND c" = some (.true, 0) := by
  decide

theorem ReadsCondition.not {n m : Nat} {ts : List Token} {t : Truth} (h : row.ReadsCondition n ts t m) :
    row.ReadsTerm n (.word Keyword.not.word :: .opening :: (ts ++ [.closing])) t.not m := by
  refine ⟨true, .group t, rfl, nofun, ?_⟩
  intro d c outer
  obtain ⟨l, hrun, rfl⟩ := h (⟨d, c, true, .empty⟩ :: outer)
  -- the parenthesis sets the negated level aside until its own level has been read
  have hopen : row.run ⟨n, .fresh d c, outer⟩
      (.word Keyword.not.word :: .opening :: (ts ++ [.closing])) =
        row.run ⟨n, .start, ⟨d, c, true, .empty⟩ :: outer⟩ (ts ++ [.closing]) := rfl
  rw [hopen, run_append, hrun]
  rfl

theorem step_word {w : Word} (h : keyword? w = none) (n : Nat) (d c : Truth) (negated : Bool)
    (comparison : Comparison) (range : Bool) (outer : List Level) :
    row.step ⟨n, ⟨d, c, negated, .comparison comparison range⟩, outer⟩ (.word w) =
      some ⟨n + holes (pieces none w),
        ⟨d, c, negated, .comparison (comparison.push w) range⟩, outer⟩ := by
  have hrange : (range || (none : Option Keyword) == some .between) = range := Bool.or_false range
  rw [step, Level.read, h]
  cases range <;> rfl

theorem step_first {w : Word} (h : keyword? w = none) (n : Nat) (d c : Truth) (negated : Bool)
    (outer : List Level) :
    row.step ⟨n, ⟨d, c, negated, .empty⟩, outer⟩ (.word w) =
      some ⟨n + holes (pieces none w), ⟨d, c, negated, .comparison ⟨[w], n⟩ false⟩, outer⟩ := by
  rw [step, Level.read, h]
  rfl

theorem run_words {ws : List Word} (h : ∀ w ∈ ws, keyword? w = none) (n : Nat) (d c : Truth)
    (negated : Bool) (comparison : Comparison) (range : Bool) (outer : List Level) :
    row.run ⟨n, ⟨d, c, negated, .comparison comparison range⟩, outer⟩ (ws.map .word) =
      some ⟨n + marks ws,
        ⟨d, c, negated, .comparison ⟨comparison.words ++ ws, comparison.placeholders⟩ range⟩, outer⟩ := by
  induction ws generalizing n comparison with
  | nil => rw [List.append_nil]; rfl
  | cons w ws ih =>
    have hrest := ih (fun v hv => h v (List.mem_cons_of_mem w hv)) (n + holes (pieces none w))
      (comparison.push w)
    rw [List.map_cons, run_cons, step_word (h w List.mem_cons_self), Option.bind_some, hrest, marks,
      Nat.add_assoc, Comparison.push, List.append_assoc]
    rfl

theorem run_ofWords {ws : List Word} (h : ∀ w ∈ ws, keyword? w = none) (n : Nat) (d c : Truth)
    (negated : Bool) (outer : List Level) :
    row.run ⟨n, ⟨d, c, negated, .empty⟩, outer⟩ (ws.map .word) =
      some ⟨n + marks ws, ⟨d, c, negated, Term.ofWords n ws⟩, outer⟩ := by
  cases ws with
  | nil => rfl
  | cons w ws =>
    rw [List.map_cons, run_cons, step_first (h w List.mem_cons_self), Option.bind_some,
      run_words fun v hv => h v (List.mem_cons_of_mem w hv), marks, Nat.add_assoc]
    rfl

theorem ReadsTerm.words {ws : List Word} (h : ∀ w ∈ ws, keyword? w = none) (n : Nat) :
    row.ReadsTerm n (ws.map .word) ((Term.ofWords n ws).truth row false) (n + marks ws) :=
  ⟨false, Term.ofWords n ws, rfl, Term.ofWords_ne n ws, fun d c outer => run_ofWords h n d c false outer⟩

theorem ReadsTerm.negated {ws : List Word} (h : ∀ w ∈ ws, keyword? w = none) (n : Nat) :
    row.ReadsTerm n (.word Keyword.not.word :: ws.map .word) ((Term.ofWords n ws).truth row true)
      (n + marks ws) := by
  refine ⟨true, Term.ofWords n ws, rfl, Term.ofWords_ne n ws, fun d c outer => ?_⟩
  exact run_ofWords h n d c true outer

theorem step_between (ws : List Word) (n : Nat) (d c : Truth) (outer : List Level) :
    row.step ⟨n + marks ws, ⟨d, c, false, Term.ofWords n ws⟩, outer⟩ (.word Keyword.between.word) =
      some ⟨n + marks ws,
        ⟨d, c, false, .comparison ⟨ws ++ [Keyword.between.word], n⟩ true⟩, outer⟩ := by
  cases ws <;> rfl

theorem ReadsTerm.range {ws : List Word} (h : ∀ w ∈ ws, keyword? w = none) {low high : Word}
    (hlow : keyword? low = none) (hhigh : keyword? high = none) (n : Nat) :
    row.ReadsTerm n ((ws ++ [Keyword.between.word, low, Keyword.and.word, high]).map .word)
      (row.holds ⟨ws ++ [Keyword.between.word] ++ [low] ++ [Keyword.and.word] ++ [high], n⟩)
      (n + marks ws + holes (pieces none low) + holes (pieces none high)) := by
  refine ⟨false, .comparison ⟨_, n⟩ false, rfl, nofun, fun d c outer => ?_⟩
  have hand (m : Nat) (comparison : Comparison) :
      row.step ⟨m, ⟨d, c, false, .comparison comparison true⟩, outer⟩ (.word Keyword.and.word) =
        some ⟨m, ⟨d, c, false, .comparison (comparison.push Keyword.and.word) false⟩, outer⟩ := rfl
  rw [List.map_append, run_append, Level.fresh, run_ofWords h, Option.bind_some, List.map_cons, run_cons,
    step_between, Option.bind_some, List.map_cons, run_cons, step_word hlow, Option.bind_some,
    List.map_cons, run_cons, hand, Option.bind_some, List.map_cons, run_cons, step_word hhigh]
  rfl

theorem readAll_cons_eq_some {n k : Nat} {sql : String} {rest : List String} {t : Truth} :
    row.readAll n (sql :: rest) = some (t, k) ↔
      ∃ u m v, row.read n sql = some (u, m) ∧ row.readAll m rest = some (v, k) ∧ u.and v = t := by
  constructor
  · intro h
    obtain ⟨⟨u, m⟩, hsql, h⟩ := Option.bind_eq_some_iff.mp h
    obtain ⟨⟨v, l⟩, hrest, h⟩ := Option.bind_eq_some_iff.mp h
    obtain ⟨rfl, rfl⟩ := Prod.mk.inj (Option.some.inj h)
    exact ⟨u, m, v, hsql, hrest, rfl⟩
  · rintro ⟨u, m, v, hsql, hrest, rfl⟩
    rw [Row.readAll, hsql]
    exact congrArg (Option.bind · _) hrest

theorem readAll_of_append {n k : Nat} {xs ys : List String}
    (h : row.readAll n (xs ++ ys) = some (.true, k)) : ∃ m, row.readAll n xs = some (.true, m) := by
  induction xs generalizing n with
  | nil => exact ⟨n, rfl⟩
  | cons x xs ih =>
    obtain ⟨u, m, v, hx, hrest, htrue⟩ := readAll_cons_eq_some.mp h
    obtain ⟨rfl, rfl⟩ := Truth.and_eq_true.mp htrue
    obtain ⟨l, hxs⟩ := ih hrest
    exact ⟨l, readAll_cons_eq_some.mpr ⟨_, _, _, hx, hxs, rfl⟩⟩

end Row

end BoundSql.Reading
