import BoundSql.Proofs.Flattening
import BoundSql.Proofs.Reading

/-! A map of columns to operands reads as a conjunction, `blank` standing beneath negations only. -/

namespace BoundSql

open Reading

/-- A name that is one word of SQL text and no keyword. -/
def Plain (name : String) : Prop := Solid name.toList ∧ keyword? name.toList = none

instance (name : String) : Decidable (Plain name) := inferInstanceAs (Decidable (_ ∧ _))

theorem keyword?_of_point {w : Word} (h : '.' ∈ w) : keyword? w = none := by
  refine List.find?_eq_none.mpr fun k _ hk => ?_
  have hpoint : '.' ∈ w.map Char.toUpper := List.mem_map.mpr ⟨'.', h, by decide⟩
  rw [beq_iff_eq.mp hk] at hpoint
  revert hpoint
  cases k <;> decide

theorem Plain.columnize {name : String} (h : Plain name) {alias? : Option String}
    (halias : ∀ a ∈ alias?, Plain a) : Plain (columnize name alias?) := by
  unfold BoundSql.columnize
  cases alias? with
  | none => exact h
  | some a =>
    dsimp only
    split
    · exact h
    · have hpoint : Solid ".".toList := by decide
      refine ⟨?_, keyword?_of_point (by simp)⟩
      intro c hc
      rw [String.toList_append, String.toList_append, List.mem_append, List.mem_append] at hc
      rcases hc with (hc | hc) | hc
      · exact (halias a rfl).1 c hc
      · exact hpoint c hc
      · exact h.1 c hc

namespace Predicate

/-- What the factories make, `not` at any depth. -/
inductive Made : Predicate → Prop
  | eq (v : Value) : Made (eq v)
  | notEq (v : Value) : Made (notEq v)
  | inList (v : Value) : Made (inList v)
  | gt (v : Value) : Made (gt v)
  | gte (v : Value) : Made (gte v)
  | lt (v : Value) : Made (lt v)
  | lte (v : Value) : Made (lte v)
  | after (v : Value) : Made (after v)
  | before (v : Value) : Made (before v)
  | like (v : Value) : Made (like v)
  | between (low high : Value) : Made (between low high)
  | isNull : Made isNull
  | blank : Made blank
  | notValue (v : Value) : Made (negation (.value v))
  | not {p : Predicate} (h : Made p) : Made (negation (.predicate p))

end Predicate

inductive Operand.Made : Operand → Prop
  | value (v : Value) : Made (.value v)
  | predicate {p : Predicate} (h : p.Made) : Made (.predicate p)

theorem Value.made_comparison (v : Value) : Predicate.Made (.template v.comparison [v]) := by
  unfold comparison
  split
  · exact .inList v
  · exact .eq v

theorem Operand.Made.toPredicate {o : Operand} (h : o.Made) : o.toPredicate.Made := by
  cases h with
  | value v => exact v.made_comparison
  | predicate h => exact h

structure Inner (text : String) (ts : List Token) : Prop where
  visible : Text.blank text = false
  lexes : Lexes text.toList ts
  nonempty : ts ≠ []
  sheltered : Sheltered ts
  reads : ∀ row n, ∃ t m, Row.ReadsCondition row n ts t m

/-- A text that can stand between ANDs. -/
structure Conjunct (text : String) (ts : List Token) : Prop extends Inner text ts where
  guarded : Guarded ts
  readsTerm : ∀ row n, ∃ t m, Row.ReadsTerm row n ts t m

theorem Conjunct.of_term {text : String} {ts : List Token} (visible : Text.blank text = false)
    (lexes : Lexes text.toList ts) (nonempty : ts ≠ []) (sheltered : Sheltered ts) (guarded : Guarded ts)
    (readsTerm : ∀ row n, ∃ t m, Row.ReadsTerm row n ts t m) : Conjunct text ts where
  visible := visible
  lexes := lexes
  nonempty := nonempty
  sheltered := sheltered
  guarded := guarded
  readsTerm := readsTerm
  reads row n := by
    obtain ⟨t, m, h⟩ := readsTerm row n
    exact ⟨t, m, h.terms.condition⟩

theorem Inner.negate {text : String} {ts : List Token} (h : Inner text ts) :
    Conjunct (negate text) (.word Keyword.not.word :: .opening :: (ts ++ [.closing])) := by
  have hempty : text.isEmpty = false := isEmpty_eq_false_of_not_blank h.visible
  have htext : (BoundSql.negate text).toList =
      Keyword.not.word ++ ' ' :: '(' :: (text.toList ++ [')']) := by
    rw [BoundSql.negate, if_neg (Bool.eq_false_iff.mp hempty), String.toList_append, String.toList_append]
    rfl
  have hlexes := Lexes.parenthesis (w := Keyword.not.word) (by decide) h.lexes
  rw [← htext] at hlexes
  refine Conjunct.of_term ((blank_negate text).trans hempty) hlexes (List.cons_ne_nil _ _) ?_ ?_ ?_
  · exact (Sheltered.words [Keyword.not.word]).append h.sheltered.parenthesis
  · have hnot : ∀ w ∈ [Keyword.not.word], keyword? w ≠ some .or := by decide
    exact (Guarded.words hnot).append (Guarded.parenthesis h.sheltered)
  · intro row n
    obtain ⟨t, m, hreads⟩ := h.reads row n
    exact ⟨t.not, m, hreads.not⟩

/-- A predicate can stand inside a parenthesis, and between ANDs unless it is `blank`. -/
def Predicate.Readable (p : Predicate) (column : String) : Prop :=
  (∃ ts, Inner (p.render column) ts) ∧ (p ≠ .blank → ∃ ts, Conjunct (p.render column) ts)

theorem Predicate.Readable.of_conjunct {p : Predicate} {column : String}
    (h : ∃ ts, Conjunct (p.render column) ts) : p.Readable column :=
  ⟨h.imp fun _ hts => hts.toInner, fun _ => h⟩

theorem substitute_append (column : List Char) {cs : List Char} (h : '%' ∉ cs) (rest : List Char) :
    substitute column (cs ++ rest) = cs ++ substitute column rest := by
  induction cs with
  | nil => rfl
  | cons c cs ih =>
    rw [List.mem_cons, not_or] at h
    rw [List.cons_append, substitute.eq_3 column c (cs ++ rest) (fun _ hc => absurd hc.symm h.1), ih h.2]
    rfl

theorem toList_render {sql : String} {cs : List Char} (hsql : sql.toList = '%' :: 's' :: cs)
    (binds : List Value) (column : String) :
    ((Predicate.template sql binds).render column).toList =
      column.toList ++ substitute column.toList cs := by
  rw [Predicate.render, fillTemplate, String.toList_ofList, hsql, substitute]

def Tail (ws : List Word) : Prop :=
  (∀ w ∈ ws, Solid w ∧ w ≠ []) ∧ '%' ∉ spaced ws ∧ (spaced ws).all Text.isBlank = false

instance (ws : List Word) : Decidable (Tail ws) := inferInstanceAs (Decidable (_ ∧ _ ∧ _))

theorem Tail.ne_nil {ws : List Word} (h : Tail ws) : ws ≠ [] := by
  rintro rfl
  exact Bool.false_ne_true h.2.2.symm

theorem Plain.finished {column : String} (h : Plain column) :
    ∀ w ∈ finished column.toList, keyword? w = none := by
  unfold Reading.finished
  split
  · exact nofun
  · intro w hw
    rw [List.mem_singleton.mp hw]
    exact h.2

section

variable {column : String} (hc : Plain column)

include hc

theorem conjunct_template {sql : String} {binds : List Value} (ws : List Word)
    (hsql : sql.toList = '%' :: 's' :: spaced ws) (htail : Tail ws)
    (hor : ∀ w ∈ ws, keyword? w ≠ some .or)
    (hreads : ∀ row n, ∃ t m, Row.ReadsTerm row n ((finished column.toList ++ ws).map .word) t m) :
    ∃ ts, Conjunct ((Predicate.template sql binds).render column) ts := by
  have htext : ((Predicate.template sql binds).render column).toList = column.toList ++ spaced ws := by
    rw [toList_render hsql, ← List.append_nil (spaced ws), substitute_append _ htail.2.1, substitute]
  have hlexes := Lexes.spaced htail.1 (Lexes.solid hc.1)
  have hwords : ∀ w ∈ finished column.toList ++ ws, keyword? w ≠ some .or := by
    intro w hw
    rcases List.mem_append.mp hw with hw | hw
    · exact ne_or_of_keyword?_eq_none (hc.finished w hw)
    · exact hor w hw
  rw [← htext, ← List.map_append] at hlexes
  refine ⟨_, .of_term ?_ hlexes ?_ (.words _) (.words hwords) hreads⟩
  · rw [Text.blank, htext, List.all_append, htail.2.2, Bool.and_false]
  · rw [Ne, List.map_eq_nil_iff, List.append_eq_nil_iff]
    exact fun h => htail.ne_nil h.2

theorem conjunct_comparison {sql : String} {binds : List Value} (ws : List Word)
    (hsql : sql.toList = '%' :: 's' :: spaced ws) (htail : Tail ws) (hws : ∀ w ∈ ws, keyword? w = none) :
    ∃ ts, Conjunct ((Predicate.template sql binds).render column) ts := by
  have hwords : ∀ w ∈ finished column.toList ++ ws, keyword? w = none := by
    intro w hw
    exact (List.mem_append.mp hw).elim (hc.finished w) (hws w)
  exact conjunct_template hc ws hsql htail (fun w hw => ne_or_of_keyword?_eq_none (hws w hw))
    fun row n => ⟨_, _, .words hwords n⟩

theorem conjunct_between (low high : Value) :
    ∃ ts, Conjunct ((Predicate.between low high).render column) ts := by
  have hmark : keyword? ['?'] = none := by decide
  refine conjunct_template hc [Keyword.between.word, ['?'], Keyword.and.word, ['?']] (by decide)
    (by decide) (by decide) fun row n => ?_
  exact ⟨_, _, .range hc.finished hmark hmark n⟩

theorem inner_blank : ∃ ts, Inner (Predicate.blank.render column) ts := by
  let front : List Word := ["IS".toList, "NULL".toList]
  let ws : List Word := front ++ [Keyword.or.word, Keyword.not.word]
  have htail : Tail ws := by decide
  have htext : (Predicate.blank.render column).toList =
      (column.toList ++ spaced ws) ++ ' ' :: column.toList := by
    have hspaced : '%' ∉ spaced ws ++ [' '] := by decide
    have hsql : "%s IS NULL OR NOT %s".toList = '%' :: 's' :: (spaced ws ++ [' '] ++ ['%', 's']) := by
      decide
    rw [Predicate.blank, toList_render hsql, substitute_append _ hspaced, substitute, substitute,
      List.append_nil, List.append_assoc, List.append_assoc]
    rfl
  have hlexes := (Lexes.spaced htail.1 (Lexes.solid hc.1)).space (Lexes.solid hc.1)
  have hshape : (finished column.toList).map Token.word ++ ws.map .word ++
        (finished column.toList).map .word =
      (finished column.toList ++ front).map .word ++
        .word Keyword.or.word :: .word Keyword.not.word :: (finished column.toList).map .word := by
    rw [List.map_append, List.map_append, List.append_assoc, List.append_assoc, List.append_assoc]
    rfl
  rw [← htext, hshape] at hlexes
  have hfront : ∀ w ∈ finished column.toList ++ front, keyword? w = none := by
    have hkeyword : ∀ w ∈ front, keyword? w = none := by decide
    intro w hw
    exact (List.mem_append.mp hw).elim (hc.finished w) (hkeyword w)
  refine ⟨_, ?_, hlexes, ?_, ?_, ?_⟩
  · rw [Text.blank, htext, List.all_append, List.all_append, htail.2.2, Bool.and_false, Bool.false_and]
  · exact fun h => List.cons_ne_nil _ _ (List.append_eq_nil_iff.mp h).2
  · exact (Sheltered.words _).append
      (Sheltered.words (Keyword.or.word :: Keyword.not.word :: finished column.toList))
  · intro row n
    exact ⟨_, _, (Row.ReadsTerm.words hfront n).or (.negated hc.finished _)⟩

theorem Predicate.Made.readable {p : Predicate} (h : p.Made) : p.Readable column := by
  have hcompare (words : List String) {sql : String} {binds : List Value}
      (h : sql.toList = '%' :: 's' :: spaced (words.map String.toList) ∧
        Tail (words.map String.toList) ∧ ∀ w ∈ words.map String.toList, keyword? w = none) :
      (Predicate.template sql binds).Readable column :=
    .of_conjunct (conjunct_comparison hc _ h.1 h.2.1 h.2.2)
  induction h with
  | eq v => exact hcompare ["=", "?"] (by decide)
  | notEq v => exact hcompare ["<>", "?"] (by decide)
  | inList v => exact hcompare ["IN", "?"] (by decide)
  | gt v | after v => exact hcompare [">", "?"] (by decide)
  | gte v => exact hcompare [">=", "?"] (by decide)
  | lt v | before v => exact hcompare ["<", "?"] (by decide)
  | lte v => exact hcompare ["<=", "?"] (by decide)
  | like v => exact hcompare ["LIKE", "?"] (by decide)
  | between low high => exact .of_conjunct (conjunct_between hc low high)
  | isNull => exact hcompare ["IS", "NULL"] (by decide)
  | blank => exact ⟨inner_blank hc, fun h => absurd rfl h⟩
  | notValue v =>
    have hvalue : (Predicate.template v.comparison [v]).Readable column := by
      unfold Value.comparison
      split
      · exact hcompare ["IN", "?"] (by decide)
      · exact hcompare ["=", "?"] (by decide)
    obtain ⟨ts, hts⟩ := hvalue.1
    exact .of_conjunct ⟨_, hts.negate⟩
  | not h ih =>
    obtain ⟨ts, hts⟩ := ih.1
    exact .of_conjunct ⟨_, hts.negate⟩

end

theorem Conjunct.read_eq {text : String} {ts : List Token} (h : Conjunct text ts) {row : Row}
    {n m : Nat} {t : Truth} (hterm : Row.ReadsTerm row n ts t m) : row.read n text = some (t, m) := by
  rw [Row.read, h.lexes.tokens_eq, hterm.terms.condition.readTokens h.nonempty]

theorem toList_chain_and {l l' : Joiner × String} (h : l'.1 = .and) (rest : List (Joiner × String)) :
    (chain (l :: l' :: rest)).toList =
      (l.2.toList ++ ' ' :: Keyword.and.word) ++ ' ' :: (chain (l' :: rest)).toList := by
  rw [chain, joined_cons, h, chain, String.append_assoc]
  simp [Joiner.sql, Keyword.word]

theorem chain_reads {leaves : List (Joiner × String)} (hne : leaves ≠ [])
    (h : ∀ l ∈ leaves, l.1 = .and ∧ ∃ ts, Conjunct l.2 ts) :
    ∃ ts, Lexes (chain leaves).toList ts ∧ ts ≠ [] ∧ Guarded ts ∧
      ∀ row n, ∃ t m, Row.ReadsTerms row n ts t m ∧ row.readAll n (leaves.map (·.2)) = some (t, m) := by
  induction leaves with
  | nil => exact absurd rfl hne
  | cons l rest ih =>
    obtain ⟨-, ts, hts⟩ := h l List.mem_cons_self
    cases rest with
    | nil =>
      have htext : chain [l] = l.2 := String.append_empty
      refine ⟨ts, htext ▸ hts.lexes, hts.nonempty, hts.guarded, fun row n => ?_⟩
      obtain ⟨t, m, hterm⟩ := hts.readsTerm row n
      refine ⟨t, m, hterm.terms, ?_⟩
      rw [List.map_cons, List.map_nil, Row.readAll, hts.read_eq hterm]
      exact congrArg (fun t => some (t, m)) (Truth.and_true t)
    | cons l' rest =>
      obtain ⟨us, hlexes, -, hguarded, hreads⟩ :=
        ih (List.cons_ne_nil _ _) fun x hx => h x (List.mem_cons_of_mem l hx)
      have hjoiner : l'.1 = .and := (h l' (List.mem_cons_of_mem l List.mem_cons_self)).1
      have hand : Solid Keyword.and.word := by decide
      have hall := (hts.lexes.space (Lexes.solid hand)).space hlexes
      rw [← toList_chain_and hjoiner, List.append_assoc] at hall
      refine ⟨_, hall, ?_, ?_, fun row n => ?_⟩
      · exact fun hnil => hts.nonempty (List.append_eq_nil_iff.mp hnil).1
      · have hkeyword : ∀ w ∈ [Keyword.and.word], keyword? w ≠ some .or := by decide
        exact hts.guarded.append ((Guarded.words hkeyword).append hguarded)
      · obtain ⟨t, m, hterm⟩ := hts.readsTerm row n
        obtain ⟨u, k, hterms, hrest⟩ := hreads row m
        refine ⟨t.and u, k, hterm.and hterms, ?_⟩
        rw [List.map_cons, Row.readAll, hts.read_eq hterm]
        exact congrArg (Option.bind · _) hrest

def Pair.Made : Pair → Prop
  | .literal _ => False
  | .column name operand => Plain name ∧ operand.Made

namespace Composite

structure OfMaps (c : Composite) : Prop where
  aliases : ∀ name ∈ c.alias?, Plain name
  maps : ∀ e ∈ c.entries, ∃ pairs, e = .mk .and (.pairs pairs) ∧ ∀ p ∈ pairs, p.Made

/-- No leaf is a `blank`. Beneath a negation there may be one. -/
def BlankNegated (c : Composite) : Prop :=
  ∀ s ∈ c.entries.flatMap Entry.sources, ∀ p ∈ s.2.predicate?, p ≠ .blank

theorem ofMaps_empty {alias? : Option String} (h : ∀ name ∈ alias?, Plain name) :
    OfMaps { empty with alias? := alias? } where
  aliases := h
  maps := nofun

theorem OfMaps.push {c : Composite} (h : c.OfMaps) {pairs : List Pair} (hpairs : ∀ p ∈ pairs, p.Made) :
    (c.push .and (.pairs pairs)).OfMaps where
  aliases := h.aliases
  maps e he := by
    rcases List.mem_append.mp he with he | he
    · exact h.maps e he
    · exact ⟨pairs, List.mem_singleton.mp he, hpairs⟩

theorem BlankNegated.push {c : Composite} (h : c.BlankNegated) {pairs : List Pair}
    (hpairs : ∀ p ∈ pairs, ∀ q ∈ p.source.predicate?, q ≠ .blank) :
    (c.push .and (.pairs pairs)).BlankNegated := by
  intro s hs
  rw [Composite.push, List.flatMap_append, List.mem_append, List.flatMap_singleton] at hs
  rcases hs with hs | hs
  · exact h s hs
  · obtain ⟨source, hsource, rfl⟩ := List.mem_map.mp hs
    obtain ⟨pair, hpair, rfl⟩ := List.mem_map.mp hsource
    exact hpairs pair hpair

def leafTexts (c : Composite) : List (Joiner × String) := entryTexts c.alias? c.entries

theorem OfMaps.source {c : Composite} (h : c.OfMaps) :
    ∀ s ∈ c.entries.flatMap Entry.sources,
      s.1 = .and ∧ ∃ name p, s.2 = .column name p ∧ Plain name ∧ p.Made := by
  intro s hs
  obtain ⟨e, he, hs⟩ := List.mem_flatMap.mp hs
  obtain ⟨pairs, rfl, hpairs⟩ := h.maps e he
  obtain ⟨source, hsource, rfl⟩ := List.mem_map.mp hs
  obtain ⟨pair, hpair, rfl⟩ := List.mem_map.mp hsource
  have hmade := hpairs pair hpair
  cases pair with
  | literal sql => exact absurd hmade id
  | column name operand => exact ⟨rfl, name, operand.toPredicate, rfl, hmade.1, hmade.2.toPredicate⟩

theorem OfMaps.conjuncts {c : Composite} (h : c.OfMaps) (hblank : c.BlankNegated) :
    ∀ l ∈ c.leafTexts, l.1 = .and ∧ ∃ ts, Conjunct l.2 ts := by
  intro l hl
  rw [leafTexts, entryTexts_eq_map] at hl
  obtain ⟨s, hs, rfl⟩ := List.mem_map.mp hl
  obtain ⟨hjoiner, name, p, hsource, hname, hp⟩ := h.source s hs
  have hne : p ≠ .blank := hblank s hs p (by rw [hsource]; rfl)
  refine ⟨hjoiner, ?_⟩
  rw [hsource]
  exact (hp.readable (hname.columnize h.aliases)).2 hne

theorem OfMaps.sql_eq_chain {c : Composite} (h : c.OfMaps) (hblank : c.BlankNegated) :
    c.compile.sql = chain c.leafTexts := by
  have hstaying : staying c.leafTexts = c.leafTexts := by
    refine List.filter_eq_self.mpr fun l hl => ?_
    obtain ⟨-, ts, hts⟩ := h.conjuncts hblank l hl
    rw [hts.visible]
    rfl
  rw [← hstaying]
  exact joinLeaves_eq_chain _

theorem OfMaps.reads {c : Composite} (h : c.OfMaps) (hblank : c.BlankNegated) :
    (∀ w ∈ outerWords 0 (tokens c.compile.sql), keyword? w ≠ some .or) ∧
      ∀ row : Row, ∃ t n, row.read 0 c.compile.sql = some (t, n) ∧
        row.readAll 0 (c.leafTexts.map (·.2)) = some (t, n) := by
  rw [h.sql_eq_chain hblank]
  by_cases hne : c.leafTexts = []
  · rw [hne]
    exact ⟨nofun, fun row => ⟨.true, 0, rfl, rfl⟩⟩
  · obtain ⟨ts, hlexes, hts, hguarded, hreads⟩ := chain_reads hne (h.conjuncts hblank)
    rw [hlexes.tokens_eq]
    refine ⟨?_, fun row => ?_⟩
    · obtain ⟨ws, hws, houter⟩ := hguarded []
      rw [List.append_nil, outerWords, List.append_nil] at houter
      rwa [houter]
    · obtain ⟨t, n, hterms, hall⟩ := hreads row 0
      refine ⟨t, n, ?_, hall⟩
      rw [Row.read, hlexes.tokens_eq, hterms.condition.readTokens hts]

/-- A composite of maps joined by AND has no OR outside parentheses. For every row its text is read as the
conjunction of its leaves, and a row that meets it with one more map, whose values are bound behind the
others, meets it without that map. -/
theorem reads_as_conjunction {c : Composite} (h : c.OfMaps) (hblank : c.BlankNegated) :
    (∀ w ∈ outerWords 0 (tokens c.compile.sql), keyword? w ≠ some .or) ∧
      (∀ row : Row, ∃ t n, row.read 0 c.compile.sql = some (t, n) ∧
        row.readAll 0 (c.leafTexts.map (·.2)) = some (t, n)) ∧
      ∀ pairs, (c.push .and (.pairs pairs)).OfMaps → (c.push .and (.pairs pairs)).BlankNegated →
        (∃ added, (c.push .and (.pairs pairs)).compile.binds = c.compile.binds ++ added) ∧
        ∀ row : Row, row.Meets (c.push .and (.pairs pairs)).compile.sql → row.Meets c.compile.sql := by
  obtain ⟨hor, hreads⟩ := h.reads hblank
  refine ⟨hor, hreads, fun pairs hmore hmoreBlank => ⟨⟨_, entryBinds_append ..⟩, fun row hmeets => ?_⟩⟩
  obtain ⟨n, hmeets⟩ := hmeets
  obtain ⟨t, m, hread, hall⟩ := (hmore.reads hmoreBlank).2 row
  rw [hmeets] at hread
  obtain ⟨rfl, rfl⟩ := Prod.mk.inj (Option.some.inj hread.symm)
  have htexts : (c.push .and (.pairs pairs)).leafTexts =
      c.leafTexts ++ entryTexts c.alias? [.mk .and (.pairs pairs)] := entryTexts_append ..
  rw [htexts, List.map_append] at hall
  obtain ⟨k, hshort⟩ := Row.readAll_of_append hall
  obtain ⟨u, l, hown, hleaves⟩ := hreads row
  rw [hshort] at hleaves
  obtain ⟨rfl, rfl⟩ := Prod.mk.inj (Option.some.inj hleaves.symm)
  exact ⟨_, hown⟩

theorem reads_as_conjunction_negated_blank :
    let first : List Pair :=
      [.column "id" (.value (.list [.int 1, .int 2])),
        .column "age" (.predicate (.between (.int 18) (.int 65)))]
    let second : List Pair :=
      [.column "b.active" (.predicate (.negation (.predicate (.negation (.predicate .blank)))))]
    let third : List Pair := [.column "name" (.predicate (.like (.text "a%")))]
    let c : Composite := (Composite.push ⟨[], some "t"⟩ .and (.pairs first)).push .and (.pairs second)
    let more : Composite := c.push .and (.pairs third)
    c.OfMaps ∧ c.BlankNegated ∧ more.OfMaps ∧ more.BlankNegated ∧
      more.compile.sql = "t.id IN ? AND t.age BETWEEN ? AND ? AND " ++
        "NOT (NOT (b.active IS NULL OR NOT b.active)) AND t.name LIKE ?" ∧
      (∀ w ∈ outerWords 0 (tokens c.compile.sql), keyword? w ≠ some .or) ∧
      ∀ row : Row, row.Meets more.compile.sql → row.Meets c.compile.sql := by
  intro first second third c more
  have halias : ∀ name ∈ some "t", Plain name := by
    rintro name ⟨⟩
    decide
  have hfirst : ∀ p ∈ first, p.Made := by
    refine List.forall_mem_cons.mpr ⟨⟨by decide, .value _⟩, List.forall_mem_singleton.mpr ?_⟩
    exact ⟨by decide, .predicate (.between _ _)⟩
  have hsecond : ∀ p ∈ second, p.Made :=
    List.forall_mem_singleton.mpr ⟨by decide, .predicate (.not (.not .blank))⟩
  have hthird : ∀ p ∈ third, p.Made :=
    List.forall_mem_singleton.mpr ⟨by decide, .predicate (.like _)⟩
  have htemplate {sql : String} {binds : List Value} (hsql : sql ≠ "%s IS NULL OR NOT %s") :
      Predicate.template sql binds ≠ .blank := fun h => hsql (Predicate.template.inj h).1
  have hc : c.OfMaps := ((ofMaps_empty halias).push hfirst).push hsecond
  have hblank : c.BlankNegated := by
    have hempty : BlankNegated ⟨[], some "t"⟩ := nofun
    refine (hempty.push (List.forall_mem_cons.mpr ⟨?_, List.forall_mem_singleton.mpr ?_⟩)).push
      (List.forall_mem_singleton.mpr ?_) <;> rintro q ⟨⟩
    · exact htemplate (by decide)
    · exact htemplate (by decide)
    · exact nofun
  have hmore : more.OfMaps := hc.push hthird
  have hmoreBlank : more.BlankNegated := by
    refine hblank.push (List.forall_mem_singleton.mpr ?_)
    rintro q ⟨⟩
    exact htemplate (by decide)
  obtain ⟨hor, -, hwiden⟩ := reads_as_conjunction hc hblank
  exact ⟨hc, hblank, hmore, hmoreBlank, by decide +kernel, hor, (hwiden third hmore hmoreBlank).2⟩

/-- The OR of a `blank` between ANDs lets a row pass that does not meet the condition before it. -/
theorem blank_widens :
    let c : Composite := Composite.push ⟨[], some "t"⟩ .and (.pairs [.column "b" (.value (.int 1))])
    let more : Composite := c.push .and (.pairs [.column "a" (.predicate .blank)])
    let row : Row := ⟨fun _ => .false⟩
    c.OfMaps ∧ more.OfMaps ∧ more.compile.sql = "t.b = ? AND t.a IS NULL OR NOT t.a" ∧
      (∃ w ∈ outerWords 0 (tokens more.compile.sql), keyword? w = some .or) ∧
      row.Meets more.compile.sql ∧ ¬ row.Meets c.compile.sql := by
  intro c more row
  have halias : ∀ name ∈ some "t", Plain name := by
    rintro name ⟨⟩
    decide
  have hc : c.OfMaps := by
    refine (ofMaps_empty halias).push (List.forall_mem_singleton.mpr ?_)
    exact ⟨by decide, .value _⟩
  have hmore : more.OfMaps := by
    refine hc.push (List.forall_mem_singleton.mpr ?_)
    exact ⟨by decide, .predicate .blank⟩
  have hread : row.read 0 more.compile.sql = some (.true, 1) := by decide +kernel
  have hshort : row.read 0 c.compile.sql = some (.false, 1) := by decide +kernel
  refine ⟨hc, hmore, by decide +kernel, ⟨Keyword.or.word, by decide +kernel, by decide⟩, ⟨1, hread⟩, ?_⟩
  rintro ⟨n, hmeets⟩
  rw [hshort] at hmeets
  cases hmeets

end Composite

end BoundSql
