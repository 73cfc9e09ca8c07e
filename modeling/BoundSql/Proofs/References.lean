import BoundSql.Config

/-! References to environment variables: each text has one reading as literals and references. -/

namespace BoundSql

def opening : List Char := ['$', '{']

abbrev Literal := { cs : List Char // ¬ opening <:+: cs }

abbrev Key := { cs : List Char // '}' ∉ cs }

/-- A text as literals with the references between them. The last reference may be unterminated. -/
inductive Template where
  | literal (text : Literal)
  | unterminated (text : Literal) (key : Key)
  | reference (text : Literal) (key : Key) (rest : Template)

inductive Stretch where
  | literal (text : List Char)
  | unterminated (key : String)
  | reference (key : String)

namespace Stretch

/-- A reference has a value when it is terminated, and its key is not empty and names a variable that is
set. -/
def Resolves (env : Environment) : Stretch → Prop
  | literal _ => True
  | unterminated _ => False
  | reference key => key ≠ "" ∧ ∃ value, env key = some value

def value (env : Environment) : Stretch → List Char
  | literal text => text
  | unterminated _ => []
  | reference key => ((env key).getD "").toList

def fault? (env : Environment) : Stretch → Option Error
  | literal _ => none
  | unterminated key => some (.unterminatedReference key)
  | reference key =>
    if key = "" then some .emptyReference
    else if (env key).isNone then some (.missingVariable key)
    else none

theorem kind_of_fault {env : Environment} {s : Stretch} {e : Error} (h : s.fault? env = some e) :
    e.kind = "Config" := by
  cases s with
  | literal text => cases h
  | unterminated key => cases h; rfl
  | reference key =>
    rw [fault?] at h
    split at h
    · cases h; rfl
    · split at h
      · cases h; rfl
      · cases h

def outcome (env : Environment) : List Stretch → Except Error (List Char)
  | [] => .ok []
  | s :: rest =>
    match s.fault? env with
    | some e => .error e
    | none => (outcome env rest).map (s.value env ++ ·)

theorem fault?_eq_none_iff {env : Environment} {s : Stretch} : s.fault? env = none ↔ s.Resolves env := by
  cases s with
  | literal text => exact ⟨fun _ => trivial, fun _ => rfl⟩
  | unterminated key => exact ⟨nofun, nofun⟩
  | reference key =>
    rw [fault?, Resolves]
    by_cases hkey : key = ""
    · rw [if_pos hkey]
      exact ⟨nofun, fun h => absurd hkey h.1⟩
    · rw [if_neg hkey]
      cases env key with
      | none => exact ⟨nofun, fun ⟨_, value, hvalue⟩ => nomatch hvalue⟩
      | some value => exact ⟨fun _ => ⟨hkey, value, rfl⟩, fun _ => rfl⟩

theorem outcome_cons_of_resolves {env : Environment} {s : Stretch} (h : s.Resolves env)
    (rest : List Stretch) : outcome env (s :: rest) = (outcome env rest).map (s.value env ++ ·) := by
  rw [outcome, fault?_eq_none_iff.mpr h]

theorem outcome_cons_of_fault {env : Environment} {s : Stretch} {e : Error} (h : s.fault? env = some e)
    (rest : List Stretch) : outcome env (s :: rest) = .error e := by
  rw [outcome, h]

theorem outcome_of_resolve {env : Environment} {ss : List Stretch} (h : ∀ s ∈ ss, s.Resolves env) :
    outcome env ss = .ok (ss.flatMap (·.value env)) := by
  induction ss with
  | nil => rfl
  | cons s rest ih =>
    rw [outcome_cons_of_resolves (h s List.mem_cons_self), ih fun r hr => h r (List.mem_cons_of_mem s hr)]
    rfl

theorem outcome_of_fault {env : Environment} {before : List Stretch} {s : Stretch} {e : Error}
    (hbefore : ∀ r ∈ before, r.Resolves env) (h : s.fault? env = some e) (rest : List Stretch) :
    outcome env (before ++ s :: rest) = .error e := by
  induction before with
  | nil => exact outcome_cons_of_fault h rest
  | cons r before ih =>
    rw [List.cons_append, outcome_cons_of_resolves (hbefore r List.mem_cons_self),
      ih fun q hq => hbefore q (List.mem_cons_of_mem r hq)]
    rfl

theorem resolve_or_fault (env : Environment) (ss : List Stretch) :
    (∀ s ∈ ss, s.Resolves env) ∨ ∃ before s rest e, ss = before ++ s :: rest ∧
      (∀ r ∈ before, r.Resolves env) ∧ s.fault? env = some e := by
  induction ss with
  | nil => exact .inl nofun
  | cons s rest ih =>
    cases hfault : s.fault? env with
    | some e => exact .inr ⟨[], s, rest, e, rfl, nofun, hfault⟩
    | none =>
      have hs := fault?_eq_none_iff.mp hfault
      rcases ih with hrest | ⟨before, r, after, e, rfl, hbefore, hr⟩
      · exact .inl (List.forall_mem_cons.mpr ⟨hs, hrest⟩)
      · exact .inr ⟨s :: before, r, after, e, rfl, List.forall_mem_cons.mpr ⟨hs, hbefore⟩, hr⟩

theorem outcome_eq_ok_iff {env : Environment} {ss : List Stretch} {out : List Char} :
    outcome env ss = .ok out ↔ (∀ s ∈ ss, s.Resolves env) ∧ out = ss.flatMap (·.value env) := by
  constructor
  · intro h
    rcases resolve_or_fault env ss with hall | ⟨before, s, rest, e, rfl, hbefore, hs⟩
    · exact ⟨hall, Except.ok.inj (h.symm.trans (outcome_of_resolve hall))⟩
    · exact nomatch h.symm.trans (outcome_of_fault hbefore hs rest)
  · rintro ⟨hall, rfl⟩
    exact outcome_of_resolve hall

theorem outcome_eq_error_iff {env : Environment} {ss : List Stretch} {e : Error} :
    outcome env ss = .error e ↔ ∃ before s rest, ss = before ++ s :: rest ∧
      (∀ r ∈ before, r.Resolves env) ∧ s.fault? env = some e := by
  constructor
  · intro h
    rcases resolve_or_fault env ss with hall | ⟨before, s, rest, e', rfl, hbefore, hs⟩
    · exact nomatch h.symm.trans (outcome_of_resolve hall)
    · obtain rfl := Except.error.inj (h.symm.trans (outcome_of_fault hbefore hs rest))
      exact ⟨before, s, rest, rfl, hbefore, hs⟩
  · rintro ⟨before, s, rest, rfl, hbefore, hs⟩
    exact outcome_of_fault hbefore hs rest

theorem outcome_congr {env other : Environment} {ss : List Stretch}
    (h : ∀ key, .reference key ∈ ss → env key = other key) : outcome env ss = outcome other ss := by
  induction ss with
  | nil => rfl
  | cons s rest ih =>
    have hrest := ih fun key hkey => h key (List.mem_cons_of_mem s hkey)
    have hs : s.fault? env = s.fault? other ∧ s.value env = s.value other := by
      cases s with
      | literal text => exact ⟨rfl, rfl⟩
      | unterminated key => exact ⟨rfl, rfl⟩
      | reference key =>
        have hkey := h key List.mem_cons_self
        exact ⟨by rw [fault?, fault?, hkey], by rw [value, value, hkey]⟩
    rw [outcome, outcome, hs.1, hs.2, hrest]

end Stretch

section Reading

variable {as bs rs ss : List Char}

/-- The longer of two literals would have the opening that ends the other one in it. -/
theorem eq_nil_of_opening_append {ds : List Char} (h : ¬ opening <:+: as ++ ds)
    (heq : opening ++ rs = ds ++ (opening ++ ss)) : ds = [] := by
  match ds, h, heq with
  | [], _, _ => rfl
  | [_], _, heq => exact absurd (List.cons.inj (List.cons.inj heq).2).1 (by decide)
  | c :: d :: ds, h, heq =>
    have hc : '$' = c := (List.cons.inj heq).1
    have hd : '{' = d := (List.cons.inj (List.cons.inj heq).2).1
    refine absurd ⟨as, ds, ?_⟩ h
    rw [← hc, ← hd, List.append_assoc]
    rfl

theorem literal_append_inj (ha : ¬ opening <:+: as) (hb : ¬ opening <:+: bs)
    (h : as ++ (opening ++ rs) = bs ++ (opening ++ ss)) : as = bs ∧ rs = ss := by
  rcases List.append_eq_append_iff.mp h with ⟨ds, rfl, heq⟩ | ⟨ds, rfl, heq⟩
  · obtain rfl := eq_nil_of_opening_append hb heq
    rw [List.append_nil]
    exact ⟨rfl, List.append_cancel_left heq⟩
  · obtain rfl := eq_nil_of_opening_append ha heq
    rw [List.append_nil]
    exact ⟨rfl, (List.append_cancel_left heq).symm⟩

theorem literal_ne {cs : List Char} (h : ¬ opening <:+: cs) : cs ≠ as ++ (opening ++ rs) := by
  rintro rfl
  exact h (List.append_assoc as opening rs ▸ List.infix_append as opening rs)

theorem key_ne {cs : List Char} (h : '}' ∉ cs) : cs ≠ as ++ '}' :: rs := by
  rintro rfl
  exact h (List.mem_append_right as List.mem_cons_self)

theorem takeWhile_key (ha : '}' ∉ as) (rs : List Char) :
    (as ++ '}' :: rs).takeWhile (· != '}') = as := by
  have hpass : ∀ c ∈ as, (c != '}') = true := fun c hc => bne_iff_ne.mpr (ne_of_mem_of_not_mem hc ha)
  have hstop : ('}' :: rs).takeWhile (· != '}') = [] := rfl
  rw [List.takeWhile_append_of_pos hpass, hstop, List.append_nil]

theorem key_append_inj (ha : '}' ∉ as) (hb : '}' ∉ bs)
    (h : as ++ '}' :: rs = bs ++ '}' :: ss) : as = bs ∧ rs = ss := by
  obtain rfl : as = bs := by rw [← takeWhile_key ha rs, h, takeWhile_key hb ss]
  exact ⟨rfl, (List.cons.inj (List.append_cancel_left h)).2⟩

theorem exists_opening (cs : List Char) :
    ¬ opening <:+: cs ∨ ∃ text rest, cs = text ++ (opening ++ rest) ∧ ¬ opening <:+: text := by
  induction cs with
  | nil => exact .inl fun h => nomatch List.eq_nil_of_infix_nil h
  | cons c cs ih =>
    by_cases hc : opening <+: c :: cs
    · obtain ⟨rest, hrest⟩ := hc
      exact .inr ⟨[], rest, hrest.symm, fun h => nomatch List.eq_nil_of_infix_nil h⟩
    · rcases ih with hcs | ⟨text, rest, rfl, htext⟩
      · exact .inl fun h => (List.infix_cons_iff.mp h).elim hc hcs
      · refine .inr ⟨c :: text, rest, rfl, fun h => (List.infix_cons_iff.mp h).elim ?_ htext⟩
        exact fun hstart => hc (hstart.trans (List.prefix_append (c :: text) _))

end Reading

namespace Template

def source : Template → List Char
  | literal text => text.1
  | unterminated text key => text.1 ++ (opening ++ key.1)
  | reference text key rest => text.1 ++ (opening ++ (key.1 ++ '}' :: rest.source))

def stretches : Template → List Stretch
  | literal text => [.literal text.1]
  | unterminated text key => [.literal text.1, .unterminated (String.ofList key.1)]
  | reference text key rest => .literal text.1 :: .reference (String.ofList key.1) :: rest.stretches

theorem source_injective {t u : Template} (h : t.source = u.source) : t = u := by
  induction t generalizing u with
  | literal text =>
    cases u with
    | literal text' => exact congrArg literal (Subtype.ext h)
    | unterminated text' key' => exact absurd h (literal_ne text.2)
    | reference text' key' rest' => exact absurd h (literal_ne text.2)
  | unterminated text key =>
    cases u with
    | literal text' => exact absurd h.symm (literal_ne text'.2)
    | unterminated text' key' =>
      obtain ⟨htext, hkey⟩ := literal_append_inj text.2 text'.2 h
      rw [Subtype.ext htext, Subtype.ext hkey]
    | reference text' key' rest' =>
      exact absurd (literal_append_inj text.2 text'.2 h).2 (key_ne key.2)
  | reference text key rest ih =>
    cases u with
    | literal text' => exact absurd h.symm (literal_ne text'.2)
    | unterminated text' key' =>
      exact absurd (literal_append_inj text.2 text'.2 h).2.symm (key_ne key'.2)
    | reference text' key' rest' =>
      obtain ⟨htext, hbehind⟩ := literal_append_inj text.2 text'.2 h
      obtain ⟨hkey, hrest⟩ := key_append_inj key.2 key'.2 hbehind
      rw [Subtype.ext htext, Subtype.ext hkey, ih hrest]

theorem exists_source (cs : List Char) : ∃ t : Template, t.source = cs := by
  induction hlength : cs.length using Nat.strongRecOn generalizing cs with
  | ind n ih =>
    rcases exists_opening cs with hcs | ⟨text, behind, rfl, htext⟩
    · exact ⟨.literal ⟨cs, hcs⟩, rfl⟩
    · by_cases hclosed : '}' ∈ behind
      · obtain ⟨key, rest, rfl, hkey⟩ := List.eq_append_cons_of_mem hclosed
        have hshorter : rest.length < n := by
          rw [← hlength]
          simp only [List.length_append, List.length_cons]
          omega
        obtain ⟨t, rfl⟩ := ih rest.length hshorter rest rfl
        exact ⟨.reference ⟨text, htext⟩ ⟨key, hkey⟩ t, rfl⟩
      · exact ⟨.unterminated ⟨text, htext⟩ ⟨behind, hclosed⟩, rfl⟩

end Template

section Expansion

variable (env : Environment)

theorem expandReferences_cons {c : Char} {rest : List Char} (h : ¬ opening <+: c :: rest) :
    expandReferences env none (c :: rest) = (expandReferences env none rest).map (c :: ·) := by
  rw [expandReferences]
  rintro tail rfl rfl
  exact h (List.prefix_append opening tail)

theorem not_opening_append {c : Char} {text behind : List Char} (htext : ¬ opening <:+: c :: text)
    (hbehind : behind = [] ∨ opening <+: behind) : ¬ opening <+: c :: (text ++ behind) := by
  intro h
  obtain ⟨hc, hbrace⟩ := List.cons_prefix_cons.mp h
  cases text with
  | nil =>
    rcases hbehind with rfl | ⟨rest, rfl⟩
    · cases List.prefix_nil.mp hbrace
    · exact absurd (List.cons_prefix_cons.mp hbrace).1 (by decide)
  | cons d text =>
    have hd := (List.cons_prefix_cons.mp hbrace).1
    rw [← hc, ← hd] at htext
    exact htext (List.prefix_append opening text).isInfix

theorem expandReferences_literal {text : List Char} (htext : ¬ opening <:+: text) {behind : List Char}
    (hbehind : behind = [] ∨ opening <+: behind) :
    expandReferences env none (text ++ behind) = (expandReferences env none behind).map (text ++ ·) := by
  induction text with
  | nil =>
    rw [List.nil_append]
    cases expandReferences env none behind <;> rfl
  | cons c text ih =>
    rw [List.cons_append, expandReferences_cons env (not_opening_append htext hbehind),
      ih fun h => htext (List.infix_cons h)]
    cases expandReferences env none behind <;> rfl

theorem expandReferences_key {key : List Char} (hkey : '}' ∉ key) (read behind : List Char) :
    expandReferences env (some read) (key ++ behind) =
      expandReferences env (some (key.reverse ++ read)) behind := by
  induction key generalizing read with
  | nil => rfl
  | cons c key ih =>
    have hc : c ≠ '}' := fun h => hkey (h ▸ List.mem_cons_self)
    rw [List.cons_append, expandReferences, ih fun h => hkey (List.mem_cons_of_mem c h), List.reverse_cons,
      List.append_assoc, List.singleton_append]
    exact hc

theorem expandReferences_opening {key : List Char} (hkey : '}' ∉ key) (behind : List Char) :
    expandReferences env none (opening ++ (key ++ behind)) =
      expandReferences env (some key.reverse) behind := by
  have hopen : expandReferences env none (opening ++ (key ++ behind)) =
      expandReferences env (some []) (key ++ behind) := by
    rw [opening, List.cons_append, List.cons_append, List.nil_append, expandReferences]
  rw [hopen, expandReferences_key env hkey, List.append_nil]

theorem expandReferences_closed {key rest : List Char} {ss : List Stretch}
    (h : expandReferences env none rest = Stretch.outcome env ss) :
    expandReferences env (some key.reverse) ('}' :: rest) =
      Stretch.outcome env (.reference (String.ofList key) :: ss) := by
  rw [expandReferences, List.reverse_reverse, h, Stretch.outcome, Stretch.fault?, Stretch.value]
  by_cases hkey : String.ofList key = ""
  · rw [if_pos hkey, if_pos (String.isEmpty_iff.mpr hkey)]
  · rw [if_neg hkey, if_neg (mt String.isEmpty_iff.mp hkey)]
    cases env (String.ofList key) <;> rfl

theorem Template.expandReferences_source (t : Template) :
    expandReferences env none t.source = Stretch.outcome env t.stretches := by
  induction t with
  | literal text =>
    have h := expandReferences_literal env text.2 (.inl rfl)
    rw [source, ← List.append_nil text.1, h]
    rfl
  | unterminated text key =>
    have hkey := expandReferences_opening env key.2 []
    rw [List.append_nil] at hkey
    rw [source, expandReferences_literal env text.2 (.inr (List.prefix_append _ _)), hkey, expandReferences,
      List.reverse_reverse]
    rfl
  | reference text key rest ih =>
    rw [source, expandReferences_literal env text.2 (.inr (List.prefix_append _ _)),
      expandReferences_opening env key.2, expandReferences_closed env ih]
    rfl

end Expansion

/-- Every text reads in one way as stretches. It expands to their values in order when every reference has
one; else the error is that of the first reference without, a mistake in the configuration. The variables
that no reference names do not matter. -/
theorem expandReferences_meaning (text : List Char) :
    ∃ t : Template, (∀ u : Template, u.source = text ↔ u = t) ∧
      (∀ env out, expandReferences env none text = .ok out ↔
        (∀ s ∈ t.stretches, s.Resolves env) ∧ out = t.stretches.flatMap (·.value env)) ∧
      (∀ env e, expandReferences env none text = .error e ↔
        e.kind = "Config" ∧ ∃ before s rest, t.stretches = before ++ s :: rest ∧
          (∀ r ∈ before, r.Resolves env) ∧ s.fault? env = some e) ∧
      ∀ env other : Environment, (∀ key, .reference key ∈ t.stretches → env key = other key) →
        expandReferences env none text = expandReferences other none text := by
  obtain ⟨t, rfl⟩ := Template.exists_source text
  refine ⟨t, fun u => ⟨Template.source_injective, congrArg Template.source⟩, fun env out => ?_,
    fun env e => ?_, fun env other h => ?_⟩
  · rw [t.expandReferences_source env, Stretch.outcome_eq_ok_iff]
  · rw [t.expandReferences_source env, Stretch.outcome_eq_error_iff]
    refine ⟨fun h => ⟨?_, h⟩, And.right⟩
    obtain ⟨-, s, -, -, -, hs⟩ := h
    exact Stretch.kind_of_fault hs
  · rw [t.expandReferences_source env, t.expandReferences_source other, Stretch.outcome_congr h]

example : expandReferences (fun key => if key = "A" then some "${B}" else none) none
    "$${A}$".toList = .ok "$${B}$".toList := by
  cbv

end BoundSql
