import BoundSql.Rows

/-! Whole runs of a cursor: its cache is what was taken, its answers those of a list with a position. -/

namespace BoundSql

abbrev Item := Option (Except Error Record)

def Item.record? : Item → Option Record
  | some (.ok record) => some record
  | _ => none

section

variable {σ : Type} [RowSource σ]

def polls (s : σ) : Nat → List Item × σ
  | 0 => ([], s)
  | n + 1 => ((polls s n).1 ++ [(RowSource.poll (polls s n).2).1], (RowSource.poll (polls s n).2).2)

/-- A source hands out records and then ends, as another source. -/
inductive Delivers : σ → List Record → σ → Prop
  | nil {s t : σ} (h : RowSource.poll s = (none, t)) : Delivers s [] t
  | cons {s t u : σ} {record : Record} {rest : List Record} (h : RowSource.poll s = (some (.ok record), t))
    (hrest : Delivers t rest u) : Delivers s (record :: rest) u

theorem Delivers.length_le {s t : σ} {records : List Record} (h : Delivers s records t) :
    records.length ≤ RowSource.size s := by
  induction h with
  | nil h => exact Nat.zero_le _
  | cons h _ ih => exact Nat.lt_of_le_of_lt ih (RowSource.size_poll h)

theorem RowStream.delivers (records : List Record) (reported final : Option Nat) :
    Delivers (⟨records.map .ok, reported, final⟩ : RowStream) records
      ⟨[], reported.or final, final⟩ := by
  induction records with
  | nil => exact .nil rfl
  | cons record rest ih => exact .cons rfl ih

end

structure Watched (σ : Type) where
  source : σ
  answers : List Item

namespace Watched

variable {σ : Type} [RowSource σ]

def start (s : σ) : Watched σ := ⟨s, []⟩

instance : RowSource (Watched σ) where
  poll w :=
    ((RowSource.poll w.source).1,
      ⟨(RowSource.poll w.source).2, w.answers ++ [(RowSource.poll w.source).1]⟩)
  reported w := RowSource.reported w.source
  size w := RowSource.size w.source
  size_poll := by
    intro s item t h
    obtain ⟨hitem, rfl⟩ := Prod.mk.inj h
    exact RowSource.size_poll (Prod.ext hitem rfl)

end Watched

namespace Rows

variable {σ α : Type}

inductive Step where
  | hasNext
  | next
  | current
  | currentRecord
  | advance
  | rewind
  | rowCount

variable [RowSource σ]

def polled (r : Rows σ α) : Rows σ α :=
  match Item.record? (RowSource.poll r.source).1 with
  | some record => { r with source := (RowSource.poll r.source).2, cache := r.cache.push record }
  | none => { r with source := (RowSource.poll r.source).2, exhausted := true }

theorem polled_of_record {r : Rows σ α} {record : Record}
    (h : Item.record? (RowSource.poll r.source).1 = some record) :
    r.polled = { r with source := (RowSource.poll r.source).2, cache := r.cache.push record } := by
  rw [polled, h]

theorem polled_of_no_record {r : Rows σ α} (h : Item.record? (RowSource.poll r.source).1 = none) :
    r.polled = { r with source := (RowSource.poll r.source).2, exhausted := true } := by
  rw [polled, h]

theorem source_polled (r : Rows σ α) : r.polled.source = (RowSource.poll r.source).2 := by
  unfold polled
  split <;> rfl

theorem cache_size_polled {r : Rows σ α} {record : Record}
    (h : Item.record? (RowSource.poll r.source).1 = some record) :
    r.polled.cache.size = r.cache.size + 1 := by
  rw [polled_of_record h, Array.size_push]

theorem fetchMore_of_exhausted {r : Rows σ α} (h : r.exhausted = true) (missing : Nat) :
    fetchMore (missing + 1) r = (.ok false, r) := by
  rw [fetchMore, if_pos h]

theorem fetchMore_of_open {r : Rows σ α} (h : r.exhausted = false) (missing : Nat) :
    fetchMore (missing + 1) r =
      match (RowSource.poll r.source).1 with
      | some (.ok _) => fetchMore missing r.polled
      | some (.error e) => (.error e, r.polled)
      | none => (.ok false, r.polled) := by
  obtain ⟨source, cache, position, exhausted, fetch⟩ := r
  obtain rfl : exhausted = false := h
  rw [fetchMore, if_neg Bool.false_ne_true]
  unfold polled
  rcases RowSource.poll source with ⟨_ | _ | _, s⟩ <;> rfl

theorem drain_of_open {r : Rows σ α} (h : r.exhausted = false) :
    r.drain =
      match (RowSource.poll r.source).1 with
      | some (.ok _) => r.polled.drain
      | some (.error e) => (.error e, r.polled)
      | none => (.ok (), r.polled) := by
  obtain ⟨source, cache, position, exhausted, fetch⟩ := r
  obtain rfl : exhausted = false := h
  rw [drain, if_neg Bool.false_ne_true]
  unfold polled
  rcases RowSource.poll source with ⟨_ | _ | _, s⟩ <;> rfl

theorem size_polled {r : Rows σ α} {item : Except Error Record}
    (h : (RowSource.poll r.source).1 = some item) :
    RowSource.size r.polled.source < RowSource.size r.source := by
  rw [source_polled]
  exact RowSource.size_poll (Prod.ext h rfl)

theorem drain_eq_fetchMore {r : Rows σ α} {n : Nat} (h : RowSource.size r.source < n) :
    r.drain = ((fetchMore n r).1.map fun _ => (), (fetchMore n r).2) := by
  induction n generalizing r with
  | zero => exact absurd h (Nat.not_lt_zero _)
  | succ n ih =>
    cases hr : r.exhausted with
    | true =>
      rw [fetchMore_of_exhausted hr, drain, if_pos hr]
      rfl
    | false =>
      rw [fetchMore_of_open hr, drain_of_open hr]
      split
      · next record hitem => exact ih (Nat.lt_of_lt_of_le (size_polled hitem) (Nat.le_of_lt_succ h))
      · rfl
      · rfl

theorem rowCount_eq (r : Rows σ α) :
    r.rowCount =
      ((fetchMore (RowSource.size r.source + 1) r).1.map fun _ =>
          (RowSource.reported (fetchMore (RowSource.size r.source + 1) r).2.source).getD
            (fetchMore (RowSource.size r.source + 1) r).2.cache.size,
        (fetchMore (RowSource.size r.source + 1) r).2) := by
  rw [rowCount, drain_eq_fetchMore (Nat.lt_succ_self _)]
  rcases fetchMore (RowSource.size r.source + 1) r with ⟨_ | _, _⟩ <;> rfl

theorem fetchMore_keeps {P : Rows σ α → Prop} (hpoll : ∀ r, P r → r.exhausted = false → P r.polled)
    {r : Rows σ α} (h : P r) (n : Nat) : P (fetchMore n r).2 := by
  induction n generalizing r with
  | zero => exact h
  | succ n ih =>
    cases hr : r.exhausted with
    | true =>
      rw [fetchMore_of_exhausted hr]
      exact h
    | false =>
      rw [fetchMore_of_open hr]
      split
      · exact ih (hpoll r h hr)
      · exact hpoll r h hr
      · exact hpoll r h hr

theorem fetchMore_le {m : Rows σ α → Nat} (hpoll : ∀ r, m r.polled ≤ m r + 1) (r : Rows σ α) (n : Nat) :
    m (fetchMore n r).2 ≤ m r + n := by
  induction n generalizing r with
  | zero => exact Nat.le_refl _
  | succ n ih =>
    cases hr : r.exhausted with
    | true =>
      rw [fetchMore_of_exhausted hr]
      exact Nat.le_add_right _ _
    | false =>
      have hone := hpoll r
      have hrest := ih r.polled
      rw [fetchMore_of_open hr]
      rcases (RowSource.poll r.source).1 with _ | _ | _ <;> dsimp only <;> omega

theorem fetchMore_place (r : Rows σ α) (n : Nat) :
    (fetchMore n r).2.position = r.position ∧ (fetchMore n r).2.fetch = r.fetch := by
  refine fetchMore_keeps (P := fun s => s.position = r.position ∧ s.fetch = r.fetch) ?_ ⟨rfl, rfl⟩ n
  intro s hs _
  unfold polled
  split <;> exact hs

theorem fetchMore_ok {r : Rows σ α} {n : Nat} {all : Bool} (h : (fetchMore n r).1 = .ok all) :
    if all then (fetchMore n r).2.cache.size = r.cache.size + n
    else (fetchMore n r).2.exhausted = true := by
  induction n generalizing r with
  | zero =>
    cases h
    rfl
  | succ n ih =>
    cases hr : r.exhausted with
    | true =>
      rw [fetchMore_of_exhausted hr] at h ⊢
      cases h
      exact hr
    | false =>
      rw [fetchMore_of_open hr] at h ⊢
      split at h
      · next record hitem =>
        have hfetched := ih h
        rw [cache_size_polled (congrArg Item.record? hitem), Nat.add_right_comm] at hfetched
        exact hfetched
      · cases h
      · next hitem =>
        cases h
        rw [polled_of_no_record (congrArg Item.record? hitem)]
        rfl

/-- What a cursor serves: the records it has taken, and those that its source hands out before it ends. -/
def Serves (r : Rows σ α) (records : List Record) (t : σ) : Prop :=
  ∃ rest, records = r.cache.toList ++ rest ∧
    if r.exhausted then rest = [] ∧ r.source = t else Delivers r.source rest t

section Serving

variable {r : Rows σ α} {records : List Record} {t : σ}

theorem Serves.size_le (h : r.Serves records t) :
    r.cache.size ≤ records.length := by
  obtain ⟨rest, rfl, -⟩ := h
  rw [List.length_append, Array.length_toList]
  exact Nat.le_add_right _ _

theorem Serves.getElem? (h : r.Serves records t)
    {i : Nat} (hi : i < r.cache.size) : r.cache[i]? = records[i]? := by
  obtain ⟨rest, rfl, -⟩ := h
  rw [List.getElem?_append_left (by rwa [Array.length_toList]), Array.getElem?_toList]

theorem Serves.of_exhausted (h : r.Serves records t)
    (hr : r.exhausted = true) : r.cache.toList = records ∧ r.source = t := by
  obtain ⟨rest, rfl, hrest⟩ := h
  rw [if_pos hr] at hrest
  obtain ⟨rfl, hsource⟩ := hrest
  exact ⟨(List.append_nil _).symm, hsource⟩

theorem Serves.polled (h : r.Serves records t)
    (hr : r.exhausted = false) : r.polled.Serves records t := by
  obtain ⟨rest, rfl, hrest⟩ := h
  rw [if_neg (Bool.eq_false_iff.mp hr)] at hrest
  cases hrest with
  | nil hpoll =>
    have hsource : (RowSource.poll r.source).2 = t := congrArg Prod.snd hpoll
    rw [polled_of_no_record (congrArg (fun p => Item.record? p.1) hpoll)]
    exact ⟨[], rfl, rfl, hsource⟩
  | @cons _ s _ record rest hpoll hrest =>
    have hsource : (RowSource.poll r.source).2 = s := congrArg Prod.snd hpoll
    rw [polled_of_record (congrArg (fun p => Item.record? p.1) hpoll)]
    refine ⟨rest, ?_, ?_⟩
    · rw [Array.toList_push, List.append_assoc]
      rfl
    · rw [if_neg (Bool.eq_false_iff.mp hr), hsource]
      exact hrest

theorem Serves.fetchMore (h : r.Serves records t) (n : Nat) :
    (fetchMore n r).1 = .ok (decide (r.cache.size + n ≤ records.length)) ∧
      (fetchMore n r).2.Serves records t := by
  refine ⟨?_, fetchMore_keeps (fun _ => Serves.polled) h n⟩
  -- what is served stays the same from poll to poll, so the cursor changes and the records do not
  induction n generalizing r with
  | zero => rw [Rows.fetchMore, Nat.add_zero, decide_eq_true h.size_le]
  | succ n ih =>
    cases hr : r.exhausted with
    | true =>
      obtain ⟨hcache, -⟩ := h.of_exhausted hr
      rw [fetchMore_of_exhausted hr, ← hcache, Array.length_toList, decide_eq_false (by omega)]
    | false =>
      have hpolled := h.polled hr
      rw [fetchMore_of_open hr]
      obtain ⟨rest, rfl, hrest⟩ := h
      rw [if_neg (Bool.eq_false_iff.mp hr)] at hrest
      cases hrest with
      | nil hpoll =>
        rw [hpoll, List.append_nil, Array.length_toList, decide_eq_false (by omega)]
      | cons hpoll hrest =>
        have hitem := congrArg Prod.fst hpoll
        have hfetched := ih hpolled
        rw [cache_size_polled (congrArg Item.record? hitem), Nat.add_right_comm] at hfetched
        rw [hitem]
        exact hfetched

theorem Serves.length_le (h : r.Serves records t) :
    records.length ≤ r.cache.size + RowSource.size r.source := by
  obtain ⟨rest, rfl, hrest⟩ := h
  have hlength : rest.length ≤ RowSource.size r.source := by
    split at hrest
    · rw [hrest.1]
      exact Nat.zero_le _
    · exact hrest.length_le
  rw [List.length_append, Array.length_toList]
  exact Nat.add_le_add_left hlength _

theorem Serves.hasNext (h : r.Serves records t) :
    r.hasNext.1 = .ok (decide (r.position < records.length)) ∧ r.hasNext.2.Serves records t := by
  obtain ⟨hanswer, hserves⟩ := h.fetchMore (r.position + 1 - r.cache.size)
  refine ⟨?_, hserves⟩
  have hsize := h.size_le
  rw [Rows.hasNext, hanswer, decide_eq_decide.mpr]
  omega

theorem Serves.rowCount (h : r.Serves records t) :
    r.rowCount.1 = .ok ((RowSource.reported t).getD records.length) := by
  have hlength := h.length_le
  obtain ⟨hanswer, hserves⟩ := h.fetchMore (RowSource.size r.source + 1)
  rw [decide_eq_false (by omega)] at hanswer
  obtain ⟨hcache, hsource⟩ := hserves.of_exhausted (fetchMore_ok hanswer)
  rw [rowCount_eq, hanswer, hsource, ← hcache, Array.length_toList]
  rfl

end Serving

theorem rowCount_position (r : Rows σ α) : r.rowCount.2.position = r.position := by
  rw [rowCount_eq]
  exact (fetchMore_place r _).1

structure Kept (P : Rows σ α → Prop) : Prop where
  polled : ∀ r, P r → r.exhausted = false → P r.polled
  moved : ∀ r position, P r → P { r with position }

theorem kept_fetch (f : Fetch α) : Kept fun r : Rows σ α => r.fetch = f where
  polled r h _ := by
    unfold polled
    split <;> exact h
  moved _ _ h := h

theorem kept_serves (records : List Record) (t : σ) : Kept fun r : Rows σ α => r.Serves records t where
  polled _ := Serves.polled
  moved _ _ h := h

section Mapping

variable [RowType α]

theorem next_cases (r : Rows σ α) :
    (∃ a, r.next = (.ok (some a), r.hasNext.2.advance)) ∨
      (∀ a, r.next.1 ≠ .ok (some a)) ∧ r.next.2 = r.hasNext.2 := by
  unfold next
  rcases r.hasNext with ⟨_ | _ | _, fetched⟩
  · exact .inr ⟨(fun a h => nomatch h), rfl⟩
  · exact .inr ⟨(fun a h => nomatch h), rfl⟩
  · dsimp only
    cases fetched.current with
    | error e => exact .inr ⟨(fun a h => nomatch h), rfl⟩
    | ok a => exact .inl ⟨a, rfl⟩

theorem next_of_row {r : Rows σ α} (h : r.hasNext.1 = .ok true) :
    r.next.1 = r.hasNext.2.current.map some := by
  unfold next
  generalize r.hasNext = fetched at h
  obtain ⟨answer, s⟩ := fetched
  obtain rfl : answer = .ok true := h
  dsimp only
  cases s.current <;> rfl

theorem next_of_end {r : Rows σ α} (h : r.hasNext.1 = .ok false) : r.next.1 = .ok none := by
  unfold next
  generalize r.hasNext = fetched at h
  obtain ⟨answer, s⟩ := fetched
  obtain rfl : answer = .ok false := h
  rfl

theorem Serves.next {r : Rows σ α} {records : List Record} {t : σ} (h : r.Serves records t) :
    r.next.1 =
      match records[r.position]? with
      | some record => (r.fetch.map record).map some
      | none => .ok none := by
  obtain ⟨hanswer, hserves⟩ := h.hasNext
  by_cases hlt : r.position < records.length
  · rw [decide_eq_true hlt] at hanswer
    have hsize : r.hasNext.2.cache.size = r.cache.size + (r.position + 1 - r.cache.size) :=
      fetchMore_ok hanswer
    obtain ⟨hposition, hfetch⟩ : r.hasNext.2.position = r.position ∧ r.hasNext.2.fetch = r.fetch :=
      fetchMore_place r _
    rw [next_of_row hanswer, Rows.current, currentRecord?, hposition, hserves.getElem? (by omega),
      List.getElem?_eq_getElem hlt, hfetch]
  · rw [decide_eq_false hlt] at hanswer
    rw [next_of_end hanswer, List.getElem?_eq_none (Nat.le_of_not_lt hlt)]

def step (r : Rows σ α) : Step → Rows σ α
  | .hasNext => r.hasNext.2
  | .next => r.next.2
  | .current | .currentRecord => r
  | .advance => r.advance
  | .rewind => r.rewind
  | .rowCount => r.rowCount.2

def run (r : Rows σ α) (steps : List Step) : Rows σ α := steps.foldl step r

theorem Kept.next {P : Rows σ α → Prop} (hkept : Kept P) {r : Rows σ α} (h : P r) : P r.next.2 := by
  have hfetched : P r.hasNext.2 := fetchMore_keeps hkept.polled h _
  obtain ⟨a, hnext⟩ | ⟨-, hnext⟩ := next_cases r
  · rw [hnext]
    exact hkept.moved _ _ hfetched
  · rw [hnext]
    exact hfetched

theorem Kept.step {P : Rows σ α → Prop} (hkept : Kept P) {r : Rows σ α} (h : P r) (a : Step) :
    P (r.step a) := by
  cases a with
  | hasNext => exact fetchMore_keeps hkept.polled h _
  | next => exact hkept.next h
  | current => exact h
  | currentRecord => exact h
  | advance => exact hkept.moved _ _ h
  | rewind => exact hkept.moved _ _ h
  | rowCount =>
    change P r.rowCount.2
    rw [rowCount_eq]
    exact fetchMore_keeps hkept.polled h _

theorem Kept.run {P : Rows σ α → Prop} (hkept : Kept P) {r : Rows σ α} (h : P r) (steps : List Step) :
    P (r.run steps) := by
  induction steps generalizing r with
  | nil => exact h
  | cons a steps ih => exact ih (hkept.step h a)

theorem next_position (r : Rows σ α) :
    (∀ a, r.next.1 = .ok (some a) → r.next.2.position = r.position + 1) ∧
      ((∀ a, r.next.1 ≠ .ok (some a)) → r.next.2.position = r.position) := by
  have hposition : r.hasNext.2.position = r.position := (fetchMore_place r _).1
  obtain ⟨b, hnext⟩ | ⟨hnone, hnext⟩ := next_cases r
  · rw [hnext]
    refine ⟨fun a _ => congrArg (· + 1) hposition, fun h => absurd rfl (h b)⟩
  · rw [hnext]
    exact ⟨fun a h => absurd h (hnone a), fun _ => hposition⟩

/-- Where `next` maps the records one by one and then answers with `last`, taking rows maps the records
from the position on, up to the first that cannot be mapped, and ends with `last` behind them. -/
theorem takeRows_of_next {P : Rows σ α → Prop} {records : List Record} {f : Fetch α}
    {last : Except Error (Option α)} (hlast : ∀ a, last ≠ .ok (some a))
    (hnext : ∀ r, P r → r.next.1 =
      match records[r.position]? with
      | some record => (f.map record).map some
      | none => last)
    (hkept : ∀ r, P r → r.position < records.length → P r.next.2)
    {r : Rows σ α} (h : P r) {fuel : Nat} (hfuel : records.length - r.position < fuel) (taken : List α) :
    takeRows fuel taken r =
      ((records.drop r.position).mapM f.map).bind fun values => last.map fun _ =>
        taken.reverse ++ values := by
  induction fuel generalizing r taken with
  | zero => exact absurd hfuel (Nat.not_lt_zero _)
  | succ fuel ih =>
    have hkept := hkept r h
    have hanswer := hnext r h
    have hposition := (next_position r).1
    rw [takeRows]
    generalize r.next = taking at hkept hanswer hposition
    obtain ⟨answer, s⟩ := taking
    obtain rfl : answer = _ := hanswer
    by_cases hlt : r.position < records.length
    · rw [List.getElem?_eq_getElem hlt] at hposition ⊢
      rw [List.drop_eq_getElem_cons hlt, List.mapM_cons]
      dsimp only at hposition ⊢
      cases hmap : f.map records[r.position] with
      | error e => rfl
      | ok a =>
        have hs : s.position = r.position + 1 := hposition a (by rw [hmap]; rfl)
        have hrest := ih (hkept hlt) (by dsimp only; omega) (a :: taken)
        dsimp only [Except.map] at hrest ⊢
        rw [hrest, hs, List.reverse_cons]
        change _ = (((records.drop (r.position + 1)).mapM f.map).bind fun values =>
          Except.ok (a :: values)).bind _
        cases (records.drop (r.position + 1)).mapM f.map with
        | error e => rfl
        | ok values => exact congrArg (fun rows => last.map fun _ => rows) (List.append_assoc ..)
    · rw [List.getElem?_eq_none (Nat.le_of_not_lt hlt), List.drop_eq_nil_of_le (Nat.le_of_not_lt hlt),
        List.mapM_nil]
      change _ = last.map fun _ => taken.reverse ++ []
      rw [List.append_nil]
      rcases last with _ | _ | a
      · rfl
      · rfl
      · exact absurd rfl (hlast a)

theorem Serves.takeRows {r : Rows σ α} {records : List Record} {t : σ} (h : r.Serves records t)
    {fuel : Nat} (hfuel : records.length - r.position < fuel) (taken : List α) :
    takeRows fuel taken r =
      ((records.drop r.position).mapM r.fetch.map).map fun values => taken.reverse ++ values := by
  have hkept : ∀ s : Rows σ α, s.Serves records t ∧ s.fetch = r.fetch → s.position < records.length →
      s.next.2.Serves records t ∧ s.next.2.fetch = r.fetch :=
    fun s hs _ => ⟨(kept_serves records t).next hs.1, (kept_fetch r.fetch).next hs.2⟩
  have hlast : ∀ a, (.ok none : Except Error (Option α)) ≠ .ok (some a) := fun a => nofun
  rw [takeRows_of_next hlast (fun s hs => hs.2 ▸ hs.1.next) hkept ⟨h, rfl⟩ hfuel]
  cases (records.drop r.position).mapM r.fetch.map <;> rfl

theorem Serves.collect {r : Rows σ α} {records : List Record} {t : σ} (h : r.Serves records t) :
    r.collect = records.mapM r.fetch.map := by
  have hrewound : r.rewind.Serves records t := h
  have hlength := h.length_le
  rw [Rows.collect, hrewound.takeRows]
  · change (records.mapM r.fetch.map).map id = _
    cases records.mapM r.fetch.map <;> rfl
  · change records.length - 0 < (r.cache.size - 0 + RowSource.size r.source) + 1
    omega

end Mapping

def unwatched (r : Rows (Watched σ) α) : Rows σ α := { r with source := r.source.source }

/-- The cursor has taken the records among the answers of the source `s`, of which only the last one can
be an end or an error. -/
structure Account (s : σ) (r : Rows (Watched σ) α) : Prop where
  answers : polls s r.source.answers.length = (r.source.answers, r.source.source)
  cache : r.cache.toList = r.source.answers.filterMap Item.record?
  records : ∀ item ∈ r.source.answers.dropLast, item.record?.isSome
  last : r.exhausted = false → ∀ item ∈ r.source.answers, item.record?.isSome

theorem polled_unwatched (r : Rows (Watched σ) α) : r.polled.unwatched = r.unwatched.polled := by
  cases hitem : Item.record? (RowSource.poll r.source.source).1 with
  | none => rw [polled_of_no_record (r := r) hitem, polled_of_no_record (r := r.unwatched) hitem]; rfl
  | some record => rw [polled_of_record (r := r) hitem, polled_of_record (r := r.unwatched) hitem]; rfl

theorem fetchMore_unwatched (r : Rows (Watched σ) α) (n : Nat) :
    fetchMore n r.unwatched = ((fetchMore n r).1, (fetchMore n r).2.unwatched) := by
  induction n generalizing r with
  | zero => rfl
  | succ n ih =>
    cases hr : r.exhausted with
    | true =>
      have hu : r.unwatched.exhausted = true := hr
      rw [fetchMore_of_exhausted hr, fetchMore_of_exhausted hu]
    | false =>
      have hu : r.unwatched.exhausted = false := hr
      have hitem : (RowSource.poll r.source).1 = (RowSource.poll r.unwatched.source).1 := rfl
      rw [fetchMore_of_open hr, fetchMore_of_open hu, ← polled_unwatched, hitem]
      rcases (RowSource.poll r.unwatched.source).1 with _ | _ | _
      · rfl
      · rfl
      · exact ih r.polled

theorem length_answers_fetchMore_le (r : Rows (Watched σ) α) (n : Nat) :
    (fetchMore n r).2.source.answers.length ≤ r.source.answers.length + n := by
  refine fetchMore_le (m := fun s => s.source.answers.length) (fun s => Nat.le_of_eq ?_) r n
  rw [source_polled]
  exact List.length_append

theorem hasNext_unwatched (r : Rows (Watched σ) α) :
    r.unwatched.hasNext = (r.hasNext.1, r.hasNext.2.unwatched) := fetchMore_unwatched r _

theorem next_unwatched [RowType α] (r : Rows (Watched σ) α) :
    r.unwatched.next = (r.next.1, r.next.2.unwatched) := by
  rw [next, next, hasNext_unwatched]
  rcases r.hasNext with ⟨_ | _ | _, fetched⟩
  · rfl
  · rfl
  · have hcurrent : fetched.unwatched.current = fetched.current := rfl
    dsimp only
    rw [hcurrent]
    cases fetched.current <;> rfl

theorem step_unwatched [RowType α] (r : Rows (Watched σ) α) (a : Step) :
    (r.step a).unwatched = r.unwatched.step a := by
  cases a with
  | hasNext => exact congrArg Prod.snd (hasNext_unwatched r).symm
  | next => exact congrArg Prod.snd (next_unwatched r).symm
  | current => rfl
  | currentRecord => rfl
  | advance => rfl
  | rewind => rfl
  | rowCount =>
    change r.rowCount.2.unwatched = r.unwatched.rowCount.2
    rw [rowCount_eq, rowCount_eq, fetchMore_unwatched]
    rfl

theorem run_unwatched [RowType α] (r : Rows (Watched σ) α) (steps : List Step) :
    (r.run steps).unwatched = r.unwatched.run steps := by
  induction steps generalizing r with
  | nil => rfl
  | cons a steps ih => exact (ih (r.step a)).trans (congrArg (run · steps) (step_unwatched r a))

theorem kept_account (s : σ) : Kept (Account (α := α) s) where
  polled r h hr := by
    have hsource : r.polled.source =
        ⟨(RowSource.poll r.source.source).2,
          r.source.answers ++ [(RowSource.poll r.source.source).1]⟩ := source_polled r
    refine ⟨?_, ?_, ?_, ?_⟩
    · rw [hsource, List.length_append]
      change polls s (r.source.answers.length + 1) = _
      rw [polls, h.answers]
    · rw [hsource, List.filterMap_append, ← h.cache]
      cases hitem : Item.record? (RowSource.poll r.source.source).1 with
      | none =>
        rw [polled_of_no_record (r := r) hitem, List.filterMap_cons_none hitem]
        exact (List.append_nil _).symm
      | some record =>
        rw [polled_of_record (r := r) hitem, List.filterMap_cons_some hitem]
        exact Array.toList_push
    · rw [hsource, List.dropLast_concat]
      exact h.last hr
    · intro hopen item hmem
      rw [hsource] at hmem
      rcases List.mem_append.mp hmem with hmem | hmem
      · exact h.last hr item hmem
      · rw [List.mem_singleton.mp hmem]
        cases hitem : Item.record? (RowSource.poll r.source.source).1 with
        | none =>
          rw [polled_of_no_record (r := r) hitem] at hopen
          cases hopen
        | some record => rfl
  moved _ _ h := ⟨h.answers, h.cache, h.records, h.last⟩

theorem account_start (s : σ) (fetch : Fetch α) : Account s (ofSource (Watched.start s) fetch) where
  answers := rfl
  cache := rfl
  records _ h := absurd h List.not_mem_nil
  last _ _ h := absurd h List.not_mem_nil

theorem serves_start {s t : σ} {records : List Record} (h : Delivers s records t) (fetch : Fetch α) :
    (ofSource s fetch).Serves records t := ⟨records, rfl, h⟩

theorem next_start [RowType α] (s : σ) (fetch : Fetch α) :
    let r := (ofSource (Watched.start s) fetch).next
    (ofSource s fetch).next.1 = r.1 ∧ r.2.source.answers.length ≤ 1 := by
  intro r
  have hnext : (ofSource s fetch).next = (r.1, r.2.unwatched) :=
    next_unwatched (ofSource (Watched.start s) fetch)
  refine ⟨congrArg Prod.fst hnext, ?_⟩
  have hfetched : (ofSource (Watched.start s) fetch).hasNext.2.source.answers.length ≤ 0 + 1 :=
    length_answers_fetchMore_le _ 1
  rcases next_cases (ofSource (Watched.start s) fetch) with ⟨a, ha⟩ | ⟨-, hr⟩
  · change (ofSource (Watched.start s) fetch).next.2.source.answers.length ≤ 1
    rw [ha]
    exact hfetched
  · change (ofSource (Watched.start s) fetch).next.2.source.answers.length ≤ 1
    rw [hr]
    exact hfetched

/-- After any calls, the cache is what has been taken of the source so far, and the source has not been
polled behind its end or its failure. Where it hands out all its records, the cursor answers as they do,
whatever was called before. -/
theorem run_answers [RowType α] (s : σ) (fetch : Fetch α) (steps : List Step) :
    let watched := (ofSource (Watched.start s) fetch).run steps
    let r := (ofSource s fetch).run steps
    (watched.unwatched = r ∧ Account s watched) ∧
      r.rowCount.2.position = r.position ∧
      (∀ a, r.next.1 = .ok (some a) → r.next.2.position = r.position + 1) ∧
      ((∀ a, r.next.1 ≠ .ok (some a)) → r.next.2.position = r.position) ∧
      ∀ records t, Delivers s records t →
        r.hasNext.1 = .ok (decide (r.position < records.length)) ∧
        r.next.1 =
          (match records[r.position]? with
          | some record => (fetch.map record).map some
          | none => .ok none) ∧
        r.rowCount.1 = .ok ((RowSource.reported t).getD records.length) ∧
        r.collect = records.mapM fetch.map := by
  intro watched r
  have haccount : Account s watched :=
    (kept_account s).run (account_start s fetch) steps
  obtain ⟨hmoved, hstayed⟩ := next_position r
  refine ⟨⟨run_unwatched _ steps, haccount⟩, rowCount_position r, hmoved, hstayed, ?_⟩
  intro records t hdelivers
  have hserves : r.Serves records t := (kept_serves records t).run (serves_start hdelivers fetch) steps
  have hfetch : r.fetch = fetch := (kept_fetch fetch).run rfl steps
  rw [← hfetch]
  exact ⟨hserves.hasNext.1, hserves.next, hserves.rowCount, hserves.collect⟩

theorem run_answers_failing_row :
    let records : List Record := [⟨[("id", .int 1)]⟩, ⟨[("name", .null)]⟩]
    let stream : RowStream := ⟨records.map .ok, none, some 5⟩
    let fetch : Fetch Record := .callback fun record => (record.get "id").map fun _ => record
    let steps : List Step :=
      [.hasNext, .next, .next, .rowCount, .advance, .advance, .next, .rewind, .advance]
    let r := (ofSource stream fetch).run steps
    Delivers stream records ⟨[], some 5, some 5⟩ ∧
      r.hasNext.1 = .ok true ∧
      r.next.1 = .error (Record.missing "id") ∧ r.next.2.position = 1 ∧
      r.rowCount.1 = .ok 5 ∧ r.rowCount.2.position = 1 ∧
      r.collect = .error (Record.missing "id") := by
  intro records stream fetch steps r
  have hdelivers : Delivers stream records ⟨[], some 5, some 5⟩ :=
    RowStream.delivers records none (some 5)
  have hposition : r.position = 1 := rfl
  obtain ⟨-, hcount, -, hstay, hserved⟩ := run_answers stream fetch steps
  obtain ⟨hmore, hnext, hall, hcollect⟩ := hserved records _ hdelivers
  rw [hposition] at hmore hnext hcount hstay
  have hfailed : r.next.1 = .error (Record.missing "id") := hnext
  refine ⟨hdelivers, hmore, hfailed, hstay ?_, hall, hcount, hcollect⟩
  intro a ha
  rw [hfailed] at ha
  cases ha

end Rows
end BoundSql
