import BoundSql.Proofs.Cursor

/-! Cursors over a source that fails; behind the error the records before it pass for all. -/

namespace BoundSql

section

variable {σ : Type} [RowSource σ]

/-- A source hands out records and then an error, and is then another source. -/
inductive Fails : σ → List Record → Error → σ → Prop
  | nil {s t : σ} {e : Error} (h : RowSource.poll s = (some (.error e), t)) : Fails s [] e t
  | cons {s t u : σ} {e : Error} {record : Record} {rest : List Record}
    (h : RowSource.poll s = (some (.ok record), t)) (hrest : Fails t rest e u) : Fails s (record :: rest) e u

theorem Fails.length_lt {s t : σ} {records : List Record} {e : Error} (h : Fails s records e t) :
    records.length < RowSource.size s := by
  induction h with
  | nil h => exact Nat.zero_lt_of_lt (RowSource.size_poll h)
  | cons h _ ih => exact Nat.lt_of_le_of_lt ih (RowSource.size_poll h)

theorem RowStream.fails (records : List Record) (e : Error) (rest : List (Except Error Record))
    (reported final : Option Nat) :
    Fails (⟨records.map .ok ++ .error e :: rest, reported, final⟩ : RowStream) records e
      ⟨rest, reported, final⟩ := by
  induction records with
  | nil => exact .nil rfl
  | cons record _ ih => exact .cons rfl ih

end

namespace Rows

variable {σ α : Type} [RowSource σ]

/-- What a cursor holds of a source that fails: the records it has taken, and those that its source hands
out before the error. -/
def Breaks (r : Rows σ α) (records : List Record) (e : Error) (t : σ) : Prop :=
  ∃ rest, records = r.cache.toList ++ rest ∧
    if r.exhausted then rest = [] ∧ r.source = t else Fails r.source rest e t

section Breaking

variable {r : Rows σ α} {records : List Record} {e : Error} {t : σ}

theorem Breaks.serves (h : r.Breaks records e t) (hr : r.exhausted = true) : r.Serves records t := by
  obtain ⟨rest, hrecords, hrest⟩ := h
  refine ⟨rest, hrecords, ?_⟩
  rw [if_pos hr] at hrest ⊢
  exact hrest

theorem Breaks.fails (h : r.Breaks records e t) (hr : r.exhausted = false) :
    ∃ rest, records = r.cache.toList ++ rest ∧ Fails r.source rest e t := by
  obtain ⟨rest, hrecords, hrest⟩ := h
  rw [if_neg (Bool.eq_false_iff.mp hr)] at hrest
  exact ⟨rest, hrecords, hrest⟩

theorem Breaks.polled (h : r.Breaks records e t) (hr : r.exhausted = false) :
    r.polled.Breaks records e t := by
  obtain ⟨rest, rfl, hrest⟩ := h.fails hr
  cases hrest with
  | nil hpoll =>
    have hsource : (RowSource.poll r.source).2 = t := congrArg Prod.snd hpoll
    rw [polled_of_no_record (congrArg (fun p => Item.record? p.1) hpoll)]
    exact ⟨[], rfl, rfl, hsource⟩
  | @cons _ s _ _ record rest hpoll hrest =>
    have hsource : (RowSource.poll r.source).2 = s := congrArg Prod.snd hpoll
    rw [polled_of_record (congrArg (fun p => Item.record? p.1) hpoll)]
    refine ⟨rest, ?_, ?_⟩
    · rw [Array.toList_push, List.append_assoc]
      rfl
    · rw [if_neg (Bool.eq_false_iff.mp hr), hsource]
      exact hrest

theorem Breaks.size_le (h : r.Breaks records e t) : r.cache.size ≤ records.length := by
  obtain ⟨rest, rfl, -⟩ := h
  rw [List.length_append, Array.length_toList]
  exact Nat.le_add_right _ _

theorem Breaks.length_lt (h : r.Breaks records e t) (hr : r.exhausted = false) :
    records.length < r.cache.size + RowSource.size r.source := by
  obtain ⟨rest, rfl, hrest⟩ := h.fails hr
  rw [List.length_append, Array.length_toList]
  exact Nat.add_lt_add_left hrest.length_lt _

theorem Breaks.getElem? (h : r.Breaks records e t) {i : Nat} (hi : i < r.cache.size) :
    r.cache[i]? = records[i]? := by
  obtain ⟨rest, rfl, -⟩ := h
  rw [List.getElem?_append_left (by rwa [Array.length_toList]), Array.getElem?_toList]

theorem Breaks.fetchMore (h : r.Breaks records e t) (hr : r.exhausted = false) (n : Nat) :
    if r.cache.size + n ≤ records.length then
      (fetchMore n r).1 = .ok true ∧ (fetchMore n r).2.exhausted = false
    else (fetchMore n r).1 = .error e ∧ (fetchMore n r).2.exhausted = true := by
  -- the records held stay the same from poll to poll, so only the cursor is generalized
  induction n generalizing r with
  | zero =>
    rw [Nat.add_zero, if_pos h.size_le]
    exact ⟨rfl, hr⟩
  | succ n ih =>
    have hpolled := h.polled hr
    rw [fetchMore_of_open hr]
    obtain ⟨rest, rfl, hrest⟩ := h.fails hr
    cases hrest with
    | nil hpoll =>
      have hitem := congrArg Prod.fst hpoll
      rw [hitem, polled_of_no_record (congrArg Item.record? hitem), List.append_nil, Array.length_toList,
        if_neg (by omega)]
      exact ⟨rfl, rfl⟩
    | cons hpoll hrest =>
      have hitem := congrArg Prod.fst hpoll
      have hopen : r.polled.exhausted = false := by
        rw [polled_of_record (congrArg Item.record? hitem)]
        exact hr
      have hfetched := ih hpolled hopen
      rw [cache_size_polled (congrArg Item.record? hitem), Nat.add_right_comm] at hfetched
      rw [hitem]
      exact hfetched

theorem Breaks.hasNext (h : r.Breaks records e t) (hr : r.exhausted = false) :
    if r.position < records.length then r.hasNext.1 = .ok true ∧ r.hasNext.2.exhausted = false
    else r.hasNext.1 = .error e ∧ r.hasNext.2.exhausted = true := by
  have hfetched := h.fetchMore hr (r.position + 1 - r.cache.size)
  have hsize := h.size_le
  split
  · rwa [if_pos (by omega)] at hfetched
  · rwa [if_neg (by omega)] at hfetched

theorem Breaks.rowCount (h : r.Breaks records e t) (hr : r.exhausted = false) :
    r.rowCount.1 = .error e ∧ r.rowCount.2.exhausted = true := by
  have hfetched := h.fetchMore hr (RowSource.size r.source + 1)
  have hlength := h.length_lt hr
  rw [if_neg (by omega)] at hfetched
  obtain ⟨hanswer, hexhausted⟩ := hfetched
  rw [rowCount_eq, hanswer]
  exact ⟨rfl, hexhausted⟩

end Breaking

theorem kept_breaks (records : List Record) (e : Error) (t : σ) :
    Kept fun r : Rows σ α => r.Breaks records e t where
  polled _ := Breaks.polled
  moved _ _ h := h

theorem breaks_start {s t : σ} {records : List Record} {e : Error} (h : Fails s records e t)
    (fetch : Fetch α) : (ofSource s fetch).Breaks records e t := ⟨records, rfl, h⟩

def refusal? {β : Type} : Except Error β → Option Error
  | .ok _ => none
  | .error e => some e

section Mapping

variable [RowType α]

theorem next_of_error {r : Rows σ α} {e : Error} (h : r.hasNext.1 = .error e) :
    r.next = (.error e, r.hasNext.2) := by
  unfold next
  generalize r.hasNext = fetched at h
  obtain ⟨answer, s⟩ := fetched
  obtain rfl : answer = .error e := h
  rfl

theorem exhausted_next (r : Rows σ α) : r.next.2.exhausted = r.hasNext.2.exhausted := by
  obtain ⟨a, hnext⟩ | ⟨-, hnext⟩ := next_cases r
  · rw [hnext]
    rfl
  · rw [hnext]

theorem Breaks.next {r : Rows σ α} {records : List Record} {e : Error} {t : σ}
    (h : r.Breaks records e t) (hr : r.exhausted = false) :
    r.next.1 =
      match records[r.position]? with
      | some record => (r.fetch.map record).map some
      | none => .error e := by
  have hfetched := h.hasNext hr
  by_cases hlt : r.position < records.length
  · rw [if_pos hlt] at hfetched
    have hsize : r.hasNext.2.cache.size = r.cache.size + (r.position + 1 - r.cache.size) :=
      fetchMore_ok hfetched.1
    obtain ⟨hposition, hfetch⟩ : r.hasNext.2.position = r.position ∧ r.hasNext.2.fetch = r.fetch :=
      fetchMore_place r _
    have hkept : r.hasNext.2.Breaks records e t := fetchMore_keeps (kept_breaks records e t).polled h _
    rw [next_of_row hfetched.1, Rows.current, currentRecord?, hposition, hkept.getElem? (by omega),
      List.getElem?_eq_getElem hlt, hfetch]
  · rw [if_neg hlt] at hfetched
    rw [next_of_error hfetched.1, List.getElem?_eq_none (Nat.le_of_not_lt hlt)]

theorem Breaks.takeRows {r : Rows σ α} {records : List Record} {e : Error} {t : σ}
    (h : r.Breaks records e t) (hr : r.exhausted = false) {fuel : Nat}
    (hfuel : records.length - r.position < fuel) (taken : List α) :
    takeRows fuel taken r =
      ((records.drop r.position).mapM r.fetch.map).bind fun _ => .error e := by
  have hlast : ∀ a, (.error e : Except Error (Option α)) ≠ .ok (some a) := fun a => nofun
  refine takeRows_of_next (P := fun s => (s.Breaks records e t ∧ s.exhausted = false) ∧ s.fetch = r.fetch)
    hlast (fun s hs => hs.2 ▸ hs.1.1.next hs.1.2) ?_ ⟨⟨h, hr⟩, rfl⟩ hfuel taken
  rintro s ⟨⟨hs, hopen⟩, hfetch⟩ hlt
  have hfetched := hs.hasNext hopen
  rw [if_pos hlt] at hfetched
  exact ⟨⟨(kept_breaks records e t).next hs, (exhausted_next s).trans hfetched.2⟩,
    (kept_fetch r.fetch).next hfetch⟩

theorem Breaks.collect {r : Rows σ α} {records : List Record} {e : Error} {t : σ}
    (h : r.Breaks records e t) (hr : r.exhausted = false) :
    r.collect = (records.mapM r.fetch.map).bind fun _ => .error e := by
  have hrewound : r.rewind.Breaks records e t := h
  have hlength := h.length_lt hr
  refine hrewound.takeRows hr ?_ []
  change records.length - 0 < (r.cache.size - 0 + RowSource.size r.source) + 1
  omega

/-- The error of the source that a call answers with. Mapping a row can fail besides. -/
def failure? (r : Rows σ α) : Step → Option Error
  | .hasNext | .next => refusal? r.hasNext.1
  | .rowCount => refusal? r.rowCount.1
  | .current | .currentRecord | .advance | .rewind => none

def failures (r : Rows σ α) : List Step → List Error
  | [] => []
  | a :: rest => (r.failure? a).toList ++ (r.step a).failures rest

theorem failure?_of_exhausted {r : Rows σ α} (hr : r.exhausted = true) (a : Step) :
    r.failure? a = none ∧ (r.step a).exhausted = true := by
  have hfetched (n : Nat) : refusal? (Rows.fetchMore n r).1 = none ∧ (Rows.fetchMore n r).2 = r := by
    cases n with
    | zero => exact ⟨rfl, rfl⟩
    | succ n =>
      rw [fetchMore_of_exhausted hr]
      exact ⟨rfl, rfl⟩
  have hnext : r.hasNext.2.exhausted = true := (congrArg exhausted (hfetched _).2).trans hr
  cases a with
  | hasNext => exact ⟨(hfetched _).1, hnext⟩
  | next => exact ⟨(hfetched _).1, (exhausted_next r).trans hnext⟩
  | rowCount =>
    change refusal? r.rowCount.1 = none ∧ r.rowCount.2.exhausted = true
    rw [rowCount_eq, fetchMore_of_exhausted hr]
    exact ⟨rfl, hr⟩
  | current => exact ⟨rfl, hr⟩
  | currentRecord => exact ⟨rfl, hr⟩
  | advance => exact ⟨rfl, hr⟩
  | rewind => exact ⟨rfl, hr⟩

theorem failures_of_exhausted {r : Rows σ α} (hr : r.exhausted = true) (steps : List Step) :
    r.failures steps = [] ∧ (r.run steps).exhausted = true := by
  induction steps generalizing r with
  | nil => exact ⟨rfl, hr⟩
  | cons a rest ih =>
    obtain ⟨hfailure, hstep⟩ := failure?_of_exhausted hr a
    obtain ⟨hfailures, hrun⟩ := ih hstep
    refine ⟨?_, hrun⟩
    rw [failures, hfailure, hfailures]
    rfl

section Failing

variable {r : Rows σ α} {records : List Record} {e : Error} {t : σ}

theorem Breaks.failure?_eq (h : r.Breaks records e t) (hr : r.exhausted = false) (a : Step) :
    r.failure? a = (if (r.step a).exhausted then some e else none) := by
  have hfetched : refusal? r.hasNext.1 = if r.hasNext.2.exhausted then some e else none := by
    have hanswer := h.hasNext hr
    split at hanswer
    · rw [hanswer.1, hanswer.2]
      rfl
    · rw [hanswer.1, hanswer.2]
      rfl
  cases a with
  | hasNext => exact hfetched
  | next =>
    change refusal? r.hasNext.1 = if r.next.2.exhausted then some e else none
    rw [exhausted_next, hfetched]
  | rowCount =>
    obtain ⟨hanswer, hexhausted⟩ := h.rowCount hr
    change refusal? r.rowCount.1 = if r.rowCount.2.exhausted then some e else none
    rw [hanswer, hexhausted]
    rfl
  | current => exact (if_neg (Bool.eq_false_iff.mp hr)).symm
  | currentRecord => exact (if_neg (Bool.eq_false_iff.mp hr)).symm
  | advance => exact (if_neg (Bool.eq_false_iff.mp hr)).symm
  | rewind => exact (if_neg (Bool.eq_false_iff.mp hr)).symm

theorem Breaks.failures_eq (h : r.Breaks records e t) (hr : r.exhausted = false) (steps : List Step) :
    r.failures steps = if (r.run steps).exhausted then [e] else [] := by
  induction steps generalizing r with
  | nil => exact (if_neg (Bool.eq_false_iff.mp hr)).symm
  | cons a rest ih =>
    have hfailure := h.failure?_eq hr a
    change (r.failure? a).toList ++ (r.step a).failures rest =
      if ((r.step a).run rest).exhausted then [e] else []
    cases hstep : (r.step a).exhausted with
    | false =>
      rw [hstep] at hfailure
      rw [hfailure, ih ((kept_breaks records e t).step h a) hstep]
      rfl
    | true =>
      -- nothing is fetched behind the error, so it cannot come up again
      obtain ⟨hfailures, hrun⟩ := failures_of_exhausted hstep rest
      rw [hstep] at hfailure
      rw [hfailure, hfailures, hrun]
      rfl

end Failing

/-- After any calls on a source that fails, the error has either not come up yet, and then counting and
collecting do not succeed, or it has come up once, and then the records before it pass for the whole
result. -/
theorem run_broken {s t : σ} {records : List Record} {e : Error} (h : Fails s records e t)
    (hreported : RowSource.reported t = none) (fetch : Fetch α) (steps : List Step) :
    let failures := (ofSource s fetch).failures steps
    let r := (ofSource s fetch).run steps
    (failures = [] ∧ r.rowCount.1 = .error e ∧
        r.collect = (records.mapM fetch.map).bind fun _ => .error e) ∨
      (failures = [e] ∧ r.rowCount.1 = .ok records.length ∧ r.collect = records.mapM fetch.map) := by
  intro failures r
  have hfailures : failures = if r.exhausted then [e] else [] := (breaks_start h fetch).failures_eq rfl steps
  have hbreaks : r.Breaks records e t := (kept_breaks records e t).run (breaks_start h fetch) steps
  have hfetch : r.fetch = fetch := (kept_fetch fetch).run rfl steps
  rw [← hfetch]
  cases hr : r.exhausted with
  | false =>
    rw [hr] at hfailures
    exact .inl ⟨hfailures, (hbreaks.rowCount hr).1, hbreaks.collect hr⟩
  | true =>
    have hserves := hbreaks.serves hr
    have hcount := hserves.rowCount
    rw [hr] at hfailures
    rw [hreported] at hcount
    exact .inr ⟨hfailures, hcount, hserves.collect⟩

theorem run_broken_between_records :
    let records : List Record := [⟨[("id", .int 1)]⟩, ⟨[("id", .null)]⟩]
    let e : Error := .query "connection reset"
    let stream : RowStream := ⟨records.map .ok ++ .error e :: [.ok ⟨[]⟩], none, none⟩
    let fetch : Fetch Json := .object
    let early : List Step := [.hasNext, .next, .advance, .rewind]
    let late : List Step := early ++ [.next, .next, .next, .rewind]
    let before := (ofSource stream fetch).run early
    let after := (ofSource stream fetch).run late
    Fails stream records e ⟨[.ok ⟨[]⟩], none, none⟩ ∧
      (before.rowCount.1 = .error e ∧ before.collect = .error e) ∧
      (ofSource stream fetch).failures late = [e] ∧
      after.rowCount.1 = .ok 2 ∧ after.collect = .ok (records.map Record.toJson) := by
  intro records e stream fetch early late before after
  have hfails : Fails stream records e ⟨[.ok ⟨[]⟩], none, none⟩ :=
    RowStream.fails records e [.ok ⟨[]⟩] none none
  have hearly : (ofSource stream fetch).failures early = [] := by decide +kernel
  have hlate : (ofSource stream fetch).failures late = [e] := by decide +kernel
  refine ⟨hfails, ?_, hlate, ?_⟩
  · obtain ⟨-, hcount, hcollect⟩ | ⟨hmet, -⟩ := run_broken hfails rfl fetch early
    · exact ⟨hcount, hcollect⟩
    · exact absurd (hearly.symm.trans hmet) nofun
  · obtain ⟨hunmet, -⟩ | ⟨-, hcount, hcollect⟩ := run_broken hfails rfl fetch late
    · exact absurd (hlate.symm.trans hunmet) nofun
    · exact ⟨hcount, hcollect⟩

/-- A result that broke off behind its first row is counted as one row when it is counted again. -/
theorem broken_counts_as_whole :
    let record : Record := ⟨[("id", .int 1), ("name", .text "ann")]⟩
    let stream : RowStream := ⟨[.ok record, .error (.other "mid")], none, none⟩
    let r : Rows RowStream Record := ofSource stream .identity
    Fails stream [record] (.other "mid") ⟨[], none, none⟩ ∧
      r.rowCount.1 = .error (.other "mid") ∧
      r.rowCount.2.rowCount.1 = .ok 1 ∧ r.rowCount.2.collect = .ok [record] := by
  intro record stream r
  refine ⟨RowStream.fails [record] _ [] none none, ?_⟩
  rw [rowCount_eq r]
  exact ⟨rfl, congrArg Prod.fst (rowCount_eq _), rfl⟩

end Mapping
end Rows
end BoundSql
