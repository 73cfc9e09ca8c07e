import BoundSql.Proofs.Cursor

/-! How many rows a call takes of its source: one at most, unless the position was moved past them. -/

namespace BoundSql.Rows

variable {σ α : Type} [RowSource σ]

theorem hasNext_of_fetched {r : Rows σ α} (h : r.position < r.cache.size) :
    r.hasNext = (.ok true, r) := by
  rw [hasNext, Nat.sub_eq_zero_of_le h, fetchMore]

def taken (r : Rows (Watched σ) α) : Nat := r.source.answers.countP Option.isSome

theorem taken_polled (r : Rows (Watched σ) α) :
    r.polled.taken = r.taken + if (RowSource.poll r.source.source).1.isSome then 1 else 0 := by
  rw [taken, source_polled]
  change (r.source.answers ++ [(RowSource.poll r.source.source).1]).countP Option.isSome = _
  rw [List.countP_append, List.countP_singleton, taken]

theorem taken_polled_of_item {r : Rows (Watched σ) α} {item : Except Error Record}
    (h : (RowSource.poll r.source.source).1 = some item) : r.polled.taken = r.taken + 1 := by
  rw [taken_polled, h]
  rfl

theorem taken_polled_of_end {r : Rows (Watched σ) α} (h : (RowSource.poll r.source.source).1 = none) :
    r.polled.taken = r.taken := by
  rw [taken_polled, h]
  rfl

theorem taken_le_fetchMore (r : Rows (Watched σ) α) (n : Nat) : r.taken ≤ (fetchMore n r).2.taken := by
  refine fetchMore_keeps (P := fun s => r.taken ≤ s.taken) ?_ (Nat.le_refl _) n
  intro s hs _
  rw [taken_polled]
  exact Nat.le_add_right_of_le hs

theorem taken_fetchMore_le (r : Rows (Watched σ) α) (n : Nat) :
    (fetchMore n r).2.taken ≤ r.taken + n := by
  refine fetchMore_le (m := taken) (fun s => ?_) r n
  rw [taken_polled]
  split <;> omega

theorem taken_lt_fetchMore {r : Rows (Watched σ) α} (hr : r.exhausted = false) (n : Nat) :
    r.taken < (fetchMore (n + 1) r).2.taken ↔ (RowSource.poll r.source.source).1.isSome := by
  have hitem : (RowSource.poll r.source).1 = (RowSource.poll r.source.source).1 := rfl
  rw [fetchMore_of_open hr, hitem]
  rcases hpoll : (RowSource.poll r.source.source).1 with _ | e | record
  · refine iff_of_false ?_ Bool.false_ne_true
    rw [taken_polled_of_end hpoll]
    exact Nat.lt_irrefl _
  · refine iff_of_true ?_ rfl
    rw [taken_polled_of_item hpoll]
    exact Nat.lt_succ_self _
  · refine iff_of_true ?_ rfl
    have hrest := taken_le_fetchMore r.polled n
    rw [taken_polled_of_item hpoll] at hrest
    exact hrest

theorem taken_succ_lt_fetchMore {r : Rows (Watched σ) α} (hr : r.exhausted = false) (n : Nat) :
    r.taken + 1 < (fetchMore (n + 2) r).2.taken ↔
      ∃ record, (RowSource.poll r.source.source).1 = some (.ok record) ∧
        (RowSource.poll (RowSource.poll r.source.source).2).1.isSome := by
  have hitem : (RowSource.poll r.source).1 = (RowSource.poll r.source.source).1 := rfl
  rw [fetchMore_of_open hr, hitem]
  rcases hpoll : (RowSource.poll r.source.source).1 with _ | e | record
  · refine iff_of_false ?_ nofun
    rw [taken_polled_of_end hpoll]
    exact Nat.not_succ_lt_self
  · refine iff_of_false ?_ nofun
    rw [taken_polled_of_item hpoll]
    exact Nat.lt_irrefl _
  · have hopen : r.polled.exhausted = false := by
      rw [polled_of_record (r := r) (congrArg Item.record? hpoll)]
      exact hr
    have hsecond := taken_lt_fetchMore hopen n
    rw [taken_polled_of_item hpoll, source_polled] at hsecond
    exact hsecond.trans ⟨fun h => ⟨record, rfl, h⟩, fun ⟨_, _, h⟩ => h⟩

theorem taken_succ_lt_hasNext (r : Rows (Watched σ) α) :
    r.taken + 1 < r.hasNext.2.taken ↔
      r.exhausted = false ∧ r.cache.size < r.position ∧
        ∃ record, (RowSource.poll r.source.source).1 = some (.ok record) ∧
          (RowSource.poll (RowSource.poll r.source.source).2).1.isSome := by
  by_cases hbehind : r.cache.size < r.position
  · obtain ⟨n, hmissing⟩ : ∃ n, r.position + 1 - r.cache.size = n + 2 :=
      ⟨r.position - r.cache.size - 1, by omega⟩
    rw [hasNext, hmissing]
    cases hr : r.exhausted with
    | true =>
      rw [fetchMore_of_exhausted hr]
      exact iff_of_false Nat.not_succ_lt_self fun h => Bool.false_ne_true h.1.symm
    | false =>
      rw [taken_succ_lt_fetchMore hr]
      exact ⟨fun h => ⟨rfl, hbehind, h⟩, fun h => h.2.2⟩
  · have hbound : r.hasNext.2.taken ≤ r.taken + (r.position + 1 - r.cache.size) := taken_fetchMore_le r _
    refine iff_of_false ?_ fun h => hbehind h.2.1
    omega

theorem cache_size_le_fetchMore (r : Rows σ α) (n : Nat) :
    r.cache.size ≤ (fetchMore n r).2.cache.size := by
  refine fetchMore_keeps (P := fun s => r.cache.size ≤ s.cache.size) ?_ (Nat.le_refl _) n
  intro s hs _
  cases hitem : Item.record? (RowSource.poll s.source).1 with
  | none =>
    rw [polled_of_no_record hitem]
    exact hs
  | some record =>
    rw [cache_size_polled hitem]
    exact Nat.le_succ_of_le hs

section Mapping

variable [RowType α]

theorem hasNext_of_next {r : Rows σ α} {a : α} (h : r.next.1 = .ok (some a)) :
    r.hasNext.1 = .ok true := by
  unfold next at h
  generalize r.hasNext = fetched at h
  obtain ⟨_ | _ | _, s⟩ := fetched
  · cases h
  · cases h
  · rfl

/-- Calls that only move past a row after it was fetched. -/
def Careful (r : Rows σ α) : List Step → Prop
  | [] => True
  | a :: rest => (a = .advance → r.position < r.cache.size) ∧ Careful (r.step a) rest

theorem position_le_step {r : Rows σ α} (h : r.position ≤ r.cache.size) {a : Step}
    (ha : a = .advance → r.position < r.cache.size) : (r.step a).position ≤ (r.step a).cache.size := by
  have hfetched (n : Nat) : (fetchMore n r).2.position ≤ (fetchMore n r).2.cache.size := by
    rw [(fetchMore_place r n).1]
    exact Nat.le_trans h (cache_size_le_fetchMore r n)
  cases a with
  | hasNext => exact hfetched _
  | next =>
    change r.next.2.position ≤ r.next.2.cache.size
    obtain ⟨a, hnext⟩ | ⟨-, hnext⟩ := next_cases r
    · have hrow : r.hasNext.1 = .ok true := hasNext_of_next (congrArg Prod.fst hnext)
      have hsize : r.hasNext.2.cache.size = r.cache.size + (r.position + 1 - r.cache.size) :=
        fetchMore_ok hrow
      have hposition : r.hasNext.2.position = r.position := (fetchMore_place r _).1
      rw [hnext]
      change r.hasNext.2.position + 1 ≤ r.hasNext.2.cache.size
      omega
    · rw [hnext]
      exact hfetched _
  | current => exact h
  | currentRecord => exact h
  | advance => exact ha rfl
  | rewind => exact Nat.zero_le _
  | rowCount =>
    change r.rowCount.2.position ≤ r.rowCount.2.cache.size
    rw [rowCount_eq]
    exact hfetched _

theorem position_le_run {r : Rows σ α} (h : r.position ≤ r.cache.size) {steps : List Step}
    (hsteps : r.Careful steps) : (r.run steps).position ≤ (r.run steps).cache.size := by
  induction steps generalizing r with
  | nil => exact h
  | cons a rest ih => exact ih (position_le_step h hsteps.1) hsteps.2

/-- After any calls, asking for the next row takes nothing if the row at the position was fetched before,
and as many items as rows are missing at the most. It takes more than one exactly if the position lies
behind the rows fetched and the source hands out a record and one more item. It never does where each
advance was past a fetched row. -/
theorem run_takes (s : σ) (fetch : Fetch α) (steps : List Step) :
    let start := ofSource (Watched.start s) fetch
    let r := start.run steps
    let asked := r.hasNext
    r.unwatched = (ofSource s fetch).run steps ∧
      (r.currentRecord?.isSome → asked = (.ok true, r)) ∧
      asked.2.taken ≤ r.taken + (r.position + 1 - r.cache.size) ∧
      (r.taken + 1 < asked.2.taken ↔
        r.exhausted = false ∧ r.cache.size < r.position ∧
          ∃ record, (RowSource.poll r.source.source).1 = some (.ok record) ∧
            (RowSource.poll (RowSource.poll r.source.source).2).1.isSome) ∧
      (start.Careful steps → asked.2.taken ≤ r.taken + 1) := by
  intro start r asked
  have hbound : asked.2.taken ≤ r.taken + (r.position + 1 - r.cache.size) := taken_fetchMore_le r _
  refine ⟨run_unwatched start steps, ?_, hbound, taken_succ_lt_hasNext r, ?_⟩
  · intro hrow
    exact hasNext_of_fetched (by simpa [currentRecord?] using hrow)
  · intro hsteps
    have hposition : r.position ≤ r.cache.size := position_le_run (Nat.le_refl 0) hsteps
    omega

/-- A cursor that was moved past two rows takes both of them in one call, and finds none behind them. -/
theorem takes_two_at_once :
    let records : List Record := [⟨[("id", .int 1)]⟩, ⟨[("id", .int 2)]⟩]
    let r : Rows (Watched RowStream) Record :=
      (ofSource (Watched.start (RowStream.ofRecords records)) .identity).run [.advance, .advance]
    r.taken = 0 ∧ r.hasNext.1 = .ok false ∧ r.hasNext.2.taken = 2 := by
  intro records r
  exact ⟨rfl, rfl, rfl⟩

end Mapping
end BoundSql.Rows
