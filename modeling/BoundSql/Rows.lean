import BoundSql.Fetch

/-! Cursors over a result set: rows are taken one at a time, and every row taken is kept. -/

namespace BoundSql

/-- Where a cursor takes its rows from. A source hands out finitely many items; its driver may know the
number of rows, at the latest when the end has been reached. -/
class RowSource (σ : Type) where
  poll : σ → Option (Except Error Record) × σ
  reported : σ → Option Nat
  size : σ → Nat
  size_poll : ∀ {s item t}, poll s = (some item, t) → size t < size s

/-- Items in memory. `reported` is the count known now, `final` the one that the end makes known. -/
structure RowStream where
  items : List (Except Error Record)
  reported : Option Nat
  final : Option Nat

namespace RowStream

def ofRecords (records : List Record) : RowStream := ⟨records.map .ok, none, none⟩

def poll (s : RowStream) : Option (Except Error Record) × RowStream :=
  match s.items with
  | [] => (none, { s with reported := s.reported.or s.final })
  | item :: rest => (some item, { s with items := rest })

theorem length_poll {s t : RowStream} {item : Except Error Record} (h : s.poll = (some item, t)) :
    t.items.length < s.items.length := by
  cases hs : s.items <;> simp [poll, hs] at h
  simp [← h.2]

instance : RowSource RowStream where
  poll := poll
  reported := reported
  size s := s.items.length
  size_poll := length_poll

end RowStream

structure Rows (σ α : Type) where
  source : σ
  cache : Array Record
  position : Nat
  exhausted : Bool
  fetch : Fetch α

namespace Rows

variable {σ α : Type}

def ofSource (source : σ) (fetch : Fetch α) : Rows σ α := ⟨source, #[], 0, false, fetch⟩

def currentRecord? (r : Rows σ α) : Option Record := r.cache[r.position]?

def advance (r : Rows σ α) : Rows σ α := { r with position := r.position + 1 }

def rewind (r : Rows σ α) : Rows σ α := { r with position := 0 }

def notFetched (position : Nat) : Error :=
  .unexpectedValue ("no row fetched at position " ++ toString position)

def text (r : Rows σ α) : String :=
  Text.structureText "Rows"
    [("fetched", toString r.cache.size), ("position", toString r.position),
      ("exhausted", if r.exhausted then "true" else "false"), ("fetch_as", r.fetch.text)]

section Fetching

variable [RowSource σ]

def fetchMore : (missing : Nat) → Rows σ α → Except Error Bool × Rows σ α
  | 0, r => (.ok true, r)
  | missing + 1, r =>
    if r.exhausted then (.ok false, r)
    else
      match RowSource.poll r.source with
      | (some (.ok record), s) => fetchMore missing { r with source := s, cache := r.cache.push record }
      | (some (.error e), s) => (.error e, { r with source := s, exhausted := true })
      | (none, s) => (.ok false, { r with source := s, exhausted := true })

def hasNext (r : Rows σ α) : Except Error Bool × Rows σ α :=
  fetchMore (r.position + 1 - r.cache.size) r

def drain (r : Rows σ α) : Except Error Unit × Rows σ α :=
  if r.exhausted then (.ok (), r)
  else
    match _h : RowSource.poll r.source with
    | (some (.ok record), s) => drain { r with source := s, cache := r.cache.push record }
    | (some (.error e), s) => (.error e, { r with source := s, exhausted := true })
    | (none, s) => (.ok (), { r with source := s, exhausted := true })
termination_by RowSource.size r.source
decreasing_by exact RowSource.size_poll _h

def rowCount (r : Rows σ α) : Except Error Nat × Rows σ α :=
  match r.drain with
  | (.error e, r) => (.error e, r)
  | (.ok (), r) => (.ok ((RowSource.reported r.source).getD r.cache.size), r)

end Fetching

section Mapping

variable [RowType α]

def current (r : Rows σ α) : Except Error α :=
  match r.currentRecord? with
  | some record => r.fetch.map record
  | none => .error (notFetched r.position)

variable [RowSource σ]

/-- Fetch, map and step past the next row. The position stays where the mapping fails. -/
def next (r : Rows σ α) : Except Error (Option α) × Rows σ α :=
  match r.hasNext with
  | (.error e, r) => (.error e, r)
  | (.ok false, r) => (.ok none, r)
  | (.ok true, r) =>
    match r.current with
    | .error e => (.error e, r)
    | .ok a => (.ok (some a), r.advance)

def ahead (r : Rows σ α) : Nat := (r.cache.size - r.position) + RowSource.size r.source

def takeRows : (fuel : Nat) → List α → Rows σ α → Except Error (List α)
  | 0, taken, _ => .ok taken.reverse
  | fuel + 1, taken, r =>
    match r.next with
    | (.error e, _) => .error e
    | (.ok none, _) => .ok taken.reverse
    | (.ok (some a), r) => takeRows fuel (a :: taken) r

def collect (r : Rows σ α) : Except Error (List α) := takeRows (r.rewind.ahead + 1) [] r.rewind

end Mapping

end Rows

end BoundSql
