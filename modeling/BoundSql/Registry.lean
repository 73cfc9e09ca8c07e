import BoundSql.Config
import BoundSql.ConnectionString
import BoundSql.Event

/-! Registries of connection pools; a pool keeps its number, so a handle can tell if it is closed. -/

namespace BoundSql

structure Pool where
  settings : ConnectionString.Settings
  maxSize : Nat
  closed : Bool

def Error.invalidConnectionString : Error := .connection "invalid connection string"

namespace Pool

def create (url : String) (maxSize : Nat) : Except Error Pool :=
  match ConnectionString.parse url with
  | some settings => .ok ⟨settings, maxSize, false⟩
  | none => .error .invalidConnectionString

end Pool

abbrev PoolId := Nat

structure Registry where
  /-- All pools that were ever made here. -/
  pools : List Pool
  entries : List (String × PoolId)

namespace Registry

def empty : Registry := ⟨[], []⟩

def find? (r : Registry) (key : String) : Option PoolId := (r.entries.find? (·.1 == key)).map (·.2)

def size (r : Registry) : Nat := r.entries.length

def isEmpty (r : Registry) : Bool := r.entries.isEmpty

def text (r : Registry) : String := Text.structureText "PoolRegistry" [("pools", toString r.size)]

def isClosed (r : Registry) (id : PoolId) : Bool := ((r.pools[id]?).map (·.closed)).getD true

def createdEvent (c : Config) : Event :=
  .noted .debug "querymap.pool" "created pool"
    [("max_size", toString c.maxSize), ("dialect", c.dialect)]

def get (r : Registry) (c : Config) : Except Error PoolId × Registry × List Event :=
  match c.validate with
  | .error e => (.error e, r, [])
  | .ok () =>
    match r.find? c.key with
    | some id => (.ok id, r, [])
    | none =>
      match Pool.create c.url c.maxSize with
      | .error e => (.error e, r, [])
      | .ok pool =>
        let id := r.pools.length
        (.ok id, ⟨r.pools ++ [pool], r.entries ++ [(c.key, id)]⟩, [createdEvent c])

def close (pools : List Pool) (id : PoolId) : List Pool :=
  pools.modify id fun p => { p with closed := true }

def remove (r : Registry) (c : Config) : Bool × Registry :=
  match r.find? c.key with
  | none => (false, r)
  | some id => (true, ⟨close r.pools id, r.entries.filter (·.1 != c.key)⟩)

end Registry

end BoundSql
