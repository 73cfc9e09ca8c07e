import BoundSql.Proofs.JsonText
import BoundSql.Registry
import Mathlib.Data.Finset.Card

/-! Registries as maps from configurations to pools, followed request by request in a ledger. -/

namespace BoundSql

def Config.Usable (c : Config) : Prop :=
  c.validate = .ok () ∧ (ConnectionString.parse c.url).isSome = true

instance (c : Config) : Decidable c.Usable := inferInstanceAs (Decidable (_ ∧ _))

example : (Config.ofUrl "postgres://app@localhost/app").Usable := by decide +kernel

namespace Registry

inductive Request where
  | get (c : Config)
  | remove (c : Config)
  deriving DecidableEq

def after (r : Registry) : Request → Registry
  | .get c => (r.get c).2.1
  | .remove c => (r.remove c).2

def run (r : Registry) (requests : List Request) : Registry := requests.foldl after r

def events (r : Registry) : Request → List Event
  | .get c => (r.get c).2.2
  | .remove _ => []

def logged (r : Registry) : List Request → List Event
  | [] => []
  | q :: rest => r.events q ++ (r.after q).logged rest

/-- A pool was asked for, and its configuration was not removed since. -/
def Holds (c : Config) (requests : List Request) : Prop :=
  c.Usable ∧ ∃ earlier later, requests = earlier ++ .get c :: later ∧ .remove c ∉ later

structure Ledger where
  opened : List (Config × PoolId)
  made : List Config

namespace Ledger

def start : Ledger := ⟨[], []⟩

def after (l : Ledger) : Request → Ledger
  | .get c =>
    if c.Usable ∧ c ∉ l.opened.map Prod.fst then
      ⟨l.opened ++ [(c, l.made.length)], l.made ++ [c]⟩
    else l
  | .remove c => { l with opened := l.opened.filter fun p => p.1 ≠ c }

def run (l : Ledger) (requests : List Request) : Ledger := requests.foldl after l

end Ledger

structure Follows (r : Registry) (l : Ledger) : Prop where
  entries : r.entries = l.opened.map fun p => (p.1.key, p.2)
  distinct : (l.opened.map Prod.fst).Nodup
  owned : ∀ p ∈ l.opened, l.made[p.2]? = some p.1
  usable : ∀ c ∈ l.made, c.Usable
  pools : r.pools.map (fun p => Except.ok { p with closed := false }) =
    l.made.map fun c => Pool.create c.url c.maxSize
  isClosed : ∀ id, r.isClosed id = false ↔ id ∈ l.opened.map Prod.snd

theorem follows_start : Follows empty Ledger.start where
  entries := rfl
  distinct := List.nodup_nil
  owned p hp := absurd hp List.not_mem_nil
  usable c hc := absurd hc List.not_mem_nil
  pools := rfl
  isClosed id := iff_of_false (by exact Bool.noConfusion) List.not_mem_nil

theorem isClosed_append (pools : List Pool) (pool : Pool) (entries entries' : List (String × PoolId))
    (id : Nat) :
    isClosed ⟨pools ++ [pool], entries⟩ id =
      if id = pools.length then pool.closed else isClosed ⟨pools, entries'⟩ id := by
  unfold isClosed
  split
  · next h => rw [h, List.getElem?_concat_length, Option.map_some, Option.getD_some]
  · next h =>
    by_cases hlt : id < pools.length
    · rw [List.getElem?_append_left hlt]
    · rw [List.getElem?_eq_none (Nat.le_of_not_lt hlt), List.getElem?_eq_none]
      rw [List.length_append, List.length_singleton]
      omega

theorem isClosed_close (pools : List Pool) (id : PoolId) (entries entries' : List (String × PoolId))
    (other : PoolId) :
    isClosed ⟨close pools id, entries⟩ other = (isClosed ⟨pools, entries'⟩ other || other == id) := by
  unfold isClosed close
  dsimp only
  rw [List.getElem?_modify]
  by_cases h : id = other
  · subst h
    cases pools[id]? <;> simp
  · cases pools[other]? <;> simp [h, Ne.symm h]

theorem key_beq (c d : Config) : (c.key == d.key) = decide (c = d) := by
  rw [beq_eq_decide, decide_eq_decide]
  exact Config.key_injective.eq_iff

theorem find?_key (opened : List (Config × PoolId)) (c : Config) :
    (opened.map fun p => (p.1.key, p.2)).find? (·.1 == c.key) =
      (opened.find? (·.1 = c)).map fun p => (p.1.key, p.2) := by
  have hkey : (fun p : Config × PoolId => p.1.key == c.key) = fun p => decide (p.1 = c) :=
    funext fun p => key_beq p.1 c
  rw [List.find?_map, ← hkey]
  rfl

theorem filter_key (opened : List (Config × PoolId)) (c : Config) :
    (opened.map fun p => (p.1.key, p.2)).filter (·.1 != c.key) =
      (opened.filter fun p => p.1 ≠ c).map fun p => (p.1.key, p.2) := by
  rw [List.filter_map]
  refine congrArg (List.map _) (List.filter_congr fun p _ => ?_)
  simp only [Function.comp_apply, bne, key_beq, ne_eq, decide_not]

namespace Follows

variable {r : Registry} {l : Ledger}

theorem length_made (h : r.Follows l) : l.made.length = r.pools.length := by
  have hlength := congrArg List.length h.pools
  rwa [List.length_map, List.length_map, eq_comm] at hlength

theorem id_inj (h : r.Follows l) {c d : Config} {id : PoolId} (hc : (c, id) ∈ l.opened)
    (hd : (d, id) ∈ l.opened) : c = d := by
  have howner := h.owned (c, id) hc
  rw [h.owned (d, id) hd] at howner
  exact (Option.some.inj howner).symm

theorem config_inj (h : r.Follows l) {c : Config} {id id' : PoolId} (hid : (c, id) ∈ l.opened)
    (hid' : (c, id') ∈ l.opened) : id = id' :=
  congrArg Prod.snd (List.inj_on_of_nodup_map h.distinct hid hid' rfl)

theorem find?_eq_some (h : r.Follows l) (c : Config) (id : PoolId) :
    r.find? c.key = some id ↔ (c, id) ∈ l.opened := by
  rw [find?, h.entries, find?_key, Option.map_map]
  constructor
  · intro hfind
    obtain ⟨p, hp, rfl⟩ := Option.map_eq_some_iff.mp hfind
    obtain rfl : p.1 = c := by simpa only [decide_eq_true_eq] using List.find?_some hp
    exact List.mem_of_find?_eq_some hp
  · intro hmem
    cases hfind : l.opened.find? (·.1 = c) with
    | none => exact absurd (List.find?_eq_none.mp hfind (c, id) hmem) (by simp)
    | some p =>
      obtain rfl : p.1 = c := by simpa only [decide_eq_true_eq] using List.find?_some hfind
      exact congrArg some (h.config_inj (List.mem_of_find?_eq_some hfind) hmem)

theorem find?_eq_none (h : r.Follows l) (c : Config) :
    r.find? c.key = none ↔ c ∉ l.opened.map Prod.fst := by
  rw [Option.eq_none_iff_forall_ne_some]
  constructor
  · intro hnone hmem
    obtain ⟨⟨d, id⟩, hp, rfl⟩ := List.mem_map.mp hmem
    exact hnone id ((h.find?_eq_some d id).mpr hp)
  · intro hmem id hid
    exact hmem (List.mem_map.mpr ⟨(c, id), (h.find?_eq_some c id).mp hid, rfl⟩)

theorem usable_of_mem (h : r.Follows l) {c : Config} {id : PoolId} (hc : (c, id) ∈ l.opened) : c.Usable :=
  h.usable c (List.mem_of_getElem? (h.owned (c, id) hc))

theorem exists_mem {c : Config} (hc : c ∈ l.opened.map Prod.fst) : ∃ id, (c, id) ∈ l.opened := by
  obtain ⟨⟨d, id⟩, hmem, rfl⟩ := List.mem_map.mp hc
  exact ⟨id, hmem⟩

theorem get_refused (h : r.Follows l) {c : Config} (hc : ¬ c.Usable) :
    ∃ e, r.get c = (.error e, r, []) := by
  have hnone : r.find? c.key = none := by
    rw [h.find?_eq_none]
    intro hmem
    obtain ⟨id, hid⟩ := exists_mem hmem
    exact hc (h.usable_of_mem hid)
  unfold Registry.get
  cases hvalid : c.validate with
  | error e => exact ⟨e, rfl⟩
  | ok u =>
    have hparse : ConnectionString.parse c.url = none := by
      cases hparse : ConnectionString.parse c.url with
      | none => rfl
      | some settings => exact absurd ⟨hvalid, by rw [hparse]; rfl⟩ hc
    simp only [hnone, Pool.create, hparse]
    exact ⟨_, rfl⟩

theorem get_opened (h : r.Follows l) {c : Config} {id : PoolId} (hid : (c, id) ∈ l.opened) :
    r.get c = (.ok id, r, []) := by
  have hsome : r.find? c.key = some id := (h.find?_eq_some c id).mpr hid
  unfold Registry.get
  rw [(h.usable_of_mem hid).1]
  simp only [hsome]

theorem get_created (h : r.Follows l) {c : Config} (hc : c.Usable) (hnew : c ∉ l.opened.map Prod.fst) :
    ∃ pool, Pool.create c.url c.maxSize = .ok pool ∧ pool.closed = false ∧
      r.get c = (.ok r.pools.length, ⟨r.pools ++ [pool], r.entries ++ [(c.key, r.pools.length)]⟩,
        [createdEvent c]) := by
  have hnone : r.find? c.key = none := (h.find?_eq_none c).mpr hnew
  obtain ⟨settings, hparse⟩ := Option.isSome_iff_exists.mp hc.2
  have hpool : Pool.create c.url c.maxSize = .ok ⟨settings, c.maxSize, false⟩ := by
    rw [Pool.create, hparse]
  refine ⟨_, hpool, rfl, ?_⟩
  unfold Registry.get
  rw [hc.1]
  simp only [hnone, hpool]

theorem created (h : r.Follows l) {c : Config} (hc : c.Usable) (hnew : c ∉ l.opened.map Prod.fst)
    {pool : Pool} (hpool : Pool.create c.url c.maxSize = .ok pool) (hopen : pool.closed = false) :
    Follows ⟨r.pools ++ [pool], r.entries ++ [(c.key, r.pools.length)]⟩
      ⟨l.opened ++ [(c, l.made.length)], l.made ++ [c]⟩ where
  entries := by
    rw [List.map_append, ← h.entries, h.length_made]
    rfl
  distinct := by
    rw [List.map_append, List.map_singleton]
    rw [← List.concat_eq_append]
    exact h.distinct.concat hnew
  owned p hp := by
    rcases List.mem_append.mp hp with hp | hp
    · have howner := h.owned p hp
      have hlt : p.2 < l.made.length := (List.getElem?_eq_some_iff.mp howner).1
      exact (List.getElem?_append_left hlt).trans howner
    · obtain rfl := List.mem_singleton.mp hp
      exact List.getElem?_concat_length
  usable d hd := by
    rcases List.mem_append.mp hd with hd | hd
    · exact h.usable d hd
    · obtain rfl := List.mem_singleton.mp hd
      exact hc
  pools := by
    have hreopened : ({ pool with closed := false } : Pool) = pool := by
      rw [← hopen]
    rw [List.map_append, List.map_append, h.pools, List.map_singleton, List.map_singleton, hreopened, hpool]
  isClosed id := by
    rw [isClosed_append r.pools pool _ r.entries, List.map_append, List.mem_append, ← h.isClosed id,
      h.length_made]
    split
    · next hid => exact iff_of_true hopen (.inr (List.mem_singleton.mpr hid))
    · next hid =>
      have hother : id ∉ [(c, r.pools.length)].map Prod.snd := fun hmem => hid (List.mem_singleton.mp hmem)
      exact (or_iff_left hother).symm

theorem map_close (pools : List Pool) (id : PoolId) :
    (close pools id).map (fun p => Except.ok (ε := Error) { p with closed := false }) =
      pools.map fun p => Except.ok { p with closed := false } := by
  refine List.ext_getElem? fun i => ?_
  rw [close, List.getElem?_map, List.getElem?_map, List.getElem?_modify]
  cases pools[i]? with
  | none => rfl
  | some p =>
    dsimp only [Functor.map, Option.map_some]
    split <;> rfl

theorem removed (h : r.Follows l) {c : Config} {id : PoolId} (hid : (c, id) ∈ l.opened) :
    Follows ⟨close r.pools id, r.entries.filter (·.1 != c.key)⟩
      { l with opened := l.opened.filter fun p => p.1 ≠ c } where
  entries := by
    rw [h.entries]
    exact filter_key l.opened c
  distinct := h.distinct.sublist (List.filter_sublist.map Prod.fst)
  owned p hp := h.owned p (List.mem_filter.mp hp).1
  usable := h.usable
  pools := (map_close r.pools id).trans h.pools
  isClosed other := by
    rw [isClosed_close r.pools id _ r.entries, Bool.or_eq_false_iff, h.isClosed other, beq_eq_false_iff_ne]
    constructor
    · rintro ⟨hmem, hne⟩
      obtain ⟨p, hp, rfl⟩ := List.mem_map.mp hmem
      have hother : p.1 ≠ c := fun hpc => hne (h.config_inj (c := p.1) hp (hpc ▸ hid))
      exact List.mem_map.mpr ⟨p, List.mem_filter.mpr ⟨hp, decide_eq_true hother⟩, rfl⟩
    · intro hmem
      obtain ⟨p, hp, rfl⟩ := List.mem_map.mp hmem
      obtain ⟨hp, hother⟩ := List.mem_filter.mp hp
      refine ⟨List.mem_map.mpr ⟨p, hp, rfl⟩, ?_⟩
      rintro rfl
      exact of_decide_eq_true hother (h.id_inj (c := p.1) hp hid)

theorem remove_opened (h : r.Follows l) {c : Config} {id : PoolId} (hid : (c, id) ∈ l.opened) :
    r.remove c = (true, ⟨close r.pools id, r.entries.filter (·.1 != c.key)⟩) := by
  have hsome : r.find? c.key = some id := (h.find?_eq_some c id).mpr hid
  rw [Registry.remove, hsome]

theorem remove_absent (h : r.Follows l) {c : Config} (hc : c ∉ l.opened.map Prod.fst) :
    r.remove c = (false, r) := by
  have hnone : r.find? c.key = none := (h.find?_eq_none c).mpr hc
  rw [Registry.remove, hnone]

end Follows

namespace Ledger

variable {l : Ledger} {c : Config}

theorem after_get_created (hc : c.Usable) (hnew : c ∉ l.opened.map Prod.fst) :
    l.after (.get c) = ⟨l.opened ++ [(c, l.made.length)], l.made ++ [c]⟩ := if_pos ⟨hc, hnew⟩

theorem after_get_opened (hmem : c ∈ l.opened.map Prod.fst) : l.after (.get c) = l :=
  if_neg fun h => h.2 hmem

theorem after_get_refused (hc : ¬ c.Usable) : l.after (.get c) = l := if_neg fun h => hc h.1

theorem after_remove_absent (hc : c ∉ l.opened.map Prod.fst) : l.after (.remove c) = l := by
  have hall : l.opened.filter (fun p => p.1 ≠ c) = l.opened := by
    rw [List.filter_eq_self]
    intro p hp
    have hne : p.1 ≠ c := fun h => hc (h ▸ List.mem_map_of_mem hp)
    exact decide_eq_true hne
  rw [after, hall]

theorem mem_after {p : Config × PoolId} (hp : p ∈ l.opened) {q : Request} (hq : q ≠ .remove p.1) :
    p ∈ (l.after q).opened := by
  cases q with
  | get c =>
    rw [after]
    split
    · exact List.mem_append_left _ hp
    · exact hp
  | remove c =>
    have hne : p.1 ≠ c := fun h => hq (h ▸ rfl)
    exact List.mem_filter.mpr ⟨hp, decide_eq_true hne⟩

theorem made_prefix_after (l : Ledger) (q : Request) : l.made <+: (l.after q).made := by
  cases q with
  | get c =>
    rw [after]
    split
    · exact List.prefix_append _ _
    · exact List.prefix_refl _
  | remove c => exact List.prefix_refl _

theorem mem_fst_after (l : Ledger) (q : Request) (c : Config) :
    c ∈ (l.after q).opened.map Prod.fst ↔
      (q = .get c ∧ c.Usable) ∨ (c ∈ l.opened.map Prod.fst ∧ q ≠ .remove c) := by
  cases q with
  | get d =>
    by_cases hd : d.Usable
    · by_cases hmem : d ∈ l.opened.map Prod.fst
      · rw [after_get_opened hmem]
        constructor
        · exact fun hc => .inr ⟨hc, Request.noConfusion⟩
        · rintro (⟨heq, -⟩ | ⟨hc, -⟩)
          · cases heq
            exact hmem
          · exact hc
      · rw [after_get_created hd hmem, List.map_append, List.mem_append, List.map_singleton,
          List.mem_singleton]
        constructor
        · rintro (hc | rfl)
          · exact .inr ⟨hc, Request.noConfusion⟩
          · exact .inl ⟨rfl, hd⟩
        · rintro (⟨heq, -⟩ | ⟨hc, -⟩)
          · cases heq
            exact .inr rfl
          · exact .inl hc
    · rw [after_get_refused hd]
      constructor
      · exact fun hc => .inr ⟨hc, Request.noConfusion⟩
      · rintro (⟨heq, hc⟩ | ⟨hc, -⟩)
        · cases heq
          exact absurd hc hd
        · exact hc
  | remove d =>
    constructor
    · intro hmem
      obtain ⟨p, hp, rfl⟩ := List.mem_map.mp hmem
      obtain ⟨hp, hne⟩ := List.mem_filter.mp hp
      refine .inr ⟨List.mem_map_of_mem hp, ?_⟩
      rintro ⟨⟩
      exact of_decide_eq_true hne rfl
    · rintro (⟨heq, -⟩ | ⟨hmem, hne⟩)
      · cases heq
      · obtain ⟨p, hp, rfl⟩ := List.mem_map.mp hmem
        exact List.mem_map_of_mem (mem_after hp hne)

theorem mem_run {p : Config × PoolId} (hp : p ∈ l.opened) {requests : List Request}
    (h : .remove p.1 ∉ requests) : p ∈ (l.run requests).opened := by
  induction requests generalizing l with
  | nil => exact hp
  | cons q rest ih =>
    obtain ⟨hq, hrest⟩ := not_or.mp (mt List.mem_cons.mpr h)
    exact ih (mem_after hp (Ne.symm hq)) hrest

theorem made_prefix_run (l : Ledger) (requests : List Request) : l.made <+: (l.run requests).made := by
  induction requests generalizing l with
  | nil => exact List.prefix_refl _
  | cons q rest ih => exact (l.made_prefix_after q).trans (ih (l.after q))

end Ledger

theorem holds_cons (c : Config) (q : Request) (rest : List Request) :
    Holds c (q :: rest) ↔ Holds c rest ∨ (q = .get c ∧ c.Usable ∧ .remove c ∉ rest) := by
  constructor
  · rintro ⟨hc, earlier, later, hsplit, hlater⟩
    cases earlier with
    | nil =>
      obtain ⟨rfl, rfl⟩ := List.cons.inj hsplit
      exact .inr ⟨rfl, hc, hlater⟩
    | cons q' earlier =>
      obtain ⟨-, rfl⟩ := List.cons.inj hsplit
      exact .inl ⟨hc, earlier, later, rfl, hlater⟩
  · rintro (⟨hc, earlier, later, rfl, hlater⟩ | ⟨rfl, hc, hrest⟩)
    · exact ⟨hc, q :: earlier, later, rfl, hlater⟩
    · exact ⟨hc, [], rest, rfl, hrest⟩

theorem Ledger.mem_fst_run (l : Ledger) (requests : List Request) (c : Config) :
    c ∈ (l.run requests).opened.map Prod.fst ↔
      Holds c requests ∨ (c ∈ l.opened.map Prod.fst ∧ .remove c ∉ requests) := by
  induction requests generalizing l with
  | nil =>
    have hnone : ¬ Holds c [] := by
      rintro ⟨-, earlier, later, hsplit, -⟩
      cases earlier <;> cases hsplit
    rw [or_iff_right hnone]
    exact (and_iff_left List.not_mem_nil).symm
  | cons q rest ih =>
    have hrun : (l.run (q :: rest)) = (l.after q).run rest := rfl
    rw [hrun, ih, Ledger.mem_fst_after, holds_cons, List.mem_cons, not_or, Ne, eq_comm (b := q)]
    tauto

namespace Follows

variable {r : Registry} {l : Ledger}

theorem after (h : r.Follows l) (q : Request) :
    (r.after q).Follows (l.after q) ∧
      l.made.map createdEvent ++ r.events q = (l.after q).made.map createdEvent := by
  cases q with
  | get c =>
    rw [Registry.after, Registry.events]
    by_cases hc : c.Usable
    · by_cases hmem : c ∈ l.opened.map Prod.fst
      · obtain ⟨id, hid⟩ := exists_mem hmem
        rw [h.get_opened hid, Ledger.after_get_opened hmem]
        exact ⟨h, List.append_nil _⟩
      · obtain ⟨pool, hpool, hopen, hget⟩ := h.get_created hc hmem
        rw [hget, Ledger.after_get_created hc hmem]
        refine ⟨h.created hc hmem hpool hopen, ?_⟩
        rw [List.map_append]
        rfl
    · obtain ⟨e, hget⟩ := h.get_refused hc
      rw [hget, Ledger.after_get_refused hc]
      exact ⟨h, List.append_nil _⟩
  | remove c =>
    rw [Registry.after, Registry.events, List.append_nil]
    refine ⟨?_, rfl⟩
    by_cases hmem : c ∈ l.opened.map Prod.fst
    · obtain ⟨id, hid⟩ := exists_mem hmem
      rw [h.remove_opened hid]
      exact h.removed hid
    · rw [h.remove_absent hmem, Ledger.after_remove_absent hmem]
      exact h

theorem run (h : r.Follows l) (requests : List Request) :
    (r.run requests).Follows (l.run requests) ∧
      l.made.map createdEvent ++ r.logged requests = (l.run requests).made.map createdEvent := by
  induction requests generalizing r l with
  | nil => exact ⟨h, List.append_nil _⟩
  | cons q rest ih =>
    obtain ⟨hafter, hevents⟩ := h.after q
    obtain ⟨hrun, hlogged⟩ := ih hafter
    refine ⟨hrun, ?_⟩
    rw [logged, ← List.append_assoc, hevents]
    exact hlogged

end Follows

structure ActsAsMap (requests : List Request) (r : Registry) : Prop where
  get_ok : ∀ c, (∃ id, (r.get c).1 = .ok id) ↔
    c.validate = .ok () ∧ (ConnectionString.parse c.url).isSome = true
  get_error : ∀ c e, (r.get c).1 = .error e → (r.get c).2 = (r, [])
  same : ∀ c, Holds c requests → ∃ id, ∀ later, .remove c ∉ later →
    (r.run later).get c = (.ok id, r.run later, []) ∧ (r.run later).isClosed id = false
  /-- No other configuration gets the pool, now or after any other requests. -/
  apart : ∀ c id, (r.get c).1 = .ok id → ∀ later d,
    (((r.after (.get c)).run later).get d).1 = .ok id → d = c
  remove_eq : ∀ c, (r.remove c).1 = true ↔ Holds c requests
  remove_absent : ∀ c, ¬ Holds c requests → (r.remove c).2 = r
  closes : ∀ c id, Holds c requests → (r.get c).1 = .ok id → ∀ other,
    (r.remove c).2.isClosed other = (r.isClosed other || other == id)
  renewed : ∀ c, Holds c requests →
    ((r.remove c).2.get c).1 = .ok r.pools.length ∧ ((r.remove c).2.get c).2.2 = [createdEvent c]
  size : ∃ present : Finset Config, (∀ c, c ∈ present ↔ Holds c requests) ∧ r.size = present.card
  logged : ∃ made : List Config, empty.logged requests = made.map createdEvent ∧
    r.pools.map (fun p => Except.ok { p with closed := false }) =
      made.map fun c => Pool.create c.url c.maxSize

namespace Follows

variable {r : Registry} {l : Ledger}

theorem get_eq_ok (h : r.Follows l) {c : Config} {id : PoolId} (hget : (r.get c).1 = .ok id) :
    (l.after (.get c)).made[id]? = some c := by
  by_cases hc : c.Usable
  · by_cases hmem : c ∈ l.opened.map Prod.fst
    · obtain ⟨id', hid⟩ := exists_mem hmem
      rw [h.get_opened hid] at hget
      obtain rfl : id' = id := Except.ok.inj hget
      rw [Ledger.after_get_opened hmem]
      exact h.owned (c, id') hid
    · obtain ⟨pool, -, -, hcreated⟩ := h.get_created hc hmem
      rw [hcreated] at hget
      obtain rfl : r.pools.length = id := Except.ok.inj hget
      rw [Ledger.after_get_created hc hmem, ← h.length_made]
      exact List.getElem?_concat_length
  · obtain ⟨e, hrefused⟩ := h.get_refused hc
    rw [hrefused] at hget
    cases hget

theorem get_ok (h : r.Follows l) (c : Config) : (∃ id, (r.get c).1 = .ok id) ↔ c.Usable := by
  constructor
  · rintro ⟨id, hid⟩
    by_contra hc
    obtain ⟨e, hget⟩ := h.get_refused hc
    rw [hget] at hid
    cases hid
  · intro hc
    by_cases hmem : c ∈ l.opened.map Prod.fst
    · obtain ⟨id, hid⟩ := exists_mem hmem
      exact ⟨id, by rw [h.get_opened hid]⟩
    · obtain ⟨pool, -, -, hget⟩ := h.get_created hc hmem
      exact ⟨r.pools.length, by rw [hget]⟩

theorem get_error (h : r.Follows l) {c : Config} {e : Error} (hget : (r.get c).1 = .error e) :
    (r.get c).2 = (r, []) := by
  have hc : ¬ c.Usable := by
    rw [← h.get_ok]
    rintro ⟨id, hid⟩
    rw [hid] at hget
    cases hget
  obtain ⟨e', hrefused⟩ := h.get_refused hc
  rw [hrefused]

theorem same (h : r.Follows l) {c : Config} {id : PoolId} (hid : (c, id) ∈ l.opened)
    {later : List Request} (hlater : .remove c ∉ later) :
    (r.run later).get c = (.ok id, r.run later, []) ∧ (r.run later).isClosed id = false := by
  obtain ⟨hrun, -⟩ := h.run later
  have hstill := Ledger.mem_run hid hlater
  exact ⟨hrun.get_opened hstill, (hrun.isClosed id).mpr (List.mem_map_of_mem hstill)⟩

theorem apart (h : r.Follows l) {c d : Config} {id : PoolId} (hget : (r.get c).1 = .ok id)
    {later : List Request} (hlater : (((r.after (.get c)).run later).get d).1 = .ok id) : d = c := by
  obtain ⟨hafter, -⟩ := h.after (.get c)
  obtain ⟨hrun, -⟩ := hafter.run later
  have hc : (l.after (.get c)).made[id]? = some c := h.get_eq_ok hget
  have hd : (((l.after (.get c)).run later).after (.get d)).made[id]? = some d := hrun.get_eq_ok hlater
  have hprefix : (l.after (.get c)).made <+: (((l.after (.get c)).run later).after (.get d)).made :=
    (Ledger.made_prefix_run _ later).trans (Ledger.made_prefix_after _ _)
  have hlt : id < (l.after (.get c)).made.length := (List.getElem?_eq_some_iff.mp hc).1
  obtain ⟨fresh, hfresh⟩ := hprefix
  rw [← hfresh, List.getElem?_append_left hlt, hc] at hd
  exact (Option.some.inj hd).symm

theorem remove_eq_true (h : r.Follows l) (c : Config) :
    (r.remove c).1 = true ↔ c ∈ l.opened.map Prod.fst := by
  by_cases hmem : c ∈ l.opened.map Prod.fst
  · obtain ⟨id, hid⟩ := exists_mem hmem
    exact iff_of_true (by rw [h.remove_opened hid]) hmem
  · exact iff_of_false (by rw [h.remove_absent hmem]; exact Bool.false_ne_true) hmem

theorem isClosed_remove (h : r.Follows l) {c : Config} {id : PoolId} (hid : (c, id) ∈ l.opened)
    (other : PoolId) : (r.remove c).2.isClosed other = (r.isClosed other || other == id) := by
  rw [h.remove_opened hid]
  exact isClosed_close _ _ _ _ other

theorem get_remove (h : r.Follows l) {c : Config} (hmem : c ∈ l.opened.map Prod.fst) :
    ((r.remove c).2.get c).1 = .ok r.pools.length ∧
      ((r.remove c).2.get c).2.2 = [createdEvent c] := by
  obtain ⟨id, hid⟩ := exists_mem hmem
  have hnew : c ∉ (l.after (.remove c)).opened.map Prod.fst := by
    rw [Ledger.mem_fst_after]
    rintro (⟨heq, -⟩ | ⟨-, hne⟩)
    · cases heq
    · exact hne rfl
  obtain ⟨pool, -, -, hget⟩ := (h.removed hid).get_created (h.usable_of_mem hid) hnew
  have hlength : (close r.pools id).length = r.pools.length := List.length_modify ..
  rw [h.remove_opened hid, hget, hlength]
  exact ⟨rfl, rfl⟩

theorem size_eq (h : r.Follows l) : r.size = (l.opened.map Prod.fst).toFinset.card := by
  rw [List.toFinset_card_of_nodup h.distinct, Registry.size, h.entries, List.length_map, List.length_map]

end Follows

/-- Whatever was requested, a registry acts as a map from the configurations that it holds to their pools. -/
theorem run_actsAsMap (requests : List Request) : ActsAsMap requests (empty.run requests) := by
  obtain ⟨h, hlogged⟩ := follows_start.run requests
  have hholds (c : Config) : c ∈ (Ledger.start.run requests).opened.map Prod.fst ↔ Holds c requests := by
    rw [Ledger.mem_fst_run]
    exact or_iff_left fun hc => absurd hc.1 List.not_mem_nil
  have hopened {c : Config} (hc : Holds c requests) :
      ∃ id, (c, id) ∈ (Ledger.start.run requests).opened := Follows.exists_mem ((hholds c).mpr hc)
  exact {
    get_ok := h.get_ok
    get_error := fun c e => h.get_error
    same := fun c hc => (hopened hc).imp fun id hid later => h.same hid
    apart := fun c id hget later d => h.apart hget
    remove_eq := fun c => (h.remove_eq_true c).trans (hholds c)
    remove_absent := fun c hc => by rw [h.remove_absent (mt (hholds c).mp hc)]
    closes := by
      intro c id hc hget other
      obtain ⟨id', hid⟩ := hopened hc
      rw [h.get_opened hid] at hget
      obtain rfl : id' = id := Except.ok.inj hget
      exact h.isClosed_remove hid other
    renewed := fun c hc => h.get_remove ((hholds c).mpr hc)
    size := ⟨_, fun c => by rw [List.mem_toFinset, hholds], h.size_eq⟩
    logged := ⟨_, hlogged, h.pools⟩ }

end Registry
end BoundSql
