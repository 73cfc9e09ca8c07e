import BoundSql.Config

/-! What a checked configuration promises: a dialect, and rows of exactly one type. -/

namespace BoundSql

namespace Fetch

def identityNames : List String := ["record", "array", "identity"]

variable (α : Type) [RowType α] {name : String}

theorem ofName_identity (h : Text.keyword name ∈ identityNames) :
    ofName name = (identity : Fetch α).check.map fun _ => (identity : Fetch α) := by
  simp only [identityNames, List.mem_cons, List.not_mem_nil, or_false] at h
  rcases h with h | h | h
  · rw [ofName, h]
    rfl
  · rw [ofName, h]
    rfl
  · rw [ofName, h]
    rfl

theorem ofName_object (h : Text.keyword name = "object") :
    ofName name = (object : Fetch α).check.map fun _ => (object : Fetch α) := by
  rw [ofName, h]
  rfl

theorem ofName_unknown (hidentity : Text.keyword name ∉ identityNames)
    (hobject : Text.keyword name ≠ "object") :
    (ofName name : Except Error (Fetch α)) = .error (unknown (Text.keyword name)) := by
  simp only [identityNames, List.mem_cons, List.not_mem_nil, or_false, not_or] at hidentity
  obtain ⟨hrecord, harray, hidentity⟩ := hidentity
  unfold ofName
  split
  · exact absurd ‹_› hrecord
  · exact absurd ‹_› harray
  · exact absurd ‹_› hidentity
  · exact absurd ‹_› hobject
  · rfl

end Fetch

theorem guarded_eq_ok_iff {β : Type} {p : Prop} [Decidable p] {e : Error} {x : Except Error β} {b : β} :
    (if p then .error e else x) = .ok b ↔ ¬ p ∧ x = .ok b := by
  split
  · next hp => exact ⟨nofun, fun h => absurd hp h.1⟩
  · next hp => exact ⟨fun h => ⟨hp, h⟩, And.right⟩

theorem bind_eq_ok_iff {β γ : Type} {x : Except Error β} {f : β → Except Error γ} {c : γ} :
    x.bind f = .ok c ↔ ∃ b, x = .ok b ∧ f b = .ok c := by
  cases x with
  | error e => exact ⟨nofun, fun ⟨_, h, _⟩ => nomatch h⟩
  | ok b => exact ⟨fun h => ⟨b, rfl, h⟩, fun ⟨_, h, hf⟩ => Except.ok.inj h ▸ hf⟩

namespace Config

theorem validate_eq (c : Config) : c.validate =
    if Text.blank c.url = true then .error .emptyUrl
    else if c.maxSize = 0 then .error .noConnections
    else if Text.blank c.primaryKey = true then .error .emptyPrimaryKey
    else c.dialectOf.bind fun _ =>
      if strategies.contains (Text.keyword c.fetchAs) = true then .ok ()
      else .error (.unknownStrategy (Text.keyword c.fetchAs)) :=
  rfl

theorem mem_strategies_iff {name : String} :
    name ∈ strategies ↔ name ∈ Fetch.identityNames ∨ name = "object" := by
  have happend : strategies = Fetch.identityNames ++ ["object"] := rfl
  rw [happend, List.mem_append, List.mem_singleton]

theorem validate_eq_ok_iff {c : Config} : c.validate = .ok () ↔
    Text.blank c.url = false ∧ 0 < c.maxSize ∧ Text.blank c.primaryKey = false ∧
      (∃ d, c.dialectOf = .ok d) ∧ Text.keyword c.fetchAs ∈ strategies := by
  have hstrategy : ((if strategies.contains (Text.keyword c.fetchAs) = true then .ok ()
      else .error (.unknownStrategy (Text.keyword c.fetchAs)) : Except Error Unit) = .ok ()) ↔
      Text.keyword c.fetchAs ∈ strategies := by
    rw [← List.contains_iff_mem]
    split
    · next h => exact ⟨fun _ => h, fun _ => rfl⟩
    · next h => exact ⟨nofun, fun hmem => absurd hmem h⟩
  rw [validate_eq, guarded_eq_ok_iff, guarded_eq_ok_iff, guarded_eq_ok_iff, bind_eq_ok_iff, hstrategy,
    exists_and_right, Bool.not_eq_true, Bool.not_eq_true, Nat.pos_iff_ne_zero]

variable {c : Config}

theorem fetchFor_identity (h : Text.keyword c.fetchAs ∈ Fetch.identityNames) :
    c.fetchFor Record = .ok .identity ∧ ∃ e, c.fetchFor Json = .error e :=
  ⟨Fetch.ofName_identity Record h, _, Fetch.ofName_identity Json h⟩

theorem fetchFor_object (h : Text.keyword c.fetchAs = "object") :
    c.fetchFor Json = .ok .object ∧ ∃ e, c.fetchFor Record = .error e :=
  ⟨Fetch.ofName_object Json h, _, Fetch.ofName_object Record h⟩

theorem fetchFor_of_mem (h : Text.keyword c.fetchAs ∈ strategies) :
    ((∃ f, c.fetchFor Record = .ok f ∧ ∀ r, f.map r = .ok r) ∧ ∃ e, c.fetchFor Json = .error e) ∨
      (∃ f, c.fetchFor Json = .ok f ∧ ∀ r, f.map r = .ok r.toJson) ∧ ∃ e, c.fetchFor Record = .error e := by
  rcases mem_strategies_iff.mp h with h | h
  · obtain ⟨hrecord, hjson⟩ := fetchFor_identity h
    exact .inl ⟨⟨.identity, hrecord, fun r => rfl⟩, hjson⟩
  · obtain ⟨hjson, hrecord⟩ := fetchFor_object h
    exact .inr ⟨⟨.object, hjson, fun r => rfl⟩, hrecord⟩

theorem mem_strategies_of_fetchFor
    (h : (∃ f, c.fetchFor Record = .ok f) ∨ ∃ f, c.fetchFor Json = .ok f) :
    Text.keyword c.fetchAs ∈ strategies := by
  refine Decidable.byContradiction fun hmem => ?_
  rw [mem_strategies_iff, not_or] at hmem
  rcases h with ⟨f, hf⟩ | ⟨f, hf⟩
  · exact nomatch hf.symm.trans (Fetch.ofName_unknown Record hmem.1 hmem.2)
  · exact nomatch hf.symm.trans (Fetch.ofName_unknown Json hmem.1 hmem.2)

theorem query_of_dialect {d : Dialect} (h : c.dialectOf = .ok d) (t : TableRef) :
    ∃ q, c.query t = .ok q ∧ q.primaryKey = c.primaryKey ∧ q.dialect = d :=
  ⟨_, by rw [query, h]; rfl, rfl, rfl⟩

theorem validate_of_ofToml {env : Environment} {document : String} (h : ofToml env document = .ok c) :
    c.validate = .ok () ∧ ∃ raw url, (Toml.ofText? document).bind ofDocument = some raw ∧
      expandReferences env none raw.url.toList = .ok url ∧ c = { raw with url := String.ofList url } := by
  unfold ofToml at h
  cases hraw : (Toml.ofText? document).bind ofDocument with
  | none =>
    rw [hraw] at h
    cases h
  | some raw =>
    rw [hraw] at h
    obtain ⟨url, hurl, h⟩ := bind_eq_ok_iff.mp h
    obtain ⟨_, hvalid, h⟩ := bind_eq_ok_iff.mp h
    obtain rfl := Except.ok.inj h
    exact ⟨hvalid, raw, url, rfl, hurl, rfl⟩

/-- The check passes exactly the configurations that can be used: those that name a server, have room for
a connection, a primary key and a known dialect, and whose strategy gives records or objects. Such a
configuration hands out every row in one of the two types, refuses the other type, and starts a query on
every table. Whatever is read from a document has passed the check with its references expanded. -/
theorem validate_promises (c : Config) :
    (c.validate = .ok () ↔
      Text.blank c.url = false ∧ 0 < c.maxSize ∧ Text.blank c.primaryKey = false ∧
        (∃ d, c.dialectOf = .ok d) ∧ ((∃ f, c.fetchFor Record = .ok f) ∨ ∃ f, c.fetchFor Json = .ok f)) ∧
    (c.validate = .ok () →
      (((∃ f, c.fetchFor Record = .ok f ∧ ∀ r, f.map r = .ok r) ∧ ∃ e, c.fetchFor Json = .error e) ∨
        (∃ f, c.fetchFor Json = .ok f ∧ ∀ r, f.map r = .ok r.toJson) ∧
          ∃ e, c.fetchFor Record = .error e) ∧
      ∃ d, c.dialectOf = .ok d ∧
        ∀ t, ∃ q, c.query t = .ok q ∧ q.primaryKey = c.primaryKey ∧ q.dialect = d) ∧
    ∀ env document, ofToml env document = .ok c →
      c.validate = .ok () ∧ ∃ raw url, (Toml.ofText? document).bind ofDocument = some raw ∧
        expandReferences env none raw.url.toList = .ok url ∧ c = { raw with url := String.ofList url } := by
  have hsome (h : Text.keyword c.fetchAs ∈ strategies) :
      (∃ f, c.fetchFor Record = .ok f) ∨ ∃ f, c.fetchFor Json = .ok f := by
    rcases fetchFor_of_mem h with ⟨⟨f, hf, -⟩, -⟩ | ⟨⟨f, hf, -⟩, -⟩
    · exact .inl ⟨f, hf⟩
    · exact .inr ⟨f, hf⟩
  refine ⟨?_, fun h => ?_, fun env document => validate_of_ofToml⟩
  · rw [validate_eq_ok_iff]
    constructor
    · rintro ⟨hurl, hsize, hkey, hdialect, hstrategy⟩
      exact ⟨hurl, hsize, hkey, hdialect, hsome hstrategy⟩
    · rintro ⟨hurl, hsize, hkey, hdialect, hstrategy⟩
      exact ⟨hurl, hsize, hkey, hdialect, mem_strategies_of_fetchFor hstrategy⟩
  · obtain ⟨-, -, -, ⟨d, hdialect⟩, hstrategy⟩ := validate_eq_ok_iff.mp h
    exact ⟨fetchFor_of_mem hstrategy, d, hdialect, query_of_dialect hdialect⟩

end Config

end BoundSql
