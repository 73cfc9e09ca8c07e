import BoundSql.Fetch

/-! A repeated column name has two values: the first in the record, the last in its object. -/

namespace BoundSql

theorem find?_name_cons {α : Type} (field : String × α) (rest : List (String × α)) (name : String) :
    (field :: rest).find? (·.1 == name) =
      if field.1 = name then some field else rest.find? (·.1 == name) := by
  rw [List.find?_cons]
  by_cases h : field.1 = name
  · rw [if_pos h, beq_iff_eq.mpr h]
  · rw [if_neg h, beq_eq_false_iff_ne.mpr h]

namespace Json

theorem find?_put (name : String) (value : Json) (fields : List (String × Json)) (wanted : String) :
    (put name value fields).find? (·.1 == wanted) =
      if name = wanted then some (name, value) else fields.find? (·.1 == wanted) := by
  induction fields with
  | nil => exact find?_name_cons (name, value) [] wanted
  | cons field rest ih =>
    obtain ⟨other, old⟩ := field
    rw [put]
    by_cases hbefore : name < other
    · rw [if_pos hbefore, find?_name_cons]
    · rw [if_neg hbefore]
      by_cases hsame : name = other
      · subst hsame
        rw [if_pos rfl, find?_name_cons, find?_name_cons]
        by_cases h : name = wanted
        · rw [if_pos h, if_pos h]
        · rw [if_neg h, if_neg h, if_neg h]
      · rw [if_neg hsame, find?_name_cons, find?_name_cons, ih]
        by_cases h : other = wanted
        · rw [if_pos h, if_pos h, if_neg fun hname => hsame (hname.trans h.symm)]
        · rw [if_neg h, if_neg h]

theorem find?_foldl_put (fields sorted : List (String × Json)) (name : String) :
    (fields.foldl (fun sorted f => put f.1 f.2 sorted) sorted).find? (·.1 == name) =
      (fields.reverse.find? (·.1 == name)).or (sorted.find? (·.1 == name)) := by
  induction fields generalizing sorted with
  | nil => rfl
  | cons field rest ih =>
    rw [List.foldl_cons, ih, List.reverse_cons, List.find?_append, Option.or_assoc, find?_put,
      find?_name_cons]
    by_cases h : field.1 = name
    · rw [if_pos h, if_pos h]
      rfl
    · rw [if_neg h, if_neg h]
      rfl

theorem field?_ofFields (fields : List (String × Json)) (name : String) :
    (ofFields fields).field? name = (fields.reverse.find? (·.1 == name)).map (·.2) := by
  rw [ofFields, field?, find?_foldl_put]
  exact congrArg _ (Option.or_none ..)

end Json

namespace Record

/-- The value of the last column of a name. -/
def last? (r : Record) (column : String) : Option Value :=
  (r.fields.reverse.find? (·.1 == column)).map (·.2)

theorem field?_toJson (r : Record) (column : String) :
    r.toJson.field? column = (r.last? column).map Value.toJson := by
  have hname : ((fun f : String × Json => f.1 == column) ∘ fun f : String × Value => (f.1, f.2.toJson)) =
      (·.1 == column) := rfl
  rw [toJson, Json.field?_ofFields, ← List.map_reverse, List.find?_map, hname, last?, Option.map_map,
    Option.map_map]
  rfl

def named (r : Record) (column : String) : List (String × Value) := r.fields.filter (·.1 == column)

theorem get?_eq_head? (r : Record) (column : String) :
    r.get? column = (r.named column).head?.map (·.2) := by
  rw [get?, named, List.head?_filter]

theorem last?_eq_getLast? (r : Record) (column : String) :
    r.last? column = (r.named column).getLast?.map (·.2) := by
  rw [last?, named, ← List.head?_filter, List.filter_reverse, List.head?_reverse]

theorem isSome_last? (r : Record) (column : String) :
    (r.last? column).isSome = (r.get? column).isSome := by
  rw [last?_eq_getLast?, get?_eq_head?, Option.isSome_map, Option.isSome_map]
  cases r.named column <;> rfl

theorem length_named (r : Record) (column : String) :
    (r.named column).length = r.columns.count column := by
  rw [named, columns, List.count_eq_countP, List.countP_map, List.countP_eq_length_filter]
  rfl

theorem last?_of_count_le {r : Record} {column : String} (h : r.columns.count column ≤ 1) :
    r.last? column = r.get? column := by
  rw [← length_named] at h
  rw [last?_eq_getLast?, get?_eq_head?]
  generalize r.named column = fields at h
  rcases fields with _ | ⟨field, _ | ⟨other, rest⟩⟩
  · rfl
  · rfl
  · exact absurd h (by simp)

/-- The object that a row is fetched as has the names of the record. Under each of them it has the value
of the last column of the name, which is the one that the record answers with where no name is repeated. -/
theorem object_of_columns (r : Record) (column : String) :
    ∃ object, (Fetch.object : Fetch Json).map r = .ok object ∧ object = r.toJson ∧
      (object.field? column).isSome = (r.get? column).isSome ∧
      object.field? column = (r.last? column).map Value.toJson ∧
      (r.columns.count column ≤ 1 → object.field? column = (r.get? column).map Value.toJson) := by
  refine ⟨r.toJson, rfl, rfl, ?_, field?_toJson r column, ?_⟩
  · rw [field?_toJson, Option.isSome_map, isSome_last?]
  · intro h
    rw [field?_toJson, last?_of_count_le h]

/-- Two columns of one name: the record has the first, the object the second. -/
theorem object_of_repeated_column :
    let r : Record := ⟨[("a", .int 1), ("a", .int 2)]⟩
    r.get? "a" = some (.int 1) ∧ r.toJson.field? "a" = some (.integer 2) ∧
      r.toJson.field? "a" ≠ (r.get? "a").map Value.toJson := by
  intro r
  have hrecord : r.get? "a" = some (.int 1) := rfl
  have hobject : r.toJson.field? "a" = some (.integer 2) := field?_toJson r "a"
  refine ⟨hrecord, hobject, ?_⟩
  rw [hrecord, hobject]
  intro h
  have hvalue : (2 : Int) = (1 : Int64).toInt := by injection Option.some.inj h
  exact absurd hvalue (by decide)

end Record
end BoundSql
