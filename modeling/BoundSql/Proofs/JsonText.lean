import BoundSql.Config
import BoundSql.Json.Reader

/-! JSON texts without floats are read back from their front, so a key stands for its five fields. -/

namespace BoundSql.Json

theorem unit?_hexDigit : ∀ n < 0x20, unit? '0' '0' (hexDigit (n / 16)) (hexDigit n) = some n := by
  decide

theorem charOfUnit?_toNat {c : Char} (h : c.toNat < 0x20) : charOfUnit? c.toNat = some c := by
  rw [charOfUnit?, if_neg (by omega), Char.ofNat_toNat]

theorem readString_escaped (c : Char) (before rest : List Char) :
    readString before (escaped c ++ rest) = readString (c :: before) rest := by
  unfold escaped
  split
  case h_8 hquote hslash _ _ _ _ _ =>
    split
    · next hcontrol =>
      simp only [List.cons_append, List.nil_append]
      rw [readString, unit?_hexDigit c.toNat hcontrol]
      simp only [charOfUnit?_toNat hcontrol]
    · next hplain =>
      rw [List.singleton_append, readString.eq_5, if_neg hplain]
      · exact hquote
      · exact fun _ _ _ _ _ h _ => hslash h
      · exact fun _ _ h _ => hslash h
  -- the others stand behind a backslash, as one letter each that is not the one of a number
  all_goals
    simp only [List.cons_append, List.nil_append]
    rw [readString.eq_4 _ _ _ (fun _ _ _ _ _ h _ => absurd h (by decide))]
    rfl

theorem readString_flatMap_escaped (cs before rest : List Char) :
    readString before (cs.flatMap escaped ++ '"' :: rest) =
      some (String.ofList (before.reverse ++ cs), rest) := by
  induction cs generalizing before with
  | nil => rw [List.flatMap_nil, List.nil_append, readString, List.append_nil]
  | cons c cs ih =>
    rw [List.flatMap_cons, List.append_assoc, readString_escaped, ih, List.reverse_cons,
      List.append_assoc, List.singleton_append]

theorem string_append (s : String) (rest : List Char) :
    string s ++ rest = '"' :: (s.toList.flatMap escaped ++ '"' :: rest) := by
  rw [string, List.cons_append, List.append_assoc, List.singleton_append]

theorem string_append_inj {s t : String} {x y : List Char} (h : string s ++ x = string t ++ y) :
    s = t ∧ x = y := by
  have hread (s : String) (rest : List Char) :
      readString [] ((string s ++ rest).tail) = some (s, rest) := by
    rw [string_append, List.tail_cons, readString_flatMap_escaped, List.reverse_nil, List.nil_append,
      String.ofList_toList]
  have hs := hread s x
  rw [h, hread t y] at hs
  obtain ⟨rfl, rfl⟩ := Prod.mk.inj (Option.some.inj hs)
  exact ⟨rfl, rfl⟩

def isNumeral (c : Char) : Bool := c.isDigit || c == '-'

def Ends (rest : List Char) : Prop := ∀ c ∈ rest.head?, isNumeral c = false

theorem ends_nil : Ends [] := by
  intro c hc
  cases hc

theorem ends_cons {c : Char} (h : isNumeral c = false) (rest : List Char) : Ends (c :: rest) := by
  intro d hd
  obtain rfl := Option.mem_some_iff.mp hd
  exact h

theorem takeWhile_isNumeral {ds rest : List Char} (hds : ∀ c ∈ ds, isNumeral c = true)
    (hrest : Ends rest) : (ds ++ rest).takeWhile isNumeral = ds := by
  rw [List.takeWhile_append_of_pos hds]
  cases rest with
  | nil => exact List.append_nil ds
  | cons c rest =>
    have hc : isNumeral c = false := hrest c rfl
    rw [List.takeWhile_cons_of_neg (by rw [hc]; exact Bool.false_ne_true), List.append_nil]

theorem toList_toString (n : Int) :
    (toString n).toList =
      if 0 ≤ n then Nat.toDigits 10 n.toNat else '-' :: Nat.toDigits 10 (-n).toNat := by
  rw [Int.toString_eq_repr, Int.repr_eq_if]
  split
  · exact Nat.toList_repr
  · rw [String.toList_append, Nat.toList_repr]
    rfl

theorem isDigit_of_mem_toDigits {n : Nat} {c : Char} (h : c ∈ Nat.toDigits 10 n) : c.isDigit = true :=
  Nat.isDigit_of_mem_toDigits (by decide) (Nat.le_refl 10) h

theorem isNumeral_of_mem {n : Int} {c : Char} (h : c ∈ (toString n).toList) : isNumeral c = true := by
  rw [toList_toString] at h
  split at h
  · rw [isNumeral, isDigit_of_mem_toDigits h, Bool.true_or]
  · rcases List.mem_cons.mp h with rfl | h
    · rfl
    · rw [isNumeral, isDigit_of_mem_toDigits h, Bool.true_or]

theorem toDigits_inj {m n : Nat} (h : Nat.toDigits 10 m = Nat.toDigits 10 n) : m = n := by
  rw [← Nat.ofDigitChars_ten_toDigits (n := m), h, Nat.ofDigitChars_ten_toDigits]

theorem toDigits_ne_minus (m : Nat) (ds : List Char) : Nat.toDigits 10 m ≠ '-' :: ds := by
  intro h
  have hminus : '-' ∈ Nat.toDigits 10 m := h ▸ List.mem_cons_self
  exact absurd (isDigit_of_mem_toDigits hminus) (by decide)

theorem toList_toString_inj {m n : Int} (h : (toString m).toList = (toString n).toList) : m = n := by
  rw [toList_toString, toList_toString] at h
  split at h <;> split at h
  · have := toDigits_inj h
    omega
  · exact absurd h (toDigits_ne_minus _ _)
  · exact absurd h.symm (toDigits_ne_minus _ _)
  · have := toDigits_inj (List.cons.inj h).2
    omega

theorem integer_append_inj {m n : Int} {x y : List Char} (hx : Ends x) (hy : Ends y)
    (h : (toString m).toList ++ x = (toString n).toList ++ y) : m = n ∧ x = y := by
  have htake := congrArg (List.takeWhile isNumeral) h
  rw [takeWhile_isNumeral (fun c => isNumeral_of_mem) hx,
    takeWhile_isNumeral (fun c => isNumeral_of_mem) hy] at htake
  rw [htake] at h
  exact ⟨toList_toString_inj htake, List.append_cancel_left h⟩

mutual

def Exact : Json → Prop
  | float _ => False
  | array items => itemsExact items
  | object fields => fieldsExact fields
  | _ => True

def itemsExact : List Json → Prop
  | [] => True
  | item :: rest => item.Exact ∧ itemsExact rest

def fieldsExact : List (String × Json) → Prop
  | [] => True
  | (_, value) :: rest => value.Exact ∧ fieldsExact rest

end

inductive Lead where
  | null
  | truth (b : Bool)
  | number
  | text
  | array
  | object
  | none

def Lead.ofChar (c : Char) : Lead :=
  if isNumeral c then number
  else
    match c with
    | 'n' => null
    | 't' => truth true
    | 'f' => truth false
    | '"' => text
    | '[' => array
    | '{' => object
    | _ => none

def lead : Json → Lead
  | null => .null
  | bool b => .truth b
  | integer _ => .number
  | float _ => .none
  | text _ => .text
  | array _ => .array
  | object _ => .object

theorem Exact.lead_ne_none {j : Json} (h : j.Exact) : j.lead ≠ .none := by
  cases j with
  | float _ => exact h.elim
  | _ => exact Lead.noConfusion

theorem exists_toList_toString (n : Int) : ∃ c cs, (toString n).toList = c :: cs := by
  refine List.exists_cons_of_ne_nil ?_
  rw [toList_toString]
  split
  · exact Nat.toDigits_ne_nil
  · exact List.cons_ne_nil _ _

theorem Exact.exists_chars {j : Json} (h : j.Exact) : ∃ c cs, j.chars = c :: cs ∧ Lead.ofChar c = j.lead := by
  cases j with
  | null => exact ⟨_, _, rfl, rfl⟩
  | bool b => cases b <;> exact ⟨_, _, rfl, rfl⟩
  | integer n =>
    obtain ⟨c, cs, hchars⟩ := exists_toList_toString n
    have hc : isNumeral c = true := isNumeral_of_mem (hchars ▸ List.mem_cons_self)
    exact ⟨c, cs, hchars, if_pos hc⟩
  | float _ => exact h.elim
  | text s => exact ⟨_, _, rfl, rfl⟩
  | array items => exact ⟨_, _, rfl, rfl⟩
  | object fields => exact ⟨_, _, rfl, rfl⟩

theorem Exact.ofChar_of_append_eq {j : Json} (h : j.Exact) {c : Char} {x cs : List Char}
    (hchars : j.chars ++ x = c :: cs) : Lead.ofChar c = j.lead := by
  obtain ⟨d, ds, hds, hlead⟩ := h.exists_chars
  rw [hds] at hchars
  exact (List.cons.inj hchars).1 ▸ hlead

theorem Exact.lead_eq {j k : Json} (hj : j.Exact) (hk : k.Exact) {x y : List Char}
    (h : j.chars ++ x = k.chars ++ y) : j.lead = k.lead := by
  obtain ⟨c, cs, hchars, hlead⟩ := hk.exists_chars
  rw [hchars] at h
  exact (hj.ofChar_of_append_eq h).symm.trans hlead

/-- What stands behind the first of some parts: the others, if there are any, and what follows them. -/
def behind (last : Bool) (others rest : List Char) : List Char :=
  if last then rest else ',' :: (others ++ rest)

theorem ends_behind {rest : List Char} (h : Ends rest) (last : Bool) (others : List Char) :
    Ends (behind last others rest) := by
  cases last with
  | true => exact h
  | false => exact ends_cons (by decide) _

theorem append_eq_of_behind {close : Char} (hclose : close ≠ ',') {a b : Bool} {cs ds x y : List Char}
    (ha : a = true → cs = []) (hb : b = true → ds = [])
    (h : behind a cs (close :: x) = behind b ds (close :: y)) : cs ++ close :: x = ds ++ close :: y := by
  cases a <;> cases b
  · exact (List.cons.inj h).2
  · exact absurd (List.cons.inj h).1.symm hclose
  · exact absurd (List.cons.inj h).1 hclose
  · rw [ha rfl, hb rfl]
    exact h

theorem itemChars_cons (item : Json) (others : List Json) (rest : List Char) :
    itemChars (item :: others) ++ rest =
      item.chars ++ behind others.isEmpty (itemChars others) rest := by
  cases others with
  | nil => rfl
  | cons other others => exact List.append_assoc ..

theorem fieldChars_cons (field : String × Json) (others : List (String × Json)) (rest : List Char) :
    fieldChars (field :: others) ++ rest =
      string field.1 ++ ':' :: (field.2.chars ++ behind others.isEmpty (fieldChars others) rest) := by
  cases others with
  | nil => exact List.append_assoc ..
  | cons other others =>
    rw [fieldChars.eq_3 _ _ _ (List.cons_ne_nil other others), List.append_assoc, List.cons_append,
      List.append_assoc]
    rfl

theorem itemChars_of_isEmpty {items : List Json} (h : items.isEmpty = true) : itemChars items = [] := by
  rw [List.isEmpty_iff.mp h, itemChars]

theorem fieldChars_of_isEmpty {fields : List (String × Json)} (h : fields.isEmpty = true) :
    fieldChars fields = [] := by
  rw [List.isEmpty_iff.mp h, fieldChars]

mutual

theorem chars_append_inj : (j : Json) → {k : Json} → j.Exact → k.Exact → {x y : List Char} → Ends x →
    Ends y → j.chars ++ x = k.chars ++ y → j = k ∧ x = y
  | .float _, _, hj, _, _, _, _, _, _ => hj.elim
  | .null, k, hj, hk, _, _, _, _, h => by
    have hlead := hj.lead_eq hk h
    cases k with
    | null => exact ⟨rfl, List.append_cancel_left h⟩
    | _ => cases hlead
  | .bool b, k, hj, hk, _, _, _, _, h => by
    have hlead := hj.lead_eq hk h
    cases k with
    | bool c =>
      cases hlead
      exact ⟨rfl, List.append_cancel_left h⟩
    | _ => cases hlead
  | .integer m, k, hj, hk, _, _, hx, hy, h => by
    have hlead := hj.lead_eq hk h
    cases k with
    | integer n =>
      obtain ⟨rfl, hrest⟩ := integer_append_inj hx hy h
      exact ⟨rfl, hrest⟩
    | _ => cases hlead
  | .text s, k, hj, hk, _, _, _, _, h => by
    have hlead := hj.lead_eq hk h
    cases k with
    | text t =>
      obtain ⟨rfl, hrest⟩ := string_append_inj h
      exact ⟨rfl, hrest⟩
    | _ => cases hlead
  | .array items, k, hj, hk, _, _, _, _, h => by
    have hlead := hj.lead_eq hk h
    cases k with
    | array others =>
      rw [chars, chars, List.cons_append, List.cons_append, List.append_assoc, List.append_assoc] at h
      obtain ⟨rfl, hrest⟩ := itemChars_append_inj items hj hk (List.cons.inj h).2
      exact ⟨rfl, hrest⟩
    | _ => cases hlead
  | .object fields, k, hj, hk, _, _, _, _, h => by
    have hlead := hj.lead_eq hk h
    cases k with
    | object others =>
      rw [chars, chars, List.cons_append, List.cons_append, List.append_assoc, List.append_assoc] at h
      obtain ⟨rfl, hrest⟩ := fieldChars_append_inj fields hj hk (List.cons.inj h).2
      exact ⟨rfl, hrest⟩
    | _ => cases hlead

theorem itemChars_append_inj : (items : List Json) → {others : List Json} → itemsExact items →
    itemsExact others → {x y : List Char} →
    itemChars items ++ ']' :: x = itemChars others ++ ']' :: y → items = others ∧ x = y
  | [], [], _, _, _, _, h => ⟨rfl, (List.cons.inj h).2⟩
  -- no value begins with the bracket
  | [], other :: others, _, hothers, _, _, h => by
    rw [itemChars_cons] at h
    exact absurd (hothers.1.ofChar_of_append_eq h.symm).symm hothers.1.lead_ne_none
  | item :: items, [], hitems, _, _, _, h => by
    rw [itemChars_cons] at h
    exact absurd (hitems.1.ofChar_of_append_eq h).symm hitems.1.lead_ne_none
  | item :: items, other :: others, hitems, hothers, x, y, h => by
    have hends (rest : List Char) : Ends (']' :: rest) := ends_cons (by decide) rest
    rw [itemChars_cons, itemChars_cons] at h
    obtain ⟨rfl, hbehind⟩ := chars_append_inj item hitems.1 hothers.1 (ends_behind (hends x) _ _)
      (ends_behind (hends y) _ _) h
    obtain ⟨rfl, hrest⟩ := itemChars_append_inj items hitems.2 hothers.2
      (append_eq_of_behind (by decide) itemChars_of_isEmpty itemChars_of_isEmpty hbehind)
    exact ⟨rfl, hrest⟩

theorem fieldChars_append_inj : (fields : List (String × Json)) → {others : List (String × Json)} →
    fieldsExact fields → fieldsExact others → {x y : List Char} →
    fieldChars fields ++ '}' :: x = fieldChars others ++ '}' :: y → fields = others ∧ x = y
  | [], [], _, _, _, _, h => ⟨rfl, (List.cons.inj h).2⟩
  | [], other :: others, _, _, _, _, h => by
    rw [fieldChars_cons, string_append] at h
    exact absurd (List.cons.inj h).1 (by decide)
  | field :: fields, [], _, _, _, _, h => by
    rw [fieldChars_cons, string_append] at h
    exact absurd (List.cons.inj h).1 (by decide)
  | (name, value) :: fields, (otherName, otherValue) :: others, hfields, hothers, x, y, h => by
    have hends (rest : List Char) : Ends ('}' :: rest) := ends_cons (by decide) rest
    rw [fieldChars_cons, fieldChars_cons] at h
    obtain ⟨rfl, hcolon⟩ := string_append_inj h
    obtain ⟨rfl, hbehind⟩ := chars_append_inj value hfields.1 hothers.1 (ends_behind (hends x) _ _)
      (ends_behind (hends y) _ _) (List.cons.inj hcolon).2
    obtain ⟨rfl, hrest⟩ := fieldChars_append_inj fields hfields.2 hothers.2
      (append_eq_of_behind (by decide) fieldChars_of_isEmpty fieldChars_of_isEmpty hbehind)
    exact ⟨rfl, hrest⟩

end

theorem compact_inj {j k : Json} (hj : j.Exact) (hk : k.Exact) (h : j.compact = k.compact) : j = k := by
  have hchars : j.chars ++ [] = k.chars ++ [] :=
    congrArg (· ++ []) (String.ofList_injective h)
  exact (chars_append_inj j hj hk ends_nil ends_nil hchars).1

end BoundSql.Json

namespace BoundSql

attribute [ext] Config

namespace Config

theorem toJson_eq (c : Config) :
    c.toJson = .object
      [("dialect", .text c.dialect), ("fetch_as", .text c.fetchAs), ("max_size", .integer c.maxSize),
        ("primary_key", .text c.primaryKey), ("url", .text c.url)] := by
  have hsize : "max_size" < "url" := by decide +kernel
  have hdialect : "dialect" < "max_size" := by decide +kernel
  have hkey : ¬ "primary_key" < "dialect" ∧ "primary_key" ≠ "dialect" ∧ ¬ "primary_key" < "max_size" ∧
      "primary_key" ≠ "max_size" ∧ "primary_key" < "url" := by decide +kernel
  have hfetch : ¬ "fetch_as" < "dialect" ∧ "fetch_as" ≠ "dialect" ∧ "fetch_as" < "max_size" := by
    decide +kernel
  simp only [toJson, Json.ofFields, List.foldl_cons, List.foldl_nil, Json.put, hsize, hdialect, hkey, hfetch,
    if_true, if_false]

theorem toJson_exact (c : Config) : c.toJson.Exact := by
  rw [toJson_eq]
  exact ⟨trivial, trivial, trivial, trivial, trivial, trivial⟩

theorem toJson_injective : Function.Injective toJson := by
  intro a b h
  rw [toJson_eq, toJson_eq] at h
  have hfields := Json.object.inj h
  simp only [List.cons.injEq, Prod.mk.injEq, Json.text.injEq, Json.integer.injEq, Int.natCast_inj, true_and,
    and_true] at hfields
  obtain ⟨hdialect, hfetch, hsize, hkey, hurl⟩ := hfields
  exact Config.ext hurl hsize hdialect hkey hfetch

theorem key_injective : Function.Injective key := fun a b h =>
  toJson_injective (Json.compact_inj a.toJson_exact b.toJson_exact h)

/-- Configurations have one key exactly if they agree in all five fields, whatever texts these hold. -/
theorem key_eq_iff (a b : Config) :
    a.key = b.key ↔
      a.url = b.url ∧ a.maxSize = b.maxSize ∧ a.dialect = b.dialect ∧ a.primaryKey = b.primaryKey ∧
        a.fetchAs = b.fetchAs := by
  rw [key_injective.eq_iff, Config.ext_iff]

end Config
end BoundSql
