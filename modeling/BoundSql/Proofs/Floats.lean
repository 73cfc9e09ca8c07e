import BoundSql.Proofs.Digits
import BoundSql.Wire.Encode

/-! Numbers bound to the float types; a decimal is a long float, which the short type refuses. -/

namespace BoundSql

open Wire

namespace Value

def long? : Value → Option Float
  | int n => some n.toFloat
  | float x => some x
  | decimal d => some d.toFloat
  | _ => none

def short? : Value → Option Float32
  | int n => some n.toFloat32
  | float x => some x.toFloat32
  | _ => none

/-- A value is bound to a type as the bytes of a number of a width. -/
def SentAs (v : Value) (type : SqlType) (width n : Nat) : Prop :=
  ∃ bs, v.encode type = .ok (some bs) ∧ bs.length = width ∧ ofBigEndian bs = n

theorem sentAs_bigEndian {v : Value} {type : SqlType} {width n : Nat}
    (h : v.encode type = .ok (some (bigEndian width n))) (hn : n < 256 ^ width) :
    v.SentAs type width n :=
  ⟨bigEndian width n, h, length_bigEndian width n, ofBigEndian_bigEndian hn⟩

theorem sentAs_float8 {v : Value} {x : Float} (h : v.encode .float8 = .ok (some (encodeFloat8 x))) :
    v.SentAs .float8 8 x.toBits.toNat :=
  sentAs_bigEndian h x.toBits.toNat_lt

theorem sentAs_float4 {v : Value} {x : Float32} (h : v.encode .float4 = .ok (some (encodeFloat4 x))) :
    v.SentAs .float4 4 x.toBits.toNat :=
  sentAs_bigEndian h x.toBits.toNat_lt

/-- Every number is bound to the long float type. It is bound to the short one unless it is a decimal;
a decimal, whatever it is, does not match the short type. -/
theorem encode_number {v : Value} {x : Float} (h : v.long? = some x) :
    v.SentAs .float8 8 x.toBits.toNat ∧
      ((∃ y, v.short? = some y ∧ v.SentAs .float4 4 y.toBits.toNat) ∨
        (∃ d, v = .decimal d) ∧ v.encode .float4 = .error (.mismatch "f64" .float4)) := by
  cases v with
  | int n =>
    obtain rfl := Option.some.inj h
    exact ⟨sentAs_float8 rfl, .inl ⟨n.toFloat32, rfl, sentAs_float4 rfl⟩⟩
  | float x =>
    obtain rfl := Option.some.inj h
    exact ⟨sentAs_float8 rfl, .inl ⟨x.toFloat32, rfl, sentAs_float4 rfl⟩⟩
  | decimal d =>
    obtain rfl := Option.some.inj h
    exact ⟨sentAs_float8 rfl, .inr ⟨⟨d, rfl⟩, rfl⟩⟩
  | _ => cases h

theorem encode_number_largest :
    let d : Decimal := ⟨false, 2 ^ 96 - 1, 0, by decide, by decide⟩
    (Value.decimal d).long? = some d.toFloat ∧
      (Value.decimal d).SentAs .float8 8 0x45f0000000000000 ∧
      ∃ e, (Value.decimal d).encode .float4 = .error e := by
  intro d
  have hbits : d.toFloat.toBits.toNat = 0x45f0000000000000 := by decide +kernel
  obtain ⟨hlong, ⟨y, hy, -⟩ | ⟨-, hshort⟩⟩ := encode_number (v := .decimal d) rfl
  · cases hy
  · exact ⟨rfl, hbits ▸ hlong, _, hshort⟩

/-- One and a half is a short float, but as a decimal it does not match the short type. -/
theorem decimal_refused_float4 :
    let d : Decimal := ⟨false, 15, 1, by decide, by decide⟩
    (Value.decimal d).encode .float4 = .error (.mismatch "f64" .float4) ∧
      ¬ ∃ bs, (Value.decimal d).encode .float4 = .ok (some bs) ∧ bs.length = 4 :=
  ⟨rfl, fun ⟨_, hsent, _⟩ => nomatch hsent⟩

end Value

end BoundSql
