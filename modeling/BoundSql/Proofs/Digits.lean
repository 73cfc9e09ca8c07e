import BoundSql.Wire.Numeric

/-! Bytes of a fixed width and groups of four decimal digits give back their number. -/

namespace BoundSql.Wire

theorem length_bigEndian (width n : Nat) : (bigEndian width n).length = width := by
  induction width with
  | zero => rfl
  | succ width ih => exact congrArg (· + 1) ih

theorem foldl_bigEndian (width n before : Nat) :
    (bigEndian width n).foldl (fun m b => 256 * m + b.toNat) before =
      before * 256 ^ width + n % 256 ^ width := by
  -- each byte shifts what stands before it, so that changes along the induction
  induction width generalizing before with
  | zero =>
    have hmod : n % 256 ^ 0 = 0 := Nat.mod_one n
    rw [hmod, Nat.pow_zero, Nat.mul_one]
    rfl
  | succ width ih =>
    have hbyte : (UInt8.ofNat (n / 256 ^ width)).toNat = n / 256 ^ width % 256 := rfl
    have hshift : 256 * before * 256 ^ width = before * (256 ^ width * 256) := by
      rw [Nat.mul_comm 256, Nat.mul_assoc, Nat.mul_comm 256]
    rw [bigEndian, List.foldl_cons, ih, hbyte, Nat.pow_succ, Nat.mod_mul, Nat.add_mul, hshift,
      Nat.mul_comm _ (256 ^ width), Nat.add_assoc, Nat.add_comm (n % 256 ^ width)]

theorem ofBigEndian_bigEndian {width n : Nat} (h : n < 256 ^ width) :
    ofBigEndian (bigEndian width n) = n := by
  rw [ofBigEndian, foldl_bigEndian, Nat.zero_mul, Nat.zero_add, Nat.mod_eq_of_lt h]

end BoundSql.Wire
