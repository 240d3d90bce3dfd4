import Mathlib.Algebra.Group.Nat.Defs
import Mathlib.Data.List.Induction
import SignerPlugin.Bytes

/-! Byte strings and numbers. A number that fits a width is read back from its bytes, and a
byte string from its number. -/

namespace SignerPlugin

namespace Bytes

theorem length_ofNat (width n : Nat) : (ofNat width n).length = width := by
  induction width generalizing n with
  | zero => rfl
  | succ width ih =>
    rw [ofNat, List.length_append, ih]
    rfl

theorem toNat_concat (bytes : Bytes) (byte : UInt8) :
    toNat (bytes ++ [byte]) = toNat bytes * 256 + byte.toNat := by
  simp [toNat]

theorem toNat_ofNat {width n : Nat} (fits : n < 256 ^ width) : toNat (ofNat width n) = n := by
  induction width generalizing n with
  | zero =>
    obtain rfl : n = 0 := by simpa using fits
    rfl
  | succ width ih =>
    have quotient : n / 256 < 256 ^ width := Nat.div_lt_of_lt_mul (by rwa [Nat.pow_succ'] at fits)
    have digit : (UInt8.ofNat (n % 256)).toNat = n % 256 :=
      UInt8.toNat_ofNat_of_lt' (Nat.mod_lt n (by decide))
    rw [ofNat, toNat_concat, ih quotient, digit]
    omega

theorem toNat_lt (bytes : Bytes) : toNat bytes < 256 ^ bytes.length := by
  induction bytes using List.reverseRecOn with
  | nil => exact Nat.one_pos
  | append_singleton bytes byte ih =>
    have digit := byte.toNat_lt
    rw [toNat_concat, List.length_append, List.length_singleton, Nat.pow_succ]
    omega

theorem ofNat_toNat (bytes : Bytes) : ofNat bytes.length (toNat bytes) = bytes := by
  induction bytes using List.reverseRecOn with
  | nil => rfl
  | append_singleton bytes byte ih =>
    have digit : byte.toNat < 256 := byte.toNat_lt
    have quotient : (toNat bytes * 256 + byte.toNat) / 256 = toNat bytes := by omega
    have rest : (toNat bytes * 256 + byte.toNat) % 256 = byte.toNat := by omega
    rw [List.length_append, List.length_singleton, ofNat, toNat_concat, quotient, rest, ih,
      UInt8.ofNat_toNat]

/-- A leading zero adds nothing to a number. -/
theorem toNat_zero_cons (bytes : Bytes) : toNat (0 :: bytes) = toNat bytes := by
  simp [toNat]

end Bytes

end SignerPlugin
