import Mathlib.Algebra.Group.Nat.Defs
import CapabilityGuard.Octets.BigEndian

/-! Reading and writing numbers as bytes undo each other, so every byte string spells one number
and every number below the bound has one spelling of each length. -/
namespace CapabilityGuard

namespace BigEndian

theorem toNat_concat (bytes : List UInt8) (byte : UInt8) :
    toNat (bytes ++ [byte]) = 256 * toNat bytes + byte.toNat := by
  simp [toNat]

theorem toNat_ofNat (count value : Nat) : toNat (ofNat count value) = value % 256 ^ count := by
  induction count generalizing value with
  | zero => simp [ofNat, toNat, Nat.mod_one]
  | succ count ih =>
    have low : value.toUInt8.toNat = value % 256 := by simp [Nat.toUInt8]
    rw [ofNat, toNat_concat, ih, low, Nat.pow_succ, Nat.mul_comm (256 ^ count), Nat.mod_mul]
    omega

theorem ofNat_concat (bytes : List UInt8) (byte : UInt8) :
    ofNat (bytes.length + 1) (toNat (bytes ++ [byte])) =
      ofNat bytes.length (toNat bytes) ++ [byte] := by
  have bound := byte.toNat_lt
  have high : (256 * toNat bytes + byte.toNat) / 256 = toNat bytes := by omega
  have low : (256 * toNat bytes + byte.toNat).toUInt8 = byte := by
    apply UInt8.toNat_inj.mp
    simp [Nat.toUInt8]
  rw [toNat_concat, ofNat, high, low]

theorem ofNat_toNat (bytes : List UInt8) : ofNat bytes.length (toNat bytes) = bytes := by
  rw [← bytes.reverse_reverse]
  induction bytes.reverse with
  | nil => rfl
  | cons byte rest ih =>
    rw [List.reverse_cons, List.length_append, List.length_singleton, ofNat_concat, ih]

theorem toNat_lt (bytes : List UInt8) : toNat bytes < 256 ^ bytes.length := by
  rw [← bytes.reverse_reverse]
  induction bytes.reverse with
  | nil => simp [toNat]
  | cons byte rest ih =>
    have bound := byte.toNat_lt
    simp only [List.length_reverse] at ih
    simp only [List.reverse_cons, toNat_concat, List.length_append, List.length_reverse,
      List.length_singleton, Nat.pow_succ]
    omega

end BigEndian

namespace Octets

@[simp] theorem toWord_ofWord (value : UInt32) : (ofWord value).toWord = value := by
  apply UInt32.toNat_inj.mp
  have bound := value.toNat_lt
  simp [toWord, ofWord, BigEndian.toNat_ofNat, Nat.toUInt32]

@[simp] theorem ofWord_toWord (o : Octets 4) : ofWord o.toWord = o := by
  have bound : BigEndian.toNat o.toList < 4294967296 := by
    simpa [o.length_toList] using BigEndian.toNat_lt o.toList
  have same := BigEndian.ofNat_toNat o.toList
  rw [o.length_toList] at same
  ext1
  simpa [toWord, ofWord, Nat.toUInt32, Nat.mod_eq_of_lt bound] using same

@[simp] theorem toHyper_ofHyper (value : UInt64) : (ofHyper value).toHyper = value := by
  apply UInt64.toNat_inj.mp
  have bound := value.toNat_lt
  simp [toHyper, ofHyper, BigEndian.toNat_ofNat, Nat.toUInt64]

@[simp] theorem ofHyper_toHyper (o : Octets 8) : ofHyper o.toHyper = o := by
  have bound : BigEndian.toNat o.toList < 18446744073709551616 := by
    simpa [o.length_toList] using BigEndian.toNat_lt o.toList
  have same := BigEndian.ofNat_toNat o.toList
  rw [o.length_toList] at same
  ext1
  simpa [toHyper, ofHyper, Nat.toUInt64, Nat.mod_eq_of_lt bound] using same

end Octets

end CapabilityGuard
