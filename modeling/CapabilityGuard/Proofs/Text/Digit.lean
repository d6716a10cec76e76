import Mathlib.Tactic.Simproc.ExistsAndEq
import Mathlib.Tactic.SplitIfs
import CapabilityGuard.Text.Digit

/-! Digits of base sixteen. There are twenty-two, since letters count in either case, and a small
one stands for each value below sixteen. -/
namespace CapabilityGuard

namespace Digit

/-- The digits of base sixteen. -/
def IsHex (c : Char) : Prop := c ∈ "0123456789abcdefABCDEF".toList

instance : DecidablePred IsHex := fun c =>
  inferInstanceAs (Decidable (c ∈ "0123456789abcdefABCDEF".toList))

theorem exists_value {c : Char} (digit : IsHex c) :
    ∃ value < 16, value? c = some value ∧ c.toLower = ofValue value := by
  revert c
  simp [IsHex, value?, ofValue]

theorem lt_of_isHex {c : Char} (digit : IsHex c) : c.toNat < 128 := by
  revert c
  simp [IsHex]

theorem isHex_of_value? {c : Char} {value : Nat} (found : value? c = some value) : IsHex c := by
  have table : ∀ n : Fin 128, (value? (Char.ofNat n)).isSome → IsHex (Char.ofNat n) := by
    decide +kernel
  have small : c.toNat < 128 := by
    unfold value? at found
    split_ifs at found with decimal lower upper
    · exact Nat.lt_of_le_of_lt decimal.2 (by decide)
    · exact Nat.lt_of_le_of_lt lower.2 (by decide)
    · exact Nat.lt_of_le_of_lt upper.2 (by decide)
  have digit := table ⟨c.toNat, small⟩
  rw [Char.ofNat_toNat, found] at digit
  exact digit rfl

theorem ofValue_inj {value other : Nat} (bound : value < 16) (bound' : other < 16)
    (same : ofValue value = ofValue other) : value = other := by
  have table : ∀ value < 16, ∀ other < 16, ofValue value = ofValue other → value = other := by
    decide
  exact table value bound other bound' same

theorem value?_eq_some_iff (c : Char) (value : Nat) :
    value? c = some value ↔ IsHex c ∧ value < 16 ∧ c.toLower = ofValue value := by
  constructor
  · intro found
    have digit := isHex_of_value? found
    obtain ⟨own, bound, read, lower⟩ := exists_value digit
    obtain rfl := Option.some.inj (read.symm.trans found)
    exact ⟨digit, bound, lower⟩
  · rintro ⟨digit, bound, lower⟩
    obtain ⟨own, bound', read, lower'⟩ := exists_value digit
    rw [read, ofValue_inj bound' bound (lower'.symm.trans lower)]

theorem value?_eq_none_iff (c : Char) : value? c = none ↔ ¬ IsHex c := by
  constructor
  · intro missing digit
    obtain ⟨value, _, read, _⟩ := exists_value digit
    cases missing.symm.trans read
  · intro strange
    cases found : value? c with
    | none => rfl
    | some value => exact absurd (isHex_of_value? found) strange

theorem isHex_ofValue {value : Nat} (bound : value < 16) : IsHex (ofValue value) := by
  have table : ∀ value < 16, IsHex (ofValue value) := by decide
  exact table value bound

theorem toLower_ofValue {value : Nat} (bound : value < 16) :
    (ofValue value).toLower = ofValue value := by
  have table : ∀ value < 16, (ofValue value).toLower = ofValue value := by decide
  exact table value bound

theorem value?_ofValue {value : Nat} (bound : value < 16) : value? (ofValue value) = some value :=
  (value?_eq_some_iff _ _).mpr ⟨isHex_ofValue bound, bound, toLower_ofValue bound⟩

end Digit

end CapabilityGuard
