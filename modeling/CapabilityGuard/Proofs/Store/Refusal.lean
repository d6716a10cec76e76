import Mathlib.Data.String.Basic
import Mathlib.Tactic.SplitIfs
import CapabilityGuard.Proofs.Store.Frame
import CapabilityGuard.Proofs.Store.Lookup
import CapabilityGuard.Store.Action
import CapabilityGuard.Wire.Format

/-! How a store refuses. It names a container, an ACL or a transaction that it does not have, or a
container that it has already, and its texts are short. -/
namespace CapabilityGuard

theorem utf8ByteSize_ofList_le (chars : List Char) :
    (String.ofList chars).utf8ByteSize ≤ 4 * chars.length := by
  rw [String.utf8ByteSize_ofList]
  induction chars with
  | nil => simp
  | cons c chars ih =>
    have size := c.utf8Size_le_four
    rw [String.utf8Len_cons, List.length_cons]
    omega

theorem utf8ByteSize_toString_le {number digits : Nat} (room : 0 < digits)
    (bound : number < 10 ^ digits) : (toString number).utf8ByteSize ≤ 4 * digits := by
  -- Four bytes a character is more than a digit takes, and enough here.
  have length := (Nat.length_toDigits_le_iff (by decide) room).mpr bound
  have size := utf8ByteSize_ofList_le (Nat.toDigits 10 number)
  rw [Nat.toString_eq_ofList_toDigits]
  omega

theorem ContainerId.utf8ByteSize_hex_le (cid : ContainerId) : cid.hex.utf8ByteSize ≤ 128 := by
  have size := utf8ByteSize_ofList_le (cid.octets.toList.flatMap fun byte =>
    [Digit.ofValue (byte.toNat / 16), Digit.ofValue (byte.toNat % 16)])
  have length : (cid.octets.toList.flatMap fun byte =>
      [Digit.ofValue (byte.toNat / 16), Digit.ofValue (byte.toNat % 16)]).length = 32 := by
    simp [List.length_flatMap, cid.octets.length_toList]
  rw [length] at size
  exact size

theorem Operation.utf8ByteSize_name_le (op : Operation) : op.name.utf8ByteSize ≤ 43 := by
  have bound : op.code.toNat < 10 ^ 10 := Nat.lt_trans op.code.toNat_lt (by decide)
  have size := utf8ByteSize_toString_le (by decide) bound
  have mark : "op#".utf8ByteSize = 3 := rfl
  unfold Operation.name
  split_ifs
  case neg => rw [String.utf8ByteSize_append]; omega
  all_goals decide

theorem TxnRef.utf8ByteSize_text_le (txn : TxnRef) : txn.text.utf8ByteSize ≤ 84 := by
  have bound : txn.number.toNat < 10 ^ 20 := Nat.lt_trans txn.number.toNat_lt (by decide)
  have size := utf8ByteSize_toString_le (by decide) bound
  have mark : "txn#".utf8ByteSize = 4 := rfl
  rw [TxnRef.text, String.utf8ByteSize_append]
  omega

namespace StoreError

/-- The store itself refuses, and not what it is kept in. -/
def Ordinary : StoreError → Prop
  | provider _ => False
  | containerExists _ | containerNotFound _ | aclNotFound _ _ | unknownTxn _ => True

theorem Ordinary.utf8ByteSize_le {cause : StoreError} (ordinary : cause.Ordinary) :
    cause.message.utf8ByteSize ≤ 200 := by
  cases cause with
  | provider text => cases ordinary
  | containerExists cid =>
    have size := cid.utf8ByteSize_hex_le
    have front : "container ".utf8ByteSize = 10 := rfl
    have back : " already exists".utf8ByteSize = 15 := rfl
    unfold message
    simp only [String.utf8ByteSize_append]
    omega
  | containerNotFound cid =>
    have size := cid.utf8ByteSize_hex_le
    have front : "container ".utf8ByteSize = 10 := rfl
    have back : " not found".utf8ByteSize = 10 := rfl
    unfold message
    simp only [String.utf8ByteSize_append]
    omega
  | aclNotFound cid op =>
    have size := cid.utf8ByteSize_hex_le
    have name := op.utf8ByteSize_name_le
    have front : "no acl for ".utf8ByteSize = 11 := rfl
    have middle : " on container ".utf8ByteSize = 14 := rfl
    unfold message
    simp only [String.utf8ByteSize_append]
    omega
  | unknownTxn txn =>
    have size := txn.utf8ByteSize_text_le
    have front : "unknown transaction ".utf8ByteSize = 20 := rfl
    unfold message
    simp only [String.utf8ByteSize_append]
    omega

end StoreError

theorem Change.apply_ordinary {change : Change} {containers : Containers} {cause : StoreError}
    (failed : change.apply containers = .error cause) : cause.Ordinary := by
  cases change with
  | create cid | remove cid | put cid op uids =>
    simp only [apply] at failed
    split at failed <;> cases failed
    trivial
  | amend cid op set unset =>
    simp only [apply] at failed
    split at failed
    · cases failed
      trivial
    · split at failed <;> cases failed
      trivial

theorem Change.applyAll_ordinary {changes : List Change} {containers : Containers}
    {cause : StoreError} (failed : applyAll containers changes = .error cause) :
    cause.Ordinary := by
  induction changes generalizing containers with
  | nil => cases failed
  | cons change changes ih =>
    cases first : change.apply containers with
    | error early =>
      obtain rfl : early = cause := by simpa [applyAll, first] using failed
      exact apply_ordinary first
    | ok middle =>
      have rest : applyAll middle changes = .error cause := by
        simpa [applyAll, first] using failed
      exact ih rest

namespace Store

variable {s : Store} {cause : StoreError}

theorem commit_ordinary {txn : TxnRef} (failed : (s.commit txn).1 = .error cause) :
    cause.Ordinary := by
  rcases s.commit_cases txn with ⟨_, result⟩ | ⟨changes, early, _, applied, result⟩ |
    ⟨_, _, _, _, result⟩
  all_goals rw [result] at failed; cases failed
  · trivial
  · exact Change.applyAll_ordinary applied

theorem abort_ordinary {txn : TxnRef} (failed : (s.abort txn).1 = .error cause) :
    cause.Ordinary := by
  rcases s.abort_cases txn with ⟨_, result⟩ | ⟨_, _, result⟩
  all_goals rw [result] at failed; cases failed
  trivial

theorem change_ordinary {txn? : Option TxnRef} {change : Change}
    (failed : (s.change txn? change).1 = .error cause) : cause.Ordinary := by
  rcases s.change_cases txn? change with ⟨_, _, _, result⟩ | ⟨_, _, _, _, result⟩ |
    ⟨early, _, applied, result⟩ | ⟨_, _, _, result⟩
  all_goals rw [result] at failed; cases failed
  · trivial
  · exact Change.apply_ordinary applied

theorem acl_ordinary {cid : ContainerId} {op : Operation} (failed : s.acl cid op = .error cause) :
    cause.Ordinary := by
  rcases acl_error failed with rfl | rfl <;> trivial

theorem error_of_map {α β : Type} {f : α → β} {result : Except StoreError α}
    (failed : result.map f = .error cause) : result = .error cause := by
  cases result with
  | ok value => cases failed
  | error early => exact congrArg Except.error (Except.error.inj failed)

theorem perform_ordinary {action : Action} (failed : (s.perform action).1 = .error cause) :
    cause.Ordinary := by
  cases action with
  | begin | hasContainer => cases failed
  | commit txn => exact commit_ordinary (error_of_map failed)
  | abort txn => exact abort_ordinary (error_of_map failed)
  | change txn? change => exact change_ordinary (error_of_map failed)
  | acl cid op => exact acl_ordinary (error_of_map failed)

end Store

end CapabilityGuard
