import Std.Data.String.ToNat
import CapabilityGuard.Proofs.Key.Hex
import CapabilityGuard.Store.Error

/-! The texts of store errors. Each says what kind of error it is and spells the container, the
operation and the transaction that it names, so that no two errors have the same text. -/
namespace CapabilityGuard

namespace Operation

/-- The operations that have a name of their own. -/
def named : List Operation := [read, write, createEntry, removeEntry, admin]

theorem name_of_unnamed {op : Operation} (unnamed : op ∉ named) :
    op.name = "op#" ++ toString op.code.toNat := by
  simp only [named, List.mem_cons, List.not_mem_nil, or_false, not_or] at unnamed
  obtain ⟨notRead, notWrite, notCreate, notRemove, notAdmin⟩ := unnamed
  rw [name, if_neg notRead, if_neg notWrite, if_neg notCreate, if_neg notRemove, if_neg notAdmin]

theorem name_ne_unnamed {op other : Operation} (known : op ∈ named) (unnamed : other ∉ named) :
    op.name ≠ other.name := by
  -- No name begins like a number does.
  have table : ∀ op ∈ named, op.name.toList.head? ≠ some 'o' := by decide
  intro same
  apply table op known
  rw [same, name_of_unnamed unnamed]
  simp

theorem name_injective : Function.Injective name := by
  intro op other same
  by_cases known : op ∈ named
  · by_cases known' : other ∈ named
    · have table : ∀ op ∈ named, ∀ other ∈ named, op.name = other.name → op = other := by decide
      exact table op known other known' same
    · exact absurd same (name_ne_unnamed known known')
  · by_cases known' : other ∈ named
    · exact absurd same.symm (name_ne_unnamed known' known)
    · rw [name_of_unnamed known, name_of_unnamed known', String.append_right_inj] at same
      have codes : op.code = other.code := UInt32.toNat_inj.mp (Nat.repr_inj.mp same)
      cases op
      cases other
      exact congrArg mk codes

end Operation

theorem TxnRef.text_injective : Function.Injective TxnRef.text := by
  intro txn other same
  rw [TxnRef.text, TxnRef.text, String.append_right_inj] at same
  have numbers : txn.number = other.number := UInt64.toNat_inj.mp (Nat.repr_inj.mp same)
  cases txn
  cases other
  exact congrArg mk numbers

namespace ContainerId

theorem length_toList_hex (cid : ContainerId) : cid.hex.toList.length = 32 := by
  rw [String.length_toList]
  exact (Hex.spells_render cid.octets).length_eq

section

variable {cid cid' : ContainerId} {text text' : String}

/-- What stands behind an id begins where the id ends. -/
theorem hex_append_inj (same : cid.hex ++ text = cid'.hex ++ text') :
    cid = cid' ∧ text = text' := by
  rw [← String.toList_inj, String.toList_append, String.toList_append] at same
  obtain ⟨front, back⟩ := List.append_inj same (by rw [length_toList_hex, length_toList_hex])
  exact ⟨hex_injective (String.toList_inj.mp front), String.toList_inj.mp back⟩

theorem append_hex_inj (same : text ++ cid.hex = text' ++ cid'.hex) :
    text = text' ∧ cid = cid' := by
  rw [← String.toList_inj, String.toList_append, String.toList_append] at same
  obtain ⟨front, back⟩ := List.append_inj' same (by rw [length_toList_hex, length_toList_hex])
  exact ⟨String.toList_inj.mp front, hex_injective (String.toList_inj.mp back)⟩

end

end ContainerId

namespace StoreError

/-- The first letters of the text, which only the two errors about a container share. -/
def opening : StoreError → String
  | provider _ => "unh"
  | containerExists _ | containerNotFound _ => "con"
  | aclNotFound _ _ => "no "
  | unknownTxn _ => "unk"

theorem take_message (cause : StoreError) :
    cause.message.toList.take 3 = cause.opening.toList := by
  unfold message opening
  cases cause <;> simp

theorem opening_eq {cause other : StoreError} (same : cause.message = other.message) :
    cause.opening = other.opening := by
  rw [← String.toList_inj, ← take_message, ← take_message, same]

theorem container_text_inj {cid cid' : ContainerId} {ending ending' : String}
    (same : "container " ++ cid.hex ++ ending = "container " ++ cid'.hex ++ ending') :
    cid = cid' ∧ ending = ending' := by
  rw [String.append_assoc, String.append_assoc, String.append_right_inj] at same
  exact ContainerId.hex_append_inj same

theorem message_injective : Function.Injective message := by
  intro cause other same
  have kind := opening_eq same
  cases cause with
  | provider text =>
    cases other with
    | provider text' => exact congrArg provider ((String.append_right_inj _).mp same)
    | containerExists | containerNotFound | aclNotFound | unknownTxn => simp [opening] at kind
  | containerExists cid =>
    cases other with
    | containerExists cid' => rw [(container_text_inj same).1]
    | containerNotFound cid' => exact absurd (container_text_inj same).2 (by decide)
    | provider | aclNotFound | unknownTxn => simp [opening] at kind
  | containerNotFound cid =>
    cases other with
    | containerExists cid' => exact absurd (container_text_inj same).2 (by decide)
    | containerNotFound cid' => rw [(container_text_inj same).1]
    | provider | aclNotFound | unknownTxn => simp [opening] at kind
  | aclNotFound cid op =>
    cases other with
    | aclNotFound cid' op' =>
      obtain ⟨front, rfl⟩ := ContainerId.append_hex_inj same
      rw [String.append_left_inj, String.append_right_inj] at front
      rw [Operation.name_injective front]
    | provider | containerExists | containerNotFound | unknownTxn => simp [opening] at kind
  | unknownTxn txn =>
    cases other with
    | unknownTxn txn' =>
      exact congrArg unknownTxn (TxnRef.text_injective ((String.append_right_inj _).mp same))
    | provider | containerExists | containerNotFound | aclNotFound => simp [opening] at kind

end StoreError

end CapabilityGuard
