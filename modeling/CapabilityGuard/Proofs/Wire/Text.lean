import CapabilityGuard.Proofs.Wire.Exact
import CapabilityGuard.Wire.Text

/-! Texts are exact on the wire. The bytes of a text are valid UTF-8 and valid UTF-8 is the bytes of
one text, the count word says how many there are, and what pads them can only be zeros. -/
namespace CapabilityGuard.Wire

theorem fromUTF8?_eq_some_iff (bytes : List UInt8) (value : String) :
    String.fromUTF8? ⟨bytes.toArray⟩ = some value ↔ value.toUTF8.data.toList = bytes := by
  unfold String.fromUTF8?
  constructor
  · intro read
    split at read
    next valid =>
      obtain rfl := Option.some.inj read
      rfl
    next invalid => cases read
  · intro spelled
    subst spelled
    exact dif_pos value.isValidUTF8

theorem length_toUTF8 (value : String) : value.toUTF8.data.toList.length = value.utf8ByteSize := rfl

theorem write_text (value : String) (fits : value.utf8ByteSize ≤ maxCount) :
    text.write value = word.write value.utf8ByteSize.toUInt32 ++ value.toUTF8.data.toList ++
      List.replicate (padding value.utf8ByteSize) 0 := by
  have whole : clip maxCount value = value := if_pos fits
  simp only [text, whole, length_toUTF8]

theorem padded_split {bytes : List UInt8} {size : Nat} (room : size + padding size ≤ bytes.length)
    (blank : ¬ ((bytes.drop size).take (padding size)).any (· != 0) = true) :
    bytes = bytes.take size ++ List.replicate (padding size) 0 ++
      bytes.drop (size + padding size) := by
  have zeros : (bytes.drop size).take (padding size) = List.replicate (padding size) 0 := by
    apply List.eq_replicate_iff.mpr
    refine ⟨?_, by simpa using blank⟩
    rw [List.length_take, List.length_drop]
    omega
  rw [← zeros, List.append_assoc, ← List.drop_drop, List.take_append_drop, List.take_append_drop]

/-- Texts whose number of bytes a count word can announce. -/
theorem text_exact : text.Exact fun value => value.utf8ByteSize ≤ maxCount where
  read_write value rest fits := by
    have small : value.utf8ByteSize < 4294967296 := Nat.lt_succ_of_le fits
    have count : value.utf8ByteSize.toUInt32.toNat = value.utf8ByteSize := by
      simp [Nat.toUInt32, Nat.mod_eq_of_lt small]
    have length := length_toUTF8 value
    have decoded := (fromUTF8?_eq_some_iff _ value).mpr rfl
    rw [write_text value fits, List.append_assoc, List.append_assoc]
    generalize value.toUTF8.data.toList = bytes at length decoded
    rw [← length] at count ⊢
    have room : ¬ (bytes ++ (List.replicate (padding bytes.length) 0 ++ rest)).length <
        bytes.length + padding bytes.length := by
      simp only [List.length_append, List.length_replicate]
      omega
    have blank : ¬ (((bytes ++ (List.replicate (padding bytes.length) 0 ++ rest)).drop
        bytes.length).take (padding bytes.length)).any (· != 0) = true := by
      simp
    simp only [text, word_exact.read_write, count, if_neg room, if_neg blank, List.take_left,
      decoded]
    simp [List.drop_append]
  write_read bytes value rest read := by
    cases front : word.read bytes with
    | error cause => simp [text, front] at read
    | ok found =>
      obtain ⟨count, middle⟩ := found
      obtain ⟨_, rfl⟩ := word_exact.write_read _ _ _ front
      simp only [text, front] at read
      split at read
      next overrun => cases read
      next room =>
        split at read
        next marked => cases read
        next blank =>
          split at read
          next invalid => cases read
          next found spelled =>
            obtain ⟨rfl, rfl⟩ := Prod.mk.inj (Except.ok.inj read)
            have room := Nat.not_lt.mp room
            have bytes := (fromUTF8?_eq_some_iff _ _).mp spelled
            have size : found.utf8ByteSize = count.toNat := by
              rw [← length_toUTF8, bytes, List.length_take]
              omega
            have fits : found.utf8ByteSize ≤ maxCount :=
              size ▸ Nat.le_of_lt_succ count.toNat_lt
            refine ⟨fits, ?_⟩
            rw [write_text found fits, size, bytes, Nat.toUInt32, UInt32.ofNat_toNat,
              List.append_assoc, List.append_assoc, ← List.append_assoc (middle.take _),
              ← padded_split room blank]

end CapabilityGuard.Wire
