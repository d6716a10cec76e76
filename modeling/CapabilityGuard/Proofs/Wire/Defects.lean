import CapabilityGuard.Proofs.Wire.Shortfall
import CapabilityGuard.Proofs.Wire.Text

/-! What is wrong with bytes that are not read as a text. Of several defects the one that is looked for
first is reported: the text is not all there, then its padding is marked, then it is not UTF-8. Without
a defect the characters are read whose bytes stand there. -/
namespace CapabilityGuard.Wire

/-- The bytes that stand for a list of characters. -/
def utf8 (chars : List Char) : List UInt8 := chars.flatMap String.utf8EncodeChar

theorem toUTF8_ofList (chars : List Char) :
    (String.ofList chars).toUTF8.data.toList = utf8 chars := by
  simp [String.toUTF8, List.utf8Encode, utf8]

theorem fromUTF8?_eq_ofList {bytes : List UInt8} {chars : List Char} (spelled : utf8 chars = bytes) :
    String.fromUTF8? ⟨bytes.toArray⟩ = some (String.ofList chars) := by
  rw [fromUTF8?_eq_some_iff, toUTF8_ofList, spelled]

theorem fromUTF8?_eq_none_iff (bytes : List UInt8) :
    String.fromUTF8? ⟨bytes.toArray⟩ = none ↔ ¬ ∃ chars, utf8 chars = bytes := by
  constructor
  · rintro invalid ⟨chars, spelled⟩
    rw [fromUTF8?_eq_ofList spelled] at invalid
    cases invalid
  · intro unspelled
    apply Option.eq_none_iff_forall_ne_some.mpr
    intro value read
    refine unspelled ⟨value.toList, ?_⟩
    rw [← toUTF8_ofList, String.ofList_toList]
    exact (fromUTF8?_eq_some_iff bytes value).mp read

/-- What is made of `size` bytes of text and `pad` bytes of padding at the front of `tail`. -/
inductive Classified (size pad : Nat) (tail : List UInt8) : Except Error (String × List UInt8) → Prop
  | overrun (few : tail.length < size + pad) :
      Classified size pad tail (.error (.malformedLength size.toUInt32 tail.length))
  | marked (room : size + pad ≤ tail.length)
      (marked : ∃ byte ∈ (tail.drop size).take pad, byte ≠ 0) :
      Classified size pad tail (.error .nonZeroPadding)
  | invalid (room : size + pad ≤ tail.length)
      (blank : ∀ byte ∈ (tail.drop size).take pad, byte = 0)
      (unspelled : ¬ ∃ chars, utf8 chars = tail.take size) :
      Classified size pad tail (.error .invalidString)
  | read (room : size + pad ≤ tail.length) (blank : ∀ byte ∈ (tail.drop size).take pad, byte = 0)
      (chars : List Char) (spelled : utf8 chars = tail.take size) :
      Classified size pad tail (.ok (String.ofList chars, tail.drop (size + pad)))

section

variable {count : UInt32} {tail : List UInt8}
  (room : count.toNat + padding count.toNat ≤ tail.length)

include room

theorem content_of_marked
    (marked : ∃ byte ∈ (tail.drop count.toNat).take (padding count.toNat), byte ≠ 0) :
    content count tail = .error .nonZeroPadding := by
  rw [content, if_neg (Nat.not_lt.mpr room), if_pos (by simpa using marked)]

variable (blank : ∀ byte ∈ (tail.drop count.toNat).take (padding count.toNat), byte = 0)

include blank

theorem content_of_unspelled (unspelled : ¬ ∃ chars, utf8 chars = tail.take count.toNat) :
    content count tail = .error .invalidString := by
  rw [content, if_neg (Nat.not_lt.mpr room), if_neg (by simpa using blank),
    (fromUTF8?_eq_none_iff _).mpr unspelled]

theorem content_of_spelled {chars : List Char} (spelled : utf8 chars = tail.take count.toNat) :
    content count tail =
      .ok (String.ofList chars, tail.drop (count.toNat + padding count.toNat)) := by
  rw [content, if_neg (Nat.not_lt.mpr room), if_neg (by simpa using blank),
    fromUTF8?_eq_ofList spelled]

end

theorem content_eq_iff (count : UInt32) (tail : List UInt8)
    (outcome : Except Error (String × List UInt8)) : content count tail = outcome ↔
      Classified count.toNat (padding count.toNat) tail outcome := by
  have overrun (few : tail.length < count.toNat + padding count.toNat) :
      content count tail = .error (.malformedLength count.toNat.toUInt32 tail.length) := by
    rw [content, if_pos few, Nat.toUInt32, UInt32.ofNat_toNat]
  constructor
  · -- The defects are looked for in this order.
    rintro rfl
    rcases Nat.lt_or_ge tail.length (count.toNat + padding count.toNat) with few | room
    · exact overrun few ▸ .overrun few
    by_cases marked : ∃ byte ∈ (tail.drop count.toNat).take (padding count.toNat), byte ≠ 0
    · exact content_of_marked room marked ▸ .marked room marked
    have blank : ∀ byte ∈ (tail.drop count.toNat).take (padding count.toNat), byte = 0 := by
      simpa using marked
    by_cases spelled : ∃ chars, utf8 chars = tail.take count.toNat
    · obtain ⟨chars, spelled⟩ := spelled
      exact content_of_spelled room blank spelled ▸ .read room blank chars spelled
    · exact content_of_unspelled room blank spelled ▸ .invalid room blank spelled
  · intro classified
    cases classified with
    | overrun few => exact overrun few
    | marked room marked => exact content_of_marked room marked
    | invalid room blank unspelled => exact content_of_unspelled room blank unspelled
    | read room blank chars spelled => exact content_of_spelled room blank spelled

/-- Behind the word with its size, a text is read or refused for the first of its defects. What is
written for a text is read as that text, whatever follows. -/
theorem text_classified :
    (∀ bytes : List UInt8, 4 ≤ bytes.length → ∀ outcome,
      (text.read bytes = outcome ↔
        Classified (heading bytes) ((4 - heading bytes % 4) % 4) (bytes.drop 4) outcome)) ∧
    ∀ value rest, value.utf8ByteSize ≤ maxCount →
      text.read (text.write value ++ rest) = .ok (value, rest) := by
  refine ⟨fun bytes counted outcome => ?_, text_exact.read_write⟩
  have behind := content_eq_iff (heading bytes).toUInt32 (bytes.drop 4) outcome
  rw [toNat_heading counted] at behind
  rw [text_read, andThen_ok (word_of_enough counted), behind, padding]

/-- A byte that is no text and has marked padding behind it, and a text with such a byte behind it. -/
theorem text_classified_marked :
    text.read [0, 0, 0, 1, 255, 0, 1, 0] = .error .nonZeroPadding ∧
      text.read (text.write "é" ++ [255]) = .ok ("é", [255]) :=
  ⟨(text_classified.1 _ (by decide) _).mpr (.marked (by decide) ⟨1, by decide, by decide⟩),
    text_classified.2 "é" [255] (by decide)⟩

end CapabilityGuard.Wire
