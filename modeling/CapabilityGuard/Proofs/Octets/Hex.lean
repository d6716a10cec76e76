import Mathlib.Data.List.Induction
import Mathlib.Tactic.SplitIfs
import CapabilityGuard.Octets.Hex
import CapabilityGuard.Proofs.Text.Digit
import CapabilityGuard.Proofs.Wire.Defects

/-! Hexadecimal text, read and rendered. A text is read when it consists of the right number of
digits, in either case, and then with small letters it is the rendering of what was read. Every
other text is refused for the first defect that is looked for. -/
namespace CapabilityGuard

namespace Hex

open Digit

/-- The character whose number a byte is. -/
def charOf (byte : UInt8) : Char := Char.ofNat byte.toNat

theorem digitAt_eq_ok_iff (position : Nat) (byte : UInt8) (value : Nat) :
    digitAt position byte = .ok value ↔
      IsHex (charOf byte) ∧ value < 16 ∧ (charOf byte).toLower = ofValue value := by
  rw [← value?_eq_some_iff, digitAt, charOf]
  split
  next found read => simp [read]
  next missing => simp [missing]

theorem digitAt_eq_error_iff (position : Nat) (byte : UInt8) (cause : Error) :
    digitAt position byte = .error cause ↔
      ¬ IsHex (charOf byte) ∧ .invalidCharacter byte position = cause := by
  rw [← value?_eq_none_iff, digitAt, charOf]
  split
  next found read => simp [read]
  next missing => simp [missing]

theorem isHex_of_read {position : Nat} {byte : UInt8}
    (read : ∀ cause, digitAt position byte = .error cause → False) : IsHex (charOf byte) := by
  by_contra strange
  exact read _ ((digitAt_eq_error_iff position byte _).mpr ⟨strange, rfl⟩)

theorem digitAt_of_digit (position : Nat) {byte : UInt8} (digit : IsHex (charOf byte)) :
    ∃ value, digitAt position byte = .ok value := by
  obtain ⟨value, bound, _, lower⟩ := exists_value digit
  exact ⟨value, (digitAt_eq_ok_iff position byte value).mpr ⟨digit, bound, lower⟩⟩

theorem render_nil : (render []).toList = [] := by simp [render]

theorem render_cons (byte : UInt8) (bytes : List UInt8) : (render (byte :: bytes)).toList =
    ofValue (byte.toNat / 16) :: ofValue (byte.toNat % 16) :: (render bytes).toList := by
  simp [render]

theorem length_render (bytes : List UInt8) : (render bytes).length = 2 * bytes.length := by
  rw [← String.length_toList]
  induction bytes with
  | nil => rfl
  | cons byte bytes ih =>
    rw [render_cons, List.length_cons, List.length_cons, ih, List.length_cons]
    omega

theorem exists_of_mem_render {bytes : List UInt8} {c : Char} (written : c ∈ (render bytes).toList) :
    ∃ value < 16, c = ofValue value := by
  induction bytes with
  | nil => simp [render_nil] at written
  | cons byte bytes ih =>
    have bound := byte.toNat_lt
    rw [render_cons] at written
    rcases List.mem_cons.mp written with rfl | rest
    · exact ⟨byte.toNat / 16, by omega, rfl⟩
    · rcases List.mem_cons.mp rest with rfl | rest
      · exact ⟨byte.toNat % 16, by omega, rfl⟩
      · exact ih rest

/-- Bytes that spell others, each by two digits in either case. -/
structure Spelled (text bytes : List UInt8) : Prop where
  digits : ∀ byte ∈ text, IsHex (charOf byte)
  lower_eq : text.map (fun byte => (charOf byte).toLower) = (render bytes).toList

theorem spelled_of_pairs {position : Nat} {text bytes : List UInt8} (even : text.length % 2 = 0)
    (read : pairs position text = .ok bytes) : Spelled text bytes := by
  fun_induction pairs position text generalizing bytes with
  | case1 position high low rest h l tail restOk highOk lowOk ih =>
    obtain rfl := Except.ok.inj read
    obtain ⟨digit, bound, lower⟩ := (digitAt_eq_ok_iff _ _ _).mp highOk
    obtain ⟨digit', bound', lower'⟩ := (digitAt_eq_ok_iff _ _ _).mp lowOk
    have inner := ih (by simp at even; omega) restOk
    -- The byte is rendered with the values of its two digits.
    have value : (16 * h + l).toUInt8.toNat = 16 * h + l := by
      simp [Nat.toUInt8]; omega
    have front : (16 * h + l) / 16 = h := by omega
    have back : (16 * h + l) % 16 = l := by omega
    constructor
    · simpa [digit, digit'] using inner.digits
    · rw [render_cons, value, front, back, List.map_cons, List.map_cons, inner.lower_eq, lower,
        lower']
  | case2 => cases read
  | case3 => cases read
  | case4 => cases read
  | case5 text position short =>
    obtain rfl := Except.ok.inj read
    rcases text with _ | ⟨high, _ | ⟨low, rest⟩⟩
    · exact ⟨by simp, by simp [render_nil]⟩
    · simp at even
    · exact absurd rfl (short high low rest)

theorem pairs_of_spelled {position : Nat} {text bytes : List UInt8} (spelled : Spelled text bytes) :
    pairs position text = .ok bytes := by
  induction bytes generalizing position text with
  | nil =>
    have empty := spelled.lower_eq
    rw [render_nil, List.map_eq_nil_iff] at empty
    subst empty
    rfl
  | cons byte bytes ih =>
    obtain ⟨digits, lower⟩ := spelled
    rw [render_cons] at lower
    obtain ⟨high, text, rfl, highLower, lower⟩ := List.map_eq_cons_iff.mp lower
    obtain ⟨low, rest, rfl, lowLower, lower⟩ := List.map_eq_cons_iff.mp lower
    simp only [List.forall_mem_cons] at digits
    obtain ⟨highDigit, lowDigit, digits⟩ := digits
    have bound := byte.toNat_lt
    have highOk := (digitAt_eq_ok_iff position high (byte.toNat / 16)).mpr
      ⟨highDigit, by omega, highLower⟩
    have lowOk := (digitAt_eq_ok_iff (position + 1) low (byte.toNat % 16)).mpr
      ⟨lowDigit, by omega, lowLower⟩
    have whole : (16 * (byte.toNat / 16) + byte.toNat % 16).toUInt8 = byte := by
      rw [Nat.div_add_mod, Nat.toUInt8, UInt8.ofNat_toNat]
    simp only [pairs, highOk, lowOk, ih ⟨digits, lower⟩, whole]

/-- The first of some bytes that is no digit, when there is one, as it is reported where the first
byte stands at `position`. -/
inductive Strange (position : Nat) (text : List UInt8) : Error → Prop
  | first (front rest : List UInt8) {byte : UInt8} (bytes_eq : text = front ++ byte :: rest)
      (digits : ∀ byte ∈ front, IsHex (charOf byte)) (strange : ¬ IsHex (charOf byte)) :
      Strange position text (.invalidCharacter byte (position + front.length))

section

variable {position : Nat} {text : List UInt8} {high low : UInt8} {cause : Error}

theorem Strange.behind (inner : Strange (position + 2) text cause) (highDigit : IsHex (charOf high))
    (lowDigit : IsHex (charOf low)) : Strange position (high :: low :: text) cause := by
  cases inner with
  | first front rest bytes_eq digits strange =>
    have place : position + 2 + front.length = position + (high :: low :: front).length := by
      simp only [List.length_cons]
      omega
    rw [place]
    refine .first (high :: low :: front) rest (congrArg (high :: low :: ·) bytes_eq) ?_ strange
    simpa [highDigit, lowDigit] using digits

theorem strange_of_pairs (failed : pairs position text = .error cause) :
    Strange position text cause := by
  fun_induction pairs position text with
  | case1 => cases failed
  | case2 position high low rest early highFailed =>
    obtain rfl := Except.error.inj failed
    obtain ⟨strange, rfl⟩ := (digitAt_eq_error_iff _ _ _).mp highFailed
    exact .first [] (low :: rest) rfl (by simp) strange
  | case3 position high low rest early lowFailed highRead =>
    obtain rfl := Except.error.inj failed
    obtain ⟨strange, rfl⟩ := (digitAt_eq_error_iff _ _ _).mp lowFailed
    exact .first [high] rest rfl (by simp [isHex_of_read highRead]) strange
  | case4 position high low rest early restFailed highRead lowRead ih =>
    obtain rfl := Except.error.inj failed
    exact (ih restFailed).behind (isHex_of_read highRead) (isHex_of_read lowRead)
  | case5 => cases failed

theorem pairs_of_strange (even : text.length % 2 = 0) (strange : Strange position text cause) :
    pairs position text = .error cause := by
  cases strange with
  | @first front rest byte bytes_eq digits strange =>
    subst bytes_eq
    -- Bytes are read in twos, so that the one in question is the high or the low one of its pair.
    induction front using List.twoStepInduction generalizing position with
    | nil =>
      have failed := (digitAt_eq_error_iff position byte _).mpr ⟨strange, rfl⟩
      cases rest with
      | nil => simp at even
      | cons low rest => simp [pairs, failed]
    | singleton high =>
      obtain ⟨value, read⟩ := digitAt_of_digit position (digits high (by simp))
      have failed := (digitAt_eq_error_iff (position + 1) byte _).mpr ⟨strange, rfl⟩
      simp [pairs, read, failed]
    | cons_cons high low front ih _ =>
      obtain ⟨value, read⟩ := digitAt_of_digit position (digits high (by simp))
      obtain ⟨value', read'⟩ := digitAt_of_digit (position + 1) (digits low (by simp))
      have failed : pairs (position + 2) (front ++ byte :: rest) = _ :=
        ih (fun byte member => digits byte (by simp [member])) (by simp at even ⊢; omega)
      have place : position + 2 + front.length = position + (high :: low :: front).length := by
        simp only [List.length_cons]
        omega
      simp only [List.cons_append, pairs, read, read', failed, place]

end

section

open Wire

theorem utf8EncodeChar_of_ascii {c : Char} (ascii : c.toNat < 128) :
    String.utf8EncodeChar c = [c.toNat.toUInt8] := by
  have small : c.val.toNat ≤ 127 := Nat.le_of_lt_succ ascii
  rw [String.utf8EncodeChar, if_pos small]
  rfl

theorem le_of_mem_utf8EncodeChar {c : Char} (wide : 128 ≤ c.toNat) :
    ∀ byte ∈ String.utf8EncodeChar c, 128 ≤ byte.toNat := by
  have large : ¬ c.val.toNat ≤ 127 := Nat.not_le.mpr wide
  rw [String.utf8EncodeChar, if_neg large]
  split_ifs
  all_goals
    simp only [List.forall_mem_cons, UInt8.toNat_ofNat', List.not_mem_nil, false_imp_iff,
      implies_true, and_true]
    omega

theorem charOf_of_ascii {c : Char} (ascii : c.toNat < 128) : charOf c.toNat.toUInt8 = c := by
  have value : c.toNat.toUInt8.toNat = c.toNat := by
    simp [Nat.toUInt8]
    omega
  rw [charOf, value, Char.ofNat_toNat]

/-- The bytes of a character are digits only if the character is one. -/
theorem forall_isHex_utf8EncodeChar (c : Char) :
    (∀ byte ∈ String.utf8EncodeChar c, IsHex (charOf byte)) ↔ IsHex c := by
  rcases Nat.lt_or_ge c.toNat 128 with ascii | wide
  · simp [utf8EncodeChar_of_ascii ascii, charOf_of_ascii ascii]
  · have strange : ¬ IsHex c := fun digit => absurd (lt_of_isHex digit) (Nat.not_lt.mpr wide)
    obtain ⟨byte, written⟩ := List.exists_mem_of_ne_nil _ (String.utf8EncodeChar_ne_nil (c := c))
    have bound := le_of_mem_utf8EncodeChar wide byte written
    have number : (charOf byte).toNat = byte.toNat := by
      have valid : byte.toNat.isValidChar := .inl (Nat.lt_trans byte.toNat_lt (by decide))
      rw [charOf, Char.ofNat, dif_pos valid]
      rfl
    refine iff_of_false (fun digits => ?_) strange
    have small := lt_of_isHex (digits byte written)
    omega

theorem forall_isHex_utf8 (chars : List Char) :
    (∀ byte ∈ utf8 chars, IsHex (charOf byte)) ↔ ∀ c ∈ chars, IsHex c := by
  simp only [utf8, List.forall_mem_flatMap, forall_isHex_utf8EncodeChar]

theorem map_charOf_utf8 {chars : List Char} (digits : ∀ c ∈ chars, IsHex c) :
    (utf8 chars).map charOf = chars := by
  induction chars with
  | nil => rfl
  | cons c chars ih =>
    obtain ⟨digit, digits⟩ := List.forall_mem_cons.mp digits
    have ascii := lt_of_isHex digit
    have rest := ih digits
    rw [utf8] at rest ⊢
    rw [List.flatMap_cons, List.map_append, rest, utf8EncodeChar_of_ascii ascii, List.map_singleton,
      charOf_of_ascii ascii, List.singleton_append]

theorem toUTF8_eq_utf8 (text : String) : text.toUTF8.data.toList = utf8 text.toList := by
  rw [← toUTF8_ofList, String.ofList_toList]

end

/-- A text of so many digits, in either case, that is a rendering when its letters are small. -/
structure Spells (size : Nat) (text rendering : String) : Prop where
  length_eq : text.length = size
  digits : ∀ c ∈ text.toList, IsHex c
  lower_eq : text.toLower = rendering

/-- Why a text does not spell `n` bytes. Of several defects the first in this order is reported, and
of several bytes that are no digits the first in the text. -/
inductive Refused (n : Nat) (text : String) : Error → Prop
  | odd (odd : text.utf8ByteSize % 2 = 1) : Refused n text .oddLength
  | misfit (even : text.utf8ByteSize % 2 = 0) (other : text.utf8ByteSize ≠ 2 * n) :
      Refused n text .wrongLength
  | strange (fits : text.utf8ByteSize = 2 * n) {cause : Error}
      (strange : Strange 0 text.toUTF8.data.toList cause) : Refused n text cause

theorem toList_toLower (text : String) : text.toLower.toList = text.toList.map Char.toLower :=
  String.toList_map

theorem spelled_iff (text : String) (bytes : List UInt8) :
    Spelled text.toUTF8.data.toList bytes ↔
      (∀ c ∈ text.toList, IsHex c) ∧ text.toLower = render bytes := by
  have small (digits : ∀ c ∈ text.toList, IsHex c) :
      (Wire.utf8 text.toList).map (fun byte => (charOf byte).toLower) = text.toLower.toList := by
    conv_rhs => rw [toList_toLower, ← map_charOf_utf8 digits, List.map_map]
    rfl
  rw [toUTF8_eq_utf8]
  constructor
  · rintro ⟨digits, lower⟩
    have digits := (forall_isHex_utf8 text.toList).mp digits
    exact ⟨digits, String.toList_inj.mp ((small digits).symm.trans lower)⟩
  · rintro ⟨digits, lower⟩
    exact ⟨(forall_isHex_utf8 text.toList).mpr digits, (small digits).trans (by rw [lower])⟩

section

variable {n : Nat} {text : String}

theorem decode_of_odd (odd : text.utf8ByteSize % 2 = 1) : decode n text = .error .oddLength :=
  if_pos odd

theorem decode_of_misfit (even : text.utf8ByteSize % 2 = 0) (other : text.utf8ByteSize ≠ 2 * n) :
    decode n text = .error .wrongLength := by
  have even : ¬ text.utf8ByteSize % 2 = 1 := by omega
  exact (if_neg even).trans (dif_pos other)

theorem map_decode (fits : text.utf8ByteSize = 2 * n) :
    (decode n text).map Octets.toList = pairs 0 text.toUTF8.data.toList := by
  have size : text.toUTF8.data.toList.length = 2 * n := fits
  have even : ¬ text.toUTF8.data.toList.length % 2 = 1 := by omega
  simp only [decode, if_neg even, dif_neg (not_not.mpr size)]
  split
  next cause read => exact read.symm
  next bytes read => exact read.symm

theorem decode_eq_ok_iff_pairs (fits : text.utf8ByteSize = 2 * n) (octets : Octets n) :
    decode n text = .ok octets ↔ pairs 0 text.toUTF8.data.toList = .ok octets.toList := by
  rw [← map_decode fits]
  cases decode n text <;> simp [Except.map, Octets.ext_iff]

theorem decode_eq_error_iff_pairs (fits : text.utf8ByteSize = 2 * n) (cause : Error) :
    decode n text = .error cause ↔ pairs 0 text.toUTF8.data.toList = .error cause := by
  rw [← map_decode fits]
  cases decode n text <;> simp [Except.map]

theorem even_of_fits (fits : text.utf8ByteSize = 2 * n) :
    text.toUTF8.data.toList.length % 2 = 0 := by
  rw [Wire.length_toUTF8]
  omega

theorem utf8ByteSize_of_digits (digits : ∀ c ∈ text.toList, IsHex c) :
    text.utf8ByteSize = text.length := by
  rw [← Wire.length_toUTF8, toUTF8_eq_utf8, ← String.length_toList,
    ← congrArg List.length (map_charOf_utf8 digits), List.length_map]

theorem decode_eq_ok_iff (octets : Octets n) :
    decode n text = .ok octets ↔ Spells (2 * n) text (render octets.toList) := by
  constructor
  · intro read
    have fits : text.utf8ByteSize = 2 * n := by
      by_contra other
      rcases Nat.mod_two_eq_zero_or_one text.utf8ByteSize with even | odd
      · cases (decode_of_misfit even other).symm.trans read
      · cases (decode_of_odd odd).symm.trans read
    have paired := (decode_eq_ok_iff_pairs fits octets).mp read
    have spelled := spelled_of_pairs (even_of_fits fits) paired
    obtain ⟨digits, lower⟩ := (spelled_iff text octets.toList).mp spelled
    exact ⟨(utf8ByteSize_of_digits digits).symm.trans fits, digits, lower⟩
  · rintro ⟨length, digits, lower⟩
    have fits : text.utf8ByteSize = 2 * n := (utf8ByteSize_of_digits digits).trans length
    apply (decode_eq_ok_iff_pairs fits octets).mpr
    exact pairs_of_spelled ((spelled_iff text octets.toList).mpr ⟨digits, lower⟩)

theorem decode_eq_error_iff (cause : Error) :
    decode n text = .error cause ↔ Refused n text cause := by
  constructor
  · intro failed
    rcases Nat.mod_two_eq_zero_or_one text.utf8ByteSize with even | odd
    · by_cases fits : text.utf8ByteSize = 2 * n
      · exact .strange fits (strange_of_pairs ((decode_eq_error_iff_pairs fits cause).mp failed))
      · obtain rfl := Except.error.inj ((decode_of_misfit even fits).symm.trans failed)
        exact .misfit even fits
    · obtain rfl := Except.error.inj ((decode_of_odd odd).symm.trans failed)
      exact .odd odd
  · intro refused
    cases refused with
    | odd odd => exact decode_of_odd odd
    | misfit even other => exact decode_of_misfit even other
    | strange fits strange =>
      apply (decode_eq_error_iff_pairs fits cause).mpr
      exact pairs_of_strange (even_of_fits fits) strange

theorem spells_render (octets : Octets n) :
    Spells (2 * n) (render octets.toList) (render octets.toList) := by
  refine ⟨?_, ?_, ?_⟩
  · rw [length_render, octets.length_toList]
  · intro c written
    obtain ⟨value, bound, rfl⟩ := exists_of_mem_render written
    exact isHex_ofValue bound
  · apply String.toList_inj.mp
    rw [toList_toLower]
    apply (List.map_congr_left _).trans (List.map_id' _)
    intro c written
    obtain ⟨value, bound, rfl⟩ := exists_of_mem_render written
    exact toLower_ofValue bound

theorem decode_render (octets : Octets n) : decode n (render octets.toList) = .ok octets :=
  (decode_eq_ok_iff octets).mpr (spells_render octets)

theorem render_inj {octets other : Octets n} (same : render octets.toList = render other.toList) :
    octets = other := by
  have read := decode_render octets
  rw [same, decode_render] at read
  exact (Except.ok.inj read).symm

/-- The digits of a rendering are those of the number that its bytes are. -/
theorem numeral_render (bytes : List UInt8) :
    numeral 16 (render bytes).toList = BigEndian.toNat bytes := by
  suffices behind : ∀ number,
      (render bytes).toList.foldl (fun number c => 16 * number + (value? c).getD 0) number =
        bytes.foldl (fun value byte => 256 * value + byte.toNat) number from behind 0
  induction bytes with
  | nil =>
    intro number
    rw [render_nil]
    rfl
  | cons byte bytes ih =>
    intro number
    have bound := byte.toNat_lt
    have high : value? (ofValue (byte.toNat / 16)) = some _ := value?_ofValue (by omega)
    have low : value? (ofValue (byte.toNat % 16)) = some _ := value?_ofValue (by omega)
    have whole : 16 * (16 * number + byte.toNat / 16) + byte.toNat % 16 =
        256 * number + byte.toNat := by omega
    rw [render_cons, List.foldl_cons, List.foldl_cons, high, low, Option.getD_some,
      Option.getD_some, whole, ih, List.foldl_cons]

/-- A text with an odd number of bytes, or too few or too many, or with a character beyond ASCII. -/
def Unfit (size : Nat) (text : String) : Prop :=
  text.utf8ByteSize % 2 = 1 ∨ text.utf8ByteSize < size ∨ size < text.utf8ByteSize ∨
    ∃ c ∈ text.toList, 128 ≤ c.toNat

theorem Spells.not_unfit {size : Nat} {text rendering : String} (even : size % 2 = 0)
    (spells : Spells size text rendering) : ¬ Unfit size text := by
  have length := (utf8ByteSize_of_digits spells.digits).trans spells.length_eq
  rintro (odd | short | long | ⟨c, member, wide⟩)
  · omega
  · omega
  · omega
  · have ascii := lt_of_isHex (spells.digits c member)
    omega

end

end Hex

end CapabilityGuard
