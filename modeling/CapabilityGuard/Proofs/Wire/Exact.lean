import CapabilityGuard.Octets.Lemmas
import CapabilityGuard.Wire.Format

/-! A format is exact when writing and reading undo each other. What it writes is read back whatever
follows, and what it reads is what it would have written, so a byte string has one reading and a
value one spelling. Formats put together from exact ones are exact. -/
namespace CapabilityGuard.Wire

variable {α β : Type}

namespace Format

/-- The values that are read are those that `valid` admits. -/
structure Exact (format : Format α) (valid : α → Prop) : Prop where
  read_write : ∀ value rest, valid value →
    format.read (format.write value ++ rest) = .ok (value, rest)
  write_read : ∀ bytes value rest, format.read bytes = .ok (value, rest) →
    valid value ∧ bytes = format.write value ++ rest

namespace Exact

variable {format : Format α} {valid : α → Prop}

theorem read_eq_ok_iff (exact : format.Exact valid) (bytes : List UInt8) (value : α)
    (rest : List UInt8) : format.read bytes = .ok (value, rest) ↔
      valid value ∧ bytes = format.write value ++ rest := by
  constructor
  · exact exact.write_read bytes value rest
  · intro written
    obtain ⟨admitted, rfl⟩ := written
    exact exact.read_write value rest admitted

theorem readAll_eq_ok_iff (exact : format.Exact valid) (bytes : List UInt8) (value : α) :
    format.readAll bytes = .ok value ↔ valid value ∧ bytes = format.write value := by
  have complete : format.readAll bytes = .ok value ↔ format.read bytes = .ok (value, []) := by
    unfold readAll
    rcases format.read bytes with cause | ⟨found, _ | ⟨byte, rest⟩⟩ <;> simp
  rw [complete, exact.read_eq_ok_iff, List.append_nil]

theorem write_injective (exact : format.Exact valid) {first second : α} (admitted : valid first)
    (other : valid second) (equal : format.write first = format.write second) :
    first = second := by
  have read := exact.read_write first [] admitted
  rw [equal, exact.read_write second [] other] at read
  simpa using read.symm

theorem congr {valid' : α → Prop} (exact : format.Exact valid)
    (same : ∀ value, valid value ↔ valid' value) : format.Exact valid' := by
  obtain rfl : valid = valid' := funext fun value => propext (same value)
  exact exact

theorem map (exact : format.Exact valid) {make : α → β} {view : β → α}
    (make_view : ∀ value, make (view value) = value)
    (view_make : ∀ value, view (make value) = value) :
    (format.map make view).Exact fun value => valid (view value) where
  read_write value rest admitted := by
    simp [Format.map, exact.read_write _ rest admitted, make_view]
  write_read bytes value rest read := by
    cases inner : format.read bytes with
    | error cause => simp [Format.map, inner] at read
    | ok found =>
      obtain ⟨rfl, rfl⟩ : make found.1 = value ∧ found.2 = rest := by
        simpa [Format.map, inner] using read
      simpa [Format.map, view_make] using exact.write_read bytes found.1 found.2 inner

theorem pair {second : Format β} {valid' : β → Prop} (exact : format.Exact valid)
    (exact' : second.Exact valid') :
    (format.pair second).Exact fun value => valid value.1 ∧ valid' value.2 where
  read_write value rest admitted := by
    simp [Format.pair, List.append_assoc, exact.read_write _ _ admitted.1,
      exact'.read_write _ rest admitted.2]
  write_read bytes value rest read := by
    cases front : format.read bytes with
    | error cause => simp [Format.pair, front] at read
    | ok found =>
      obtain ⟨a, middle⟩ := found
      cases back : second.read middle with
      | error cause => simp [Format.pair, front, back] at read
      | ok found =>
        obtain ⟨b, left⟩ := found
        obtain ⟨rfl, rfl⟩ : (a, b) = value ∧ left = rest := by
          simpa [Format.pair, front, back] using read
        obtain ⟨admitted, rfl⟩ := exact.write_read _ _ _ front
        obtain ⟨admitted', rfl⟩ := exact'.write_read _ _ _ back
        exact ⟨⟨admitted, admitted'⟩, by simp [Format.pair]⟩

theorem constant (value : α) : (Format.constant value).Exact (· = value) where
  read_write found rest same := by simp [Format.constant, same]
  write_read bytes found rest read := by
    obtain ⟨rfl, rfl⟩ : value = found ∧ bytes = rest := by simpa [Format.constant] using read
    exact ⟨rfl, by simp [Format.constant]⟩

theorem alternative (exact : format.Exact valid) {wrap : α → β} {unwrap? : β → Option α}
    {valid' : β → Prop} (unwrap_wrap : ∀ value, unwrap? (wrap value) = some value)
    (wrapped : ∀ value, valid' value ↔ ∃ inner, wrap inner = value ∧ valid inner) :
    (format.alternative wrap unwrap?).Exact valid' where
  read_write value rest admitted := by
    obtain ⟨inner, rfl, inside⟩ := (wrapped value).mp admitted
    simp [Format.alternative, unwrap_wrap, exact.read_write _ rest inside]
  write_read bytes value rest read := by
    cases front : format.read bytes with
    | error cause => simp [Format.alternative, front] at read
    | ok found =>
      obtain ⟨inner, left⟩ := found
      obtain ⟨rfl, rfl⟩ : wrap inner = value ∧ left = rest := by
        simpa [Format.alternative, front] using read
      obtain ⟨admitted, rfl⟩ := exact.write_read _ _ _ front
      exact ⟨(wrapped _).mpr ⟨inner, rfl, admitted⟩, by simp [Format.alternative, unwrap_wrap]⟩

end Exact

end Format

/-- An exact format that takes every value, in as many bytes as it states. -/
structure Fixed.Exact (format : Fixed α) : Prop extends format.toFormat.Exact fun _ => True where
  length_write : ∀ value, (format.write value).length = format.size

theorem octets_exact (n : Nat) : (octets n).Exact where
  read_write value rest _ := by
    have front : (value.toList ++ rest).take n = value.toList := by
      simp [value.length_toList]
    have back : (value.toList ++ rest).drop n = rest := by
      simp [value.length_toList]
    simp [octets, front, back, value.length_toList]
  write_read bytes value rest read := by
    simp only [octets] at read
    split at read
    next enough =>
      simp only [Except.ok.injEq, Prod.mk.injEq] at read
      obtain ⟨rfl, rfl⟩ := read
      exact ⟨trivial, by simp [octets]⟩
    next short => cases read
  length_write value := by simp [octets, value.length_toList]

namespace Fixed.Exact

variable {format : Fixed α} {second : Fixed β}

theorem map (exact : format.Exact) {make : α → β} {view : β → α}
    (make_view : ∀ value, make (view value) = value)
    (view_make : ∀ value, view (make value) = value) : (format.map make view).Exact where
  toExact := exact.toExact.map make_view view_make
  length_write value := exact.length_write (view value)

theorem pair (exact : format.Exact) (exact' : second.Exact) : (format.pair second).Exact where
  toExact := (exact.toExact.pair exact'.toExact).congr fun _ => by simp
  length_write value := by
    change (format.write value.1 ++ second.write value.2).length = format.size + second.size
    rw [List.length_append, exact.length_write, exact'.length_write]

end Fixed.Exact

theorem word_exact : word.Exact := (octets_exact 4).map (by simp) (by simp)

theorem length_word (value : UInt32) : (word.write value).length = 4 := word_exact.length_write value

theorem hyper_exact : hyper.Exact := (octets_exact 8).map (by simp) (by simp)

namespace Format.Exact

variable {format : Format α} {valid : α → Prop}

/-- Each tag has a format that is exact on the values of that tag. -/
theorem tagged {tag : α → UInt32} {unknown : UInt32 → Error}
    {body : UInt32 → Option (Format α)}
    (branches : ∀ code format, body code = some format →
      format.Exact fun value => tag value = code ∧ valid value)
    (covered : ∀ value, valid value → (body (tag value)).isSome) :
    (Format.tagged tag unknown body).Exact valid where
  read_write value rest admitted := by
    obtain ⟨format, found⟩ := Option.isSome_iff_exists.mp (covered value admitted)
    have read := (branches _ format found).read_write value rest ⟨rfl, admitted⟩
    simp [Format.tagged, List.append_assoc, word_exact.read_write, found, read]
  write_read bytes value rest read := by
    cases front : word.read bytes with
    | error cause => simp [Format.tagged, front] at read
    | ok found =>
      obtain ⟨code, middle⟩ := found
      cases selected : body code with
      | none => simp [Format.tagged, front, selected] at read
      | some format =>
        have inner : format.read middle = .ok (value, rest) := by
          simpa [Format.tagged, front, selected] using read
        obtain ⟨_, rfl⟩ := word_exact.write_read _ _ _ front
        obtain ⟨⟨rfl, admitted⟩, rfl⟩ := (branches _ _ selected).write_read _ _ _ inner
        exact ⟨admitted, by simp [Format.tagged, selected]⟩

theorem optional (exact : format.Exact valid) :
    format.optional.Exact fun value? => ∀ value ∈ value?, valid value := by
  apply tagged
  · intro code branch selected
    split at selected
    · obtain rfl := Option.some.inj selected
      apply (constant none).congr
      intro value?
      cases value? <;> simp
    · obtain rfl := Option.some.inj selected
      refine exact.alternative (fun _ => rfl) ?_
      intro value?
      cases value? <;> simp
    · cases selected
  · intro value? _
    cases value? <;> rfl

theorem readMany_write (exact : format.Exact valid) (values earlier : List α) (rest : List UInt8)
    (admitted : ∀ value ∈ values, valid value) :
    format.readMany values.length earlier (values.flatMap format.write ++ rest) =
      .ok (earlier.reverse ++ values, rest) := by
  induction values generalizing earlier with
  | nil => simp [readMany]
  | cons value values ih =>
    have first := exact.read_write value (values.flatMap format.write ++ rest)
      (admitted value (by simp))
    have others := ih (value :: earlier) fun other member => admitted other (by simp [member])
    simp [readMany, List.append_assoc, first, others]

theorem write_readMany (exact : format.Exact valid) (count : Nat) (earlier values : List α)
    (bytes rest : List UInt8) (read : format.readMany count earlier bytes = .ok (values, rest)) :
    ∃ found, values = earlier.reverse ++ found ∧ found.length = count ∧
      (∀ value ∈ found, valid value) ∧ bytes = found.flatMap format.write ++ rest := by
  induction count generalizing earlier bytes with
  | zero =>
    obtain ⟨rfl, rfl⟩ : earlier.reverse = values ∧ bytes = rest := by simpa [readMany] using read
    exact ⟨[], by simp⟩
  | succ count ih =>
    cases front : format.read bytes with
    | error cause => simp [readMany, front] at read
    | ok found =>
      obtain ⟨value, middle⟩ := found
      have tail : format.readMany count (value :: earlier) middle = .ok (values, rest) := by
        simpa [readMany, front] using read
      obtain ⟨found, rfl, rfl, admitted, rfl⟩ := ih _ _ tail
      obtain ⟨first, rfl⟩ := exact.write_read _ _ _ front
      exact ⟨value :: found, by simp, by simp, by simpa using ⟨first, admitted⟩, by simp⟩

end Format.Exact

theorem Fixed.Exact.length_flatMap {format : Fixed α} (exact : format.Exact) (values : List α) :
    (values.flatMap format.write).length = values.length * format.size := by
  induction values with
  | nil => simp
  | cons value values ih => simp [exact.length_write, ih, Nat.succ_mul, Nat.add_comm]

theorem Fixed.Exact.length_sequence {format : Fixed α} (exact : format.Exact) {values : List α}
    (bound : values.length ≤ maxCount) :
    (format.sequence.write values).length = 4 + values.length * format.size := by
  simp only [Fixed.sequence, List.take_of_length_le bound, List.length_append, length_word,
    exact.length_flatMap]

/-- Lists that a count word can announce. -/
theorem Fixed.Exact.sequence {format : Fixed α} (exact : format.Exact) :
    format.sequence.Exact fun values => values.length ≤ maxCount where
  read_write values rest bound := by
    have small : values.length < 4294967296 := Nat.lt_succ_of_le bound
    have count : values.length.toUInt32.toNat = values.length := by
      simp [Nat.toUInt32, Nat.mod_eq_of_lt small]
    have fits : ¬ (values.flatMap format.write ++ rest).length < values.length * format.size := by
      simp [exact.length_flatMap]
    have elements := exact.toExact.readMany_write values [] rest fun _ _ => trivial
    simp only [Fixed.sequence, List.take_of_length_le bound, List.append_assoc,
      word_exact.read_write _ _ trivial, count, if_neg fits, elements]
    rfl
  write_read bytes values rest read := by
    cases front : word.read bytes with
    | error cause => simp [Fixed.sequence, front] at read
    | ok found =>
      obtain ⟨count, middle⟩ := found
      simp only [Fixed.sequence, front] at read
      split at read
      next overrun => cases read
      next fits =>
        obtain ⟨found, same, size, _, rfl⟩ := exact.toExact.write_readMany _ _ _ _ _ read
        obtain rfl : values = found := same
        obtain ⟨_, rfl⟩ := word_exact.write_read _ _ _ front
        have bound : values.length ≤ maxCount := size ▸ Nat.le_of_lt_succ count.toNat_lt
        refine ⟨bound, ?_⟩
        simp only [Fixed.sequence, List.take_of_length_le bound, List.append_assoc, size]
        rw [Nat.toUInt32, UInt32.ofNat_toNat]

end CapabilityGuard.Wire
