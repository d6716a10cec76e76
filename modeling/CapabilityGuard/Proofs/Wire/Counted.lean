import CapabilityGuard.Proofs.Wire.Shortfall

/-! Sequences of elements that all take the same number of bytes. A count is let through exactly when
its elements are all there, so that none of them fails once they are being read, and no list is built
that is longer than the input has room for. -/
namespace CapabilityGuard.Wire

variable {α : Type}

/-- What is made of bytes in the place of a sequence whose elements take `size` bytes each. -/
inductive Counted (format : Fixed α) (size : Nat) (bytes : List UInt8) :
    Except Error (List α × List UInt8) → Prop
  | truncated (few : bytes.length < 4) :
      Counted format size bytes (.error (.truncated 4 bytes.length))
  | overrun (counted : 4 ≤ bytes.length) (few : bytes.length - 4 < heading bytes * size) :
      Counted format size bytes
        (.error (.malformedLength (heading bytes).toUInt32 (bytes.length - 4)))
  | read (counted : 4 ≤ bytes.length) (room : heading bytes * size ≤ bytes.length - 4)
      (values : List α) (length_eq : values.length = heading bytes)
      (spelled : values.flatMap format.write = (bytes.drop 4).take (heading bytes * size)) :
      Counted format size bytes (.ok (values, bytes.drop (4 + heading bytes * size)))

/-- The lists that are built while a sequence is read, the last element first, with the number of
elements still to come and the bytes left for them. -/
inductive Fixed.Builds (format : Fixed α) (bytes : List UInt8) : Nat → List α → List UInt8 → Prop
  | start {count : UInt32} {rest : List UInt8} (counted : word.read bytes = .ok (count, rest))
      (fits : ¬ rest.length < count.toNat * format.size) :
      Builds format bytes count.toNat [] rest
  | next {left : Nat} {earlier : List α} {rest rest' : List UInt8} {value : α}
      (built : Builds format bytes (left + 1) earlier rest)
      (found : format.read rest = .ok (value, rest')) :
      Builds format bytes left (value :: earlier) rest'

/-- Each element takes `size` bytes and fails only where there are fewer. -/
structure Fixed.Uniform (format : Fixed α) (size : Nat) : Prop where
  length_write : ∀ value, (format.write value).length = size
  read_of_enough : ∀ bytes, size ≤ bytes.length →
    ∃ value, format.read bytes = .ok (value, bytes.drop size)
  fails_of_few : ∀ bytes, bytes.length < size → ∃ cause, format.read bytes = .error cause
  sequence_eq_iff : ∀ bytes outcome,
    format.sequence.read bytes = outcome ↔ Counted format size bytes outcome
  built : ∀ bytes left earlier rest, format.Builds bytes left earlier rest →
    format.sequence.read bytes = format.toFormat.readMany left earlier rest ∧
      earlier.length ≤ (bytes.length - 4) / size ∧
      (0 < left → ∃ value rest', format.read rest = .ok (value, rest'))

section

variable {format : Fixed α} {bytes : List UInt8}

theorem sequence_of_few (few : bytes.length < 4) :
    format.sequence.read bytes = .error (.truncated 4 bytes.length) := by
  rw [Fixed.sequence_read, andThen_error (word_of_few few)]

theorem sequence_of_counted (counted : 4 ≤ bytes.length) :
    format.sequence.read bytes = format.elements (heading bytes).toUInt32 (bytes.drop 4) := by
  rw [Fixed.sequence_read, andThen_ok (word_of_enough counted)]

theorem sequence_of_overrun (counted : 4 ≤ bytes.length)
    (few : bytes.length - 4 < heading bytes * format.size) : format.sequence.read bytes =
      .error (.malformedLength (heading bytes).toUInt32 (bytes.length - 4)) := by
  rw [sequence_of_counted counted, Fixed.elements, toNat_heading counted, List.length_drop,
    if_pos few]

theorem sequence_of_room (counted : 4 ≤ bytes.length)
    (room : heading bytes * format.size ≤ bytes.length - 4) : format.sequence.read bytes =
      format.toFormat.readMany (heading bytes) [] (bytes.drop 4) := by
  rw [sequence_of_counted counted, Fixed.elements, toNat_heading counted, List.length_drop,
    if_neg (Nat.not_lt.mpr room)]

theorem counted_of_room (exact : format.Exact) (reads : format.Reads) (counted : 4 ≤ bytes.length)
    (room : heading bytes * format.size ≤ bytes.length - 4) :
    Counted format format.size bytes (format.sequence.read bytes) := by
  have all : heading bytes * format.size ≤ (bytes.drop 4).length := by rwa [List.length_drop]
  obtain ⟨values, found⟩ := reads.readMany (heading bytes) [] all
  rw [sequence_of_room counted room, found, List.drop_drop]
  obtain ⟨_, rfl, size, _, written⟩ := exact.toExact.write_readMany _ _ _ _ _ found
  refine .read counted room _ size ?_
  have length : (values.flatMap format.write).length = heading bytes * format.size := by
    rw [exact.length_flatMap, size]
  rw [written, List.take_left' length]

theorem sequence_eq_iff (exact : format.Exact) (reads : format.Reads)
    (outcome : Except Error (List α × List UInt8)) :
    format.sequence.read bytes = outcome ↔ Counted format format.size bytes outcome := by
  constructor
  · rintro rfl
    rcases Nat.lt_or_ge bytes.length 4 with few | counted
    · exact sequence_of_few few ▸ .truncated few
    rcases Nat.lt_or_ge (bytes.length - 4) (heading bytes * format.size) with few | room
    · exact sequence_of_overrun counted few ▸ .overrun counted few
    · exact counted_of_room exact reads counted room
  · intro counts
    cases counts with
    | truncated few => exact sequence_of_few few
    | overrun counted few => exact sequence_of_overrun counted few
    | read counted room values length_eq spelled =>
      have read := exact.toExact.readMany_write values []
        ((bytes.drop 4).drop (heading bytes * format.size)) fun _ _ => trivial
      rw [spelled, List.take_append_drop, List.drop_drop, length_eq] at read
      exact (sequence_of_room counted room).trans read

end

namespace Fixed.Builds

variable {format : Fixed α} {bytes rest : List UInt8} {left : Nat} {earlier : List α}

/-- What is built is what the reading has got to. -/
theorem sequence_read (built : format.Builds bytes left earlier rest) :
    format.sequence.read bytes = format.toFormat.readMany left earlier rest := by
  induction built with
  | start counted fits =>
    rw [Fixed.sequence_read, andThen_ok counted, Fixed.elements, if_neg fits]
  | next built found ih => rw [ih, Format.readMany, found]

/-- The elements still to come are all there, and those that were read were there too. -/
theorem room (reads : format.Reads) (built : format.Builds bytes left earlier rest) :
    left * format.size ≤ rest.length ∧
      earlier.length * format.size + rest.length ≤ bytes.length - 4 := by
  induction built with
  | @start count rest counted fits =>
    obtain ⟨_, rfl⟩ := word_exact.write_read _ _ _ counted
    refine ⟨Nat.not_lt.mp fits, ?_⟩
    rw [List.length_append, length_word, List.length_nil]
    omega
  | @next left earlier rest rest' value built found ih =>
    obtain ⟨room, used⟩ := ih
    rw [Nat.succ_mul] at room
    obtain ⟨_, found'⟩ := reads rest (by omega)
    obtain ⟨_, rfl⟩ := Prod.mk.inj (Except.ok.inj (found.symm.trans found'))
    rw [List.length_drop, List.length_cons, Nat.succ_mul]
    omega

end Fixed.Builds

theorem Fixed.Exact.uniform {format : Fixed α} (exact : format.Exact) (reads : format.Reads)
    (sized : 0 < format.size) : format.Uniform format.size where
  length_write := exact.length_write
  read_of_enough := reads
  fails_of_few bytes few := by
    cases outcome : format.read bytes with
    | error cause => exact ⟨cause, rfl⟩
    | ok found =>
      obtain ⟨_, rfl⟩ := exact.write_read _ _ _ outcome
      rw [List.length_append, exact.length_write] at few
      omega
  sequence_eq_iff _ := sequence_eq_iff exact reads
  built bytes left earlier rest built := by
    obtain ⟨room, used⟩ := built.room reads
    refine ⟨built.sequence_read, ?_, ?_⟩
    · rw [Nat.le_div_iff_mul_le sized]
      omega
    · intro more
      have enough : format.size ≤ rest.length :=
        Nat.le_trans (Nat.le_mul_of_pos_left _ more) room
      obtain ⟨value, found⟩ := reads rest enough
      exact ⟨value, _, found⟩

end CapabilityGuard.Wire
