import CapabilityGuard.Proofs.Wire.Exact
import CapabilityGuard.Wire.Text

/-! What is read from an input does not depend on bytes behind it. More of them change what is left
and nothing else, unless the input ended too early, so no record is cut short unnoticed. -/
namespace CapabilityGuard.Wire

/-- The input ends before the record does. -/
inductive Error.Short : Error → Prop
  | truncated (needed remaining : Nat) : Short (.truncated needed remaining)
  | malformedLength (count : UInt32) (remaining : Nat) : Short (.malformedLength count remaining)

variable {α β : Type}

/-- A value that was read, and more bytes behind those left. -/
def extend (more : List UInt8) (found : α × List UInt8) : α × List UInt8 :=
  (found.1, found.2 ++ more)

/-- One piece is read, and then another that may depend on it. -/
def andThen (read : List UInt8 → Except Error (α × List UInt8))
    (later : α → List UInt8 → Except Error (β × List UInt8)) (bytes : List UInt8) :
    Except Error (β × List UInt8) :=
  match read bytes with
  | .error cause => .error cause
  | .ok (value, rest) => later value rest

section

variable {read : List UInt8 → Except Error (α × List UInt8)}
  {later : α → List UInt8 → Except Error (β × List UInt8)} {bytes rest : List UInt8}

theorem andThen_ok {value : α} (found : read bytes = .ok (value, rest)) :
    andThen read later bytes = later value rest := by
  simp only [andThen, found]

theorem andThen_error {cause : Error} (failed : read bytes = .error cause) :
    andThen read later bytes = .error cause := by
  simp only [andThen, failed]

end

/-- Either an input is short, or a longer one is read in the same way. -/
def Stable (read : List UInt8 → Except Error (α × List UInt8)) : Prop :=
  ∀ bytes more, (∃ cause, read bytes = .error cause ∧ cause.Short) ∨
    read (bytes ++ more) = (read bytes).map (extend more)

namespace Stable

variable {read : List UInt8 → Except Error (α × List UInt8)} {bytes rest : List UInt8}

theorem ok_append (stable : Stable read) {value : α} (found : read bytes = .ok (value, rest))
    (more : List UInt8) : read (bytes ++ more) = .ok (value, rest ++ more) := by
  rcases stable bytes more with ⟨cause, failed, _⟩ | same
  · rw [found] at failed
    cases failed
  · rw [same, found]
    rfl

theorem error_append (stable : Stable read) {cause : Error} (failed : read bytes = .error cause)
    (long : ¬ cause.Short) (more : List UInt8) : read (bytes ++ more) = .error cause := by
  rcases stable bytes more with ⟨other, failed', short⟩ | same
  · obtain rfl := Except.error.inj (failed.symm.trans failed')
    exact absurd short long
  · rw [same, failed]
    rfl

theorem done (value : α) : Stable fun bytes => .ok (value, bytes) := fun _ _ => .inr rfl

theorem fail (cause : Error) : Stable fun _ => (.error cause : Except Error (α × List UInt8)) :=
  fun _ _ => .inr rfl

theorem next (stable : Stable read) {later : α → List UInt8 → Except Error (β × List UInt8)}
    (stable' : ∀ value, Stable (later value)) {whole : List UInt8 → Except Error (β × List UInt8)}
    (steps : ∀ bytes, whole bytes = andThen read later bytes) : Stable whole := by
  intro bytes more
  simp only [steps, andThen]
  rcases stable bytes more with ⟨cause, failed, short⟩ | same
  · exact .inl ⟨cause, by simp only [failed], short⟩
  · simp only [same]
    cases read bytes with
    | error cause => exact .inr rfl
    | ok found => exact stable' found.1 found.2 more

/-- What follows a count is read when the input is as long as the count says. -/
theorem counted (count : UInt32) {needed : Nat}
    (enough : ∀ bytes more, needed ≤ bytes.length →
      (∃ cause, read bytes = .error cause ∧ cause.Short) ∨
        read (bytes ++ more) = (read bytes).map (extend more)) :
    Stable fun bytes =>
      if bytes.length < needed then .error (.malformedLength count bytes.length)
      else read bytes := by
  intro bytes more
  by_cases few : bytes.length < needed
  · exact .inl ⟨_, if_pos few, .malformedLength count bytes.length⟩
  · have many : ¬ (bytes ++ more).length < needed := by
      rw [List.length_append]
      omega
    simp only [if_neg few, if_neg many]
    exact enough bytes more (Nat.not_lt.mp few)

end Stable

theorem octets_stable (n : Nat) : Stable (octets n).read := by
  intro bytes more
  cases found : (octets n).read bytes with
  | error cause =>
    refine .inl ⟨cause, rfl, ?_⟩
    simp only [octets] at found
    split at found
    next enough => cases found
    next few =>
      obtain rfl := Except.error.inj found
      exact .truncated n bytes.length
  | ok found' =>
    obtain ⟨_, rfl⟩ := (octets_exact n).write_read _ _ _ found
    refine .inr ?_
    rw [List.append_assoc]
    exact (octets_exact n).read_write _ _ trivial

theorem word_stable : Stable word.read :=
  (octets_stable 4).next (fun octets => .done octets.toWord) fun _ => rfl

theorem Stable.readMany {format : Format α} (stable : Stable format.read) (count : Nat)
    (earlier : List α) : Stable (format.readMany count earlier) := by
  induction count generalizing earlier with
  | zero => exact done earlier.reverse
  | succ count ih => exact stable.next (fun value => ih (value :: earlier)) fun _ => rfl

/-- What stands behind the count of a sequence. -/
def Fixed.elements (format : Fixed α) (count : UInt32) (bytes : List UInt8) :
    Except Error (List α × List UInt8) :=
  if bytes.length < count.toNat * format.size then .error (.malformedLength count bytes.length)
  else format.toFormat.readMany count.toNat [] bytes

theorem Fixed.sequence_read (format : Fixed α) (bytes : List UInt8) :
    format.sequence.read bytes = andThen word.read format.elements bytes := by
  simp only [Fixed.sequence, andThen]
  cases word.read bytes <;> rfl

theorem elements_stable {format : Fixed α} (stable : Stable format.read) (count : UInt32) :
    Stable (format.elements count) :=
  .counted count fun bytes more _ => stable.readMany count.toNat [] bytes more

/-- What stands behind the count of a text. -/
def content (count : UInt32) (bytes : List UInt8) : Except Error (String × List UInt8) :=
  if bytes.length < count.toNat + padding count.toNat then
    .error (.malformedLength count bytes.length)
  else if ((bytes.drop count.toNat).take (padding count.toNat)).any (· != 0) then
    .error .nonZeroPadding
  else
    match String.fromUTF8? ⟨(bytes.take count.toNat).toArray⟩ with
    | none => .error .invalidString
    | some value => .ok (value, bytes.drop (count.toNat + padding count.toNat))

theorem text_read (bytes : List UInt8) : text.read bytes = andThen word.read content bytes := by
  simp only [text, andThen]
  cases word.read bytes <;> rfl

/-- The bytes of a text and its padding are all there when their number is. -/
theorem content_stable (count : UInt32) : Stable (content count) := by
  refine .counted count fun bytes more room => .inr ?_
  have spelled : (bytes ++ more).take count.toNat = bytes.take count.toNat :=
    List.take_append_of_le_length (by omega)
  have padded : ((bytes ++ more).drop count.toNat).take (padding count.toNat) =
      (bytes.drop count.toNat).take (padding count.toNat) := by
    rw [List.drop_append_of_le_length (by omega),
      List.take_append_of_le_length (by rw [List.length_drop]; omega)]
  simp only [spelled, padded, List.drop_append_of_le_length room]
  split
  next => rfl
  next => cases String.fromUTF8? ⟨(bytes.take count.toNat).toArray⟩ <;> rfl

theorem Stable.readAll_short {format : Format α} (stable : Stable format.read)
    {bytes more : List UInt8} {value : α} (whole : format.readAll (bytes ++ more) = .ok value)
    (cut : more ≠ []) : ∃ cause, format.readAll bytes = .error cause ∧ cause.Short := by
  rcases stable bytes more with ⟨cause, failed, short⟩ | same
  · exact ⟨cause, by simp [Format.readAll, failed], short⟩
  · -- What was cut off would be left behind the record.
    cases found : format.read bytes with
    | error cause => simp [Format.readAll, same, found, Except.map] at whole
    | ok found' =>
      have left : found'.2 ++ more ≠ [] := by simp [cut]
      obtain ⟨byte, tail, left⟩ := List.exists_cons_of_ne_nil left
      simp [Format.readAll, same, found, Except.map, extend, left] at whole

/-- What a longer input does not change, and that a record which was cut is refused for it. -/
structure Format.CutSafe (format : Format α) : Prop where
  ok_append : ∀ bytes more value rest, format.read bytes = .ok (value, rest) →
    format.read (bytes ++ more) = .ok (value, rest ++ more)
  error_append : ∀ bytes more cause, format.read bytes = .error cause → ¬ cause.Short →
    format.read (bytes ++ more) = .error cause
  cut_short : ∀ whole value, format.readAll whole = .ok value →
    ∀ part, part <+: whole → part ≠ whole →
      ∃ cause, format.readAll part = .error cause ∧ cause.Short

theorem Stable.cutSafe {format : Format α} (stable : Stable format.read) : format.CutSafe where
  ok_append _ more _ _ found := stable.ok_append found more
  error_append _ more _ failed long := stable.error_append failed long more
  cut_short whole value accepted part below different := by
    obtain ⟨more, rfl⟩ := below
    exact stable.readAll_short accepted fun none => different (by rw [none, List.append_nil])

end CapabilityGuard.Wire
