import CapabilityGuard.Proofs.Wire.Stable

/-! What an input that ends too early is told. The report names the piece that was reached and what was
left for it. With fewer bytes than the piece takes the report is the same, but for what is left, and
with enough of them the reading gets past the place. -/
namespace CapabilityGuard.Wire

variable {α β : Type}

/-- A report that a piece is not all there, as it depends on what is left, and the bytes that the piece
takes. A count announces a piece of `counted` bytes. -/
inductive Shortfall (counted : UInt32 → Nat) : (Nat → Error) → Nat → Prop
  | truncated (needed : Nat) : Shortfall counted (.truncated needed) needed
  | malformedLength (count : UInt32) : Shortfall counted (.malformedLength count) (counted count)

def Error.left? : Error → Option Nat
  | truncated _ left | malformedLength _ left => some left
  | _ => none

/-- What is left where a reading ended, be it behind the value or at a piece that is not all there. -/
def left? : Except Error (α × List UInt8) → Option Nat
  | .ok (_, rest) => some rest.length
  | .error cause => cause.left?

/-- The input ends inside a piece of `needed` bytes, with `left` bytes left for it. -/
structure Lacks (read : List UInt8 → Except Error (α × List UInt8)) (bytes : List UInt8)
    (report : Nat → Error) (needed left : Nat) : Prop where
  left_lt : left < needed
  left_le : left ≤ bytes.length
  again : ∀ more, left + more.length < needed →
    read (bytes ++ more) = .error (report (left + more.length))
  past : ∀ more, needed ≤ left + more.length →
    ∀ left', left? (read (bytes ++ more)) = some left' →
      bytes.length - left < (bytes ++ more).length - left'

/-- A reading that has no more left than it was given, and that reports what it lacks. -/
structure Advances (counted : List UInt8 → UInt32 → Nat)
    (read : List UInt8 → Except Error (α × List UInt8)) : Prop where
  stable : Stable read
  left_le : ∀ bytes left, left? (read bytes) = some left → left ≤ bytes.length
  lacks : ∀ bytes report needed left, Shortfall (counted bytes) report needed →
    read bytes = .error (report left) → Lacks read bytes report needed left

namespace Shortfall

variable {counted : UInt32 → Nat} {report report' : Nat → Error} {needed needed' left left' : Nat}

theorem short (shortfall : Shortfall counted report needed) (left : Nat) : (report left).Short := by
  cases shortfall with
  | truncated => exact .truncated needed left
  | malformedLength count => exact .malformedLength count left

theorem unique (shortfall : Shortfall counted report needed)
    (shortfall' : Shortfall counted report' needed') (same : report left = report' left') :
    report = report' ∧ needed = needed' ∧ left = left' := by
  cases shortfall <;> cases shortfall' <;> cases same <;> exact ⟨rfl, rfl, rfl⟩

end Shortfall

theorem Error.left?_of_long {cause : Error} (long : ¬ cause.Short) : cause.left? = none := by
  cases cause with
  | truncated needed left => exact absurd (.truncated needed left) long
  | malformedLength count left => exact absurd (.malformedLength count left) long
  | _ => rfl

section

variable {read : List UInt8 → Except Error (α × List UInt8)}
  {later : α → List UInt8 → Except Error (β × List UInt8)}
  {whole : List UInt8 → Except Error (β × List UInt8)} {bytes rest : List UInt8} {value : α}
  {report : Nat → Error} {needed left : Nat}

/-- A piece that the first part lacks is one that the whole lacks. -/
theorem Lacks.first (lacks : Lacks read bytes report needed left)
    (steps : ∀ bytes, whole bytes = andThen read later bytes)
    (bound : ∀ value rest left', left? (later value rest) = some left' → left' ≤ rest.length) :
    Lacks whole bytes report needed left where
  left_lt := lacks.left_lt
  left_le := lacks.left_le
  again more few := by rw [steps, andThen_error (lacks.again more few)]
  past more enough left' ended := by
    rw [steps] at ended
    cases outcome : read (bytes ++ more) with
    | error cause =>
      rw [andThen_error outcome] at ended
      exact lacks.past more enough left' (by rw [outcome]; exact ended)
    | ok found =>
      obtain ⟨value, rest⟩ := found
      rw [andThen_ok outcome] at ended
      have behind := lacks.past more enough rest.length (by rw [outcome]; rfl)
      have inside := bound value rest left' ended
      omega

/-- What the part behind one that was read lacks, the whole lacks at the same place. -/
theorem Lacks.second (stable : Stable read) (found : read bytes = .ok (value, rest))
    (shorter : rest.length ≤ bytes.length) (lacks : Lacks (later value) rest report needed left)
    (steps : ∀ bytes, whole bytes = andThen read later bytes) :
    Lacks whole bytes report needed left where
  left_lt := lacks.left_lt
  left_le := Nat.le_trans lacks.left_le shorter
  again more few := by
    rw [steps, andThen_ok (stable.ok_append found more)]
    exact lacks.again more few
  past more enough left' ended := by
    rw [steps, andThen_ok (stable.ok_append found more)] at ended
    have behind := lacks.past more enough left' ended
    have inside := lacks.left_le
    rw [List.length_append] at behind ⊢
    omega

end

/-- What is made of a piece of `needed` bytes that is all there. -/
inductive Whole (needed : Nat) (bytes : List UInt8) : Except Error (α × List UInt8) → Prop
  | read (enough : needed ≤ bytes.length) (value : α) :
      Whole needed bytes (.ok (value, bytes.drop needed))
  | refused {cause : Error} (long : ¬ cause.Short) : Whole needed bytes (.error cause)

namespace Whole

variable {needed left : Nat} {bytes : List UInt8} {outcome : Except Error (α × List UInt8)}

theorem left?_add (whole : Whole needed bytes outcome) (ended : left? outcome = some left) :
    left + needed = bytes.length := by
  cases whole with
  | read enough value =>
    obtain rfl : (bytes.drop needed).length = left := Option.some.inj ended
    rw [List.length_drop]
    omega
  | refused long =>
    rw [left?, Error.left?_of_long long] at ended
    cases ended

theorem long {cause : Error} (whole : Whole needed bytes outcome) (failed : outcome = .error cause) :
    ¬ cause.Short := by
  cases whole with
  | read => cases failed
  | refused long =>
    obtain rfl := Except.error.inj failed
    exact long

end Whole

namespace Advances

variable {counted : List UInt8 → UInt32 → Nat}
  {read : List UInt8 → Except Error (α × List UInt8)}

theorem rest_le (advances : Advances counted read) {bytes rest : List UInt8} {value : α}
    (found : read bytes = .ok (value, rest)) : rest.length ≤ bytes.length :=
  advances.left_le bytes rest.length (by rw [found]; rfl)

theorem next (advances : Advances counted read)
    {later : α → List UInt8 → Except Error (β × List UInt8)}
    {counted' : α → List UInt8 → UInt32 → Nat}
    (advances' : ∀ value, Advances (counted' value) (later value))
    (agree : ∀ bytes value rest, read bytes = .ok (value, rest) →
      counted bytes = counted' value rest)
    {whole : List UInt8 → Except Error (β × List UInt8)}
    (steps : ∀ bytes, whole bytes = andThen read later bytes) : Advances counted whole where
  stable := advances.stable.next (fun value => (advances' value).stable) steps
  left_le bytes left ended := by
    rw [steps] at ended
    cases outcome : read bytes with
    | error cause =>
      rw [andThen_error outcome] at ended
      exact advances.left_le bytes left (by rw [outcome]; exact ended)
    | ok found =>
      obtain ⟨value, rest⟩ := found
      rw [andThen_ok outcome] at ended
      exact Nat.le_trans ((advances' value).left_le rest left ended) (advances.rest_le outcome)
  lacks bytes report needed left shortfall failed := by
    -- What is lacking is lacking in the part whose reading failed.
    rw [steps] at failed
    cases outcome : read bytes with
    | error cause =>
      rw [andThen_error outcome] at failed
      rw [Except.error.inj failed] at outcome
      exact (advances.lacks bytes report needed left shortfall outcome).first steps
        fun value => (advances' value).left_le
    | ok found =>
      obtain ⟨value, rest⟩ := found
      rw [andThen_ok outcome] at failed
      rw [agree bytes value rest outcome] at shortfall
      exact ((advances' value).lacks rest report needed left shortfall failed).second
        advances.stable outcome (advances.rest_le outcome) steps

theorem done (value : α) : Advances counted fun bytes => .ok (value, bytes) where
  stable := .done value
  left_le bytes left ended := by
    obtain rfl : bytes.length = left := Option.some.inj ended
    exact Nat.le_refl _
  lacks _ _ _ _ _ failed := by cases failed

theorem fail {cause : Error} (long : ¬ cause.Short) :
    Advances counted fun _ => (.error cause : Except Error (α × List UInt8)) where
  stable := .fail cause
  left_le bytes left ended := by
    have ended : cause.left? = some left := ended
    rw [Error.left?_of_long long] at ended
    cases ended
  lacks _ _ _ left shortfall failed := by
    obtain rfl := Except.error.inj failed
    exact absurd (shortfall.short left) long

/-- One piece, which is reported when it is not all there and is read or refused as a whole when it
is. -/
theorem piece (stable : Stable read) {report : Nat → Error} {needed : Nat}
    (named : ∀ bytes, Shortfall (counted bytes) report needed)
    (few : ∀ bytes, bytes.length < needed → read bytes = .error (report bytes.length))
    (enough : ∀ bytes, needed ≤ bytes.length → Whole needed bytes (read bytes)) :
    Advances counted read where
  stable := stable
  left_le bytes left ended := by
    rcases Nat.lt_or_ge bytes.length needed with short | long
    · rw [few bytes short] at ended
      have named := named bytes
      cases named <;> cases ended <;> exact Nat.le_refl _
    · have behind := (enough bytes long).left?_add ended
      omega
  lacks bytes report' needed' left shortfall failed := by
    rcases Nat.lt_or_ge bytes.length needed with short | long
    · rw [few bytes short] at failed
      obtain ⟨rfl, rfl, rfl⟩ := (named bytes).unique shortfall (Except.error.inj failed)
      refine ⟨short, Nat.le_refl _, ?_, ?_⟩
      · intro more room
        rw [few (bytes ++ more) (by rwa [List.length_append]), List.length_append]
      · intro more room left' ended
        have long : needed ≤ (bytes ++ more).length := by rwa [List.length_append]
        have behind := (enough (bytes ++ more) long).left?_add ended
        omega
    · exact absurd (shortfall.short left) ((enough bytes long).long failed)

end Advances

theorem octets_of_few {n : Nat} {bytes : List UInt8} (few : bytes.length < n) :
    (octets n).read bytes = .error (.truncated n bytes.length) := by
  have short : ¬ (bytes.take n).length = n := by
    rw [List.length_take]
    omega
  simp only [octets, dif_neg short]

theorem octets_of_enough {n : Nat} {bytes : List UInt8} (enough : n ≤ bytes.length) :
    ∃ value, (octets n).read bytes = .ok (value, bytes.drop n) := by
  have whole : (bytes.take n).length = n := by
    rw [List.length_take]
    omega
  exact ⟨⟨bytes.take n, whole⟩, by simp only [octets, dif_pos whole]⟩

theorem word_of_few {bytes : List UInt8} (few : bytes.length < 4) :
    word.read bytes = .error (.truncated 4 bytes.length) := by
  simp only [word, Fixed.map, Format.map, octets_of_few few]

/-- The number that the first four bytes spell, the most significant one first. -/
def heading (bytes : List UInt8) : Nat := BigEndian.toNat (bytes.take 4)

theorem toNat_heading {bytes : List UInt8} (enough : 4 ≤ bytes.length) :
    (heading bytes).toUInt32.toNat = heading bytes := by
  have bound := BigEndian.toNat_lt (bytes.take 4)
  rw [List.length_take_of_le enough] at bound
  exact UInt32.toNat_ofNat_of_lt bound

theorem word_of_enough {bytes : List UInt8} (enough : 4 ≤ bytes.length) :
    word.read bytes = .ok ((heading bytes).toUInt32, bytes.drop 4) := by
  have whole : (bytes.take 4).length = 4 := List.length_take_of_le enough
  simp only [word, octets, Fixed.map, Format.map, dif_pos whole, Octets.toWord, heading]

theorem octets_advances (n : Nat) (counted : List UInt8 → UInt32 → Nat) :
    Advances counted (octets n).read :=
  .piece (octets_stable n) (fun _ => .truncated n) (fun _ => octets_of_few) fun _ enough => by
    obtain ⟨value, found⟩ := octets_of_enough enough
    exact found ▸ .read enough value

namespace Advances

variable {counted : UInt32 → Nat} {format : Format α}

theorem map (advances : Advances (fun _ => counted) format.read) (make : α → β) (view : β → α) :
    Advances (fun _ => counted) (format.map make view).read :=
  advances.next (fun value => done (make value)) (fun _ _ _ _ => rfl) fun _ => rfl

theorem pair {second : Format β} (advances : Advances (fun _ => counted) format.read)
    (advances' : Advances (fun _ => counted) second.read) :
    Advances (fun _ => counted) (format.pair second).read :=
  advances.next (fun a => advances'.next (fun b => done (a, b)) (fun _ _ _ _ => rfl) fun _ => rfl)
    (fun _ _ _ _ => rfl) fun _ => rfl

theorem alternative (advances : Advances (fun _ => counted) format.read) (wrap : α → β)
    (unwrap? : β → Option α) :
    Advances (fun _ => counted) (format.alternative wrap unwrap?).read :=
  advances.next (fun value => done (wrap value)) (fun _ _ _ _ => rfl) fun _ => rfl

end Advances

theorem word_advances (counted : List UInt8 → UInt32 → Nat) : Advances counted word.read := by
  refine .piece word_stable (fun _ => .truncated 4) ?_ ?_
  · intro bytes few
    exact word_of_few few
  · intro bytes enough
    rw [word_of_enough enough]
    exact .read enough _

theorem tagged_read {tag : α → UInt32} {unknown : UInt32 → Error}
    {body : UInt32 → Option (Format α)} (bytes : List UInt8) :
    (Format.tagged tag unknown body).read bytes =
      andThen word.read (fun code rest =>
        match body code with
        | none => .error (unknown code)
        | some format => format.read rest) bytes := by
  simp only [Format.tagged, andThen]
  cases word.read bytes <;> rfl

namespace Advances

theorem branch {counted : List UInt8 → UInt32 → Nat} {unknown : Error} (long : ¬ unknown.Short)
    {body : Option (Format α)}
    (advances : ∀ format, body = some format → Advances counted format.read) :
    Advances counted fun bytes =>
      match body with
      | none => .error unknown
      | some format => format.read bytes := by
  cases selected : body with
  | none => exact fail long
  | some format => exact advances format selected

/-- What a count announces may depend on the tag. -/
theorem tagged {tag : α → UInt32} {unknown : UInt32 → Error} {body : UInt32 → Option (Format α)}
    {counted : List UInt8 → UInt32 → Nat} (behind : UInt32 → UInt32 → Nat)
    (agree : ∀ bytes code rest, word.read bytes = .ok (code, rest) → counted bytes = behind code)
    (long : ∀ code, ¬ (unknown code).Short)
    (branches : ∀ code format, body code = some format →
      Advances (fun _ => behind code) format.read) :
    Advances counted (Format.tagged tag unknown body).read :=
  (word_advances counted).next (fun code => branch (long code) (branches code)) agree tagged_read

variable {counted : UInt32 → Nat} {format : Format α}

theorem optional (advances : Advances (fun _ => counted) format.read) :
    Advances (fun _ => counted) format.optional.read := by
  refine tagged (fun _ => counted) (fun _ _ _ _ => rfl) (fun _ => nofun) ?_
  intro code branch selected
  split at selected
  · obtain rfl := Option.some.inj selected
    exact done none
  · obtain rfl := Option.some.inj selected
    exact advances.alternative some id
  · cases selected

end Advances

/-- A format of one size reads whatever has that many bytes. -/
def Fixed.Reads (format : Fixed α) : Prop :=
  ∀ bytes, format.size ≤ bytes.length →
    ∃ value, format.read bytes = .ok (value, bytes.drop format.size)

theorem octets_reads (n : Nat) : (octets n).Reads := fun _ => octets_of_enough

namespace Fixed.Reads

variable {format : Fixed α}

theorem map (reads : format.Reads) (make : α → β) (view : β → α) : (format.map make view).Reads := by
  intro bytes enough
  obtain ⟨value, found⟩ := reads bytes enough
  exact ⟨make value, by simp only [Fixed.map, Format.map, found]⟩

theorem pair {second : Fixed β} (reads : format.Reads) (reads' : second.Reads) :
    (format.pair second).Reads := by
  intro bytes enough
  have total : format.size + second.size ≤ bytes.length := enough
  obtain ⟨a, found⟩ := reads bytes (by omega)
  obtain ⟨b, found'⟩ := reads' (bytes.drop format.size) (by rw [List.length_drop]; omega)
  refine ⟨(a, b), ?_⟩
  simp only [Fixed.pair, Format.pair, found, found', List.drop_drop]

theorem readMany (reads : format.Reads) (count : Nat) (earlier : List α) {bytes : List UInt8}
    (enough : count * format.size ≤ bytes.length) :
    ∃ values, format.toFormat.readMany count earlier bytes =
      .ok (values, bytes.drop (count * format.size)) := by
  induction count generalizing earlier bytes with
  | zero => exact ⟨earlier.reverse, by simp [Format.readMany]⟩
  | succ count ih =>
    rw [Nat.succ_mul] at enough ⊢
    obtain ⟨value, found⟩ := reads bytes (by omega)
    have room : count * format.size ≤ (bytes.drop format.size).length := by
      rw [List.length_drop]
      omega
    obtain ⟨values, others⟩ := ih (value :: earlier) room
    rw [List.drop_drop, Nat.add_comm] at others
    exact ⟨values, by simp only [Format.readMany, found, others]⟩

end Fixed.Reads

theorem Fixed.Reads.sequence_advances {format : Fixed α} (reads : format.Reads)
    (stable : Stable format.read) :
    Advances (fun _ count => count.toNat * format.size) format.sequence.read := by
  refine (word_advances _).next (fun count => ?_) (fun _ _ _ _ => rfl) format.sequence_read
  refine .piece (elements_stable stable count) (fun _ => .malformedLength count) ?_ ?_
  · intro bytes few
    exact if_pos few
  · intro bytes enough
    rw [Fixed.elements, if_neg (Nat.not_lt.mpr enough)]
    obtain ⟨values, found⟩ := reads.readMany count.toNat [] enough
    exact found ▸ .read enough values

theorem text_advances :
    Advances (fun _ count => count.toNat + padding count.toNat) text.read := by
  refine (word_advances _).next (fun count => ?_) (fun _ _ _ _ => rfl) text_read
  refine .piece (content_stable count) (fun _ => .malformedLength count) ?_ ?_
  · intro bytes few
    exact if_pos few
  · intro bytes enough
    rw [content, if_neg (Nat.not_lt.mpr enough)]
    split
    next => exact .refused nofun
    next =>
      split
      next => exact .refused nofun
      next value _ => exact .read enough value

end CapabilityGuard.Wire
