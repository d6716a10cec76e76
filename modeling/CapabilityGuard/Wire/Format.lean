import CapabilityGuard.Octets.BigEndian
import CapabilityGuard.Wire.Error

/-! Record layouts on the wire. A format says in one place how a value is written and how it is
read back from the front of a byte string, and larger formats are put together from smaller
ones, so writer and reader cannot name their fields in different orders. -/
namespace CapabilityGuard.Wire

structure Format (α : Type) where
  write : α → List UInt8
  read : List UInt8 → Except Error (α × List UInt8)

/-- A format whose values all take `size` bytes. -/
structure Fixed (α : Type) extends Format α where
  size : Nat

variable {α β : Type}

namespace Format

/-- Reads one value that takes all the bytes. -/
def readAll (format : Format α) (bytes : List UInt8) : Except Error α :=
  match format.read bytes with
  | .error e => .error e
  | .ok (value, []) => .ok value
  | .ok (_, rest) => .error (.trailingBytes rest.length)

/-- The same layout for a type whose values are those of `α` under another name. -/
def map (format : Format α) (make : α → β) (view : β → α) : Format β where
  write value := format.write (view value)
  read bytes :=
    match format.read bytes with
    | .error e => .error e
    | .ok (value, rest) => .ok (make value, rest)

def pair (first : Format α) (second : Format β) : Format (α × β) where
  write value := first.write value.1 ++ second.write value.2
  read bytes :=
    match first.read bytes with
    | .error e => .error e
    | .ok (a, rest) =>
      match second.read rest with
      | .error e => .error e
      | .ok (b, rest) => .ok ((a, b), rest)

/-- One value that takes no bytes. -/
def constant (value : α) : Format α where
  write _ := []
  read bytes := .ok (value, bytes)

/-- The layout of those values of `β` that `wrap` builds; `unwrap?` recognises them. -/
def alternative (format : Format α) (wrap : α → β) (unwrap? : β → Option α) : Format β where
  write value := (unwrap? value).elim [] format.write
  read bytes :=
    match format.read bytes with
    | .error e => .error e
    | .ok (value, rest) => .ok (wrap value, rest)

end Format

/-- Exactly `n` bytes, as they are. -/
def octets (n : Nat) : Fixed (Octets n) where
  write value := value.toList
  read bytes :=
    if enough : (bytes.take n).length = n then .ok (⟨bytes.take n, enough⟩, bytes.drop n)
    else .error (.truncated n bytes.length)
  size := n

def Fixed.map (format : Fixed α) (make : α → β) (view : β → α) : Fixed β where
  toFormat := format.toFormat.map make view
  size := format.size

def Fixed.pair (first : Fixed α) (second : Fixed β) : Fixed (α × β) where
  toFormat := first.toFormat.pair second.toFormat
  size := first.size + second.size

def word : Fixed UInt32 := (octets 4).map Octets.toWord Octets.ofWord

def hyper : Fixed UInt64 := (octets 8).map Octets.toHyper Octets.ofHyper

/-- A word that selects the layout of what follows it. -/
def Format.tagged (tag : α → UInt32) (unknown : UInt32 → Error)
    (body : UInt32 → Option (Format α)) : Format α where
  write value := word.write (tag value) ++ (body (tag value)).elim [] (fun f => f.write value)
  read bytes :=
    match word.read bytes with
    | .error e => .error e
    | .ok (code, rest) =>
      match body code with
      | none => .error (unknown code)
      | some format => format.read rest

/-- Tag 0 for nothing, tag 1 before a value. -/
def Format.optional (format : Format α) : Format (Option α) :=
  .tagged (fun value => if value.isSome then 1 else 0) .invalidPresenceTag fun
    | 0 => some (.constant none)
    | 1 => some (format.alternative some id)
    | _ => none

/-- The largest number of elements or bytes that a count word can announce. -/
def maxCount : Nat := 4294967295

/-- Reads `count` values and returns them behind those already read, which come last first. -/
def Format.readMany (format : Format α) :
    Nat → List α → List UInt8 → Except Error (List α × List UInt8)
  | 0, earlier, bytes => .ok (earlier.reverse, bytes)
  | count + 1, earlier, bytes =>
    match format.read bytes with
    | .error e => .error e
    | .ok (value, rest) => format.readMany count (value :: earlier) rest

/-- A count word and that many elements. The count is held against what is left before any
element is read. Elements beyond the largest count are not written. -/
def Fixed.sequence (format : Fixed α) : Format (List α) where
  write values :=
    let written := values.take maxCount
    word.write written.length.toUInt32 ++ written.flatMap format.write
  read bytes :=
    match word.read bytes with
    | .error e => .error e
    | .ok (count, rest) =>
      let left := rest.length
      if left < count.toNat * format.size then .error (.malformedLength count left)
      else format.toFormat.readMany count.toNat [] rest

end CapabilityGuard.Wire
