import CapabilityGuard.Wire.Format

/-! Text on the wire: a word with the number of bytes, the UTF-8 bytes, and zero bytes up to the
next multiple of four. -/
namespace CapabilityGuard.Wire

/-- How many bytes lead from `size` to a multiple of four. -/
def padding (size : Nat) : Nat := (4 - size % 4) % 4

theorem add_padding (size : Nat) : size + padding size = (size + 3) / 4 * 4 := by
  unfold padding
  omega

/-- The characters from the front whose UTF-8 bytes are at most `limit` together. -/
def leading : Nat → List Char → List Char
  | _, [] => []
  | limit, c :: rest => if c.utf8Size ≤ limit then c :: leading (limit - c.utf8Size) rest else []

/-- The longest start of a text that has at most `limit` bytes. -/
def clip (limit : Nat) (text : String) : String :=
  if text.utf8ByteSize ≤ limit then text else String.ofList (leading limit text.toList)

def text : Format String where
  write value :=
    let bytes := (clip maxCount value).toUTF8.data.toList
    word.write bytes.length.toUInt32 ++ bytes ++ List.replicate (padding bytes.length) 0
  read bytes :=
    match word.read bytes with
    | .error e => .error e
    | .ok (count, rest) =>
      let size := count.toNat
      if rest.length < size + padding size then .error (.malformedLength count rest.length)
      else if ((rest.drop size).take (padding size)).any (· != 0) then .error .nonZeroPadding
      else
        match String.fromUTF8? ⟨(rest.take size).toArray⟩ with
        | none => .error .invalidString
        | some value => .ok (value, rest.drop (size + padding size))

end CapabilityGuard.Wire
