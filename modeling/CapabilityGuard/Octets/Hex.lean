import CapabilityGuard.Octets.Basic
import CapabilityGuard.Text.Digit

/-! Bytes as hexadecimal text. Rendering writes two lower-case digits a byte; reading takes
either case and names the first thing that is wrong: an odd number of bytes, another length
than asked for, or a byte that is no digit. -/
namespace CapabilityGuard.Hex

inductive Error
  | oddLength
  | wrongLength
  | invalidCharacter (byte : UInt8) (position : Nat)
deriving DecidableEq

/-- The character between single quotes. Control characters are escaped, and so are the quote
and the backslash. -/
def quoted (c : Char) : String :=
  let body :=
    if c = '\x00' then "\\0" else if c = '\t' then "\\t" else if c = '\n' then "\\n"
    else if c = '\r' then "\\r" else if c = '\'' then "\\'" else if c = '\\' then "\\\\"
    else if c.toNat < 32 ∨ (127 ≤ c.toNat ∧ c.toNat < 160) then
      "\\u\x7b" ++ String.ofList (Nat.toDigits 16 c.toNat) ++ "\x7d"
    else String.singleton c
  "'" ++ body ++ "'"

def Error.message : Error → String
  | .oddLength => "Odd number of digits"
  | .wrongLength => "Invalid string length"
  | .invalidCharacter byte position =>
    "Invalid character " ++ quoted (Char.ofNat byte.toNat) ++ " at position " ++ toString position

def render (bytes : List UInt8) : String :=
  String.ofList (bytes.flatMap fun byte =>
    [Digit.ofValue (byte.toNat / 16), Digit.ofValue (byte.toNat % 16)])

/-- The value of a digit that is one byte of a text. -/
def digitAt (position : Nat) (byte : UInt8) : Except Error Nat :=
  match Digit.value? (Char.ofNat byte.toNat) with
  | some value => .ok value
  | none => .error (.invalidCharacter byte position)

/-- The bytes spelled by pairs of digits, the first of which stands at `position`. -/
def pairs : Nat → List UInt8 → Except Error (List UInt8)
  | position, high :: low :: rest =>
    match digitAt position high, digitAt (position + 1) low, pairs (position + 2) rest with
    | .ok h, .ok l, .ok bytes => .ok ((16 * h + l).toUInt8 :: bytes)
    | .error e, _, _ => .error e
    | _, .error e, _ => .error e
    | _, _, .error e => .error e
  | _, _ => .ok []

theorem length_pairs {position : Nat} {text bytes : List UInt8}
    (read : pairs position text = .ok bytes) : bytes.length = text.length / 2 := by
  fun_induction pairs position text generalizing bytes with
  | case1 position high low rest h l tail restOk _ _ ih =>
    obtain rfl := Except.ok.inj read
    simp [ih restOk]; omega
  | case2 => simp at read
  | case3 => simp at read
  | case4 => simp at read
  | case5 text position short =>
    obtain rfl := Except.ok.inj read
    rcases text with _ | ⟨high, _ | ⟨low, rest⟩⟩
    · simp
    · simp
    · exact absurd rfl (short high low rest)

def decode (n : Nat) (text : String) : Except Error (Octets n) :=
  let spelled := text.toUTF8.data.toList
  if spelled.length % 2 = 1 then .error .oddLength
  else if size : spelled.length ≠ 2 * n then .error .wrongLength
  else match read : pairs 0 spelled with
    | .error e => .error e
    | .ok bytes => .ok ⟨bytes, by have := length_pairs read; omega⟩

end CapabilityGuard.Hex
