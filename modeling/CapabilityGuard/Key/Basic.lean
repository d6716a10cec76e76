import CapabilityGuard.Octets.Hex

/-! The secret that an authority shares with whoever verifies its tokens. It is read from
hexadecimal text, with or without a marker in front, and never shown. -/
namespace CapabilityGuard

structure Key where
  octets : Octets 32
deriving DecidableEq

namespace Key

inductive Error
  | invalidHex
  | wrongSize (actual : Nat)
deriving DecidableEq

def Error.message : Error → String
  | .invalidHex => "key error: key hex decode error"
  | .wrongSize actual => s!"key error: invalid key size, expected 32, got {actual}"

def ofBytes (bytes : List UInt8) : Except Error Key :=
  match Octets.ofList? 32 bytes with
  | some octets => .ok ⟨octets⟩
  | none => .error (.wrongSize bytes.length)

/-- The text without one leading marker. -/
def unmarked (text : String) : String :=
  match text.toList with
  | '0' :: 'x' :: digits => String.ofList digits
  | _ => text

def ofHex (text : String) : Except Error Key :=
  match Hex.decode 32 (unmarked text) with
  | .ok octets => .ok ⟨octets⟩
  | .error _ => .error .invalidHex

def hex (key : Key) : String := Hex.render key.octets.toList

def described (_ : Key) : String := "Key(..)"

end Key

end CapabilityGuard
