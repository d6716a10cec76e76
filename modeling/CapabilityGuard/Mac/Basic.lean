import CapabilityGuard.Key.Basic
import CapabilityGuard.Mac.Blake3
import CapabilityGuard.Wire.Format

/-! Message authentication codes: the keyed hash of a payload. Tokens can be made and checked under
any other function of the key and the payload in the same way. -/
namespace CapabilityGuard

structure Mac where
  octets : Octets 32
deriving DecidableEq

namespace Mac

/-- A way to compute codes. -/
abbrev Scheme := Key → List UInt8 → Mac

def compute (key : Key) (payload : List UInt8) : Mac := ⟨Blake3.hash key.octets payload⟩

def described (mac : Mac) : String := "Mac(" ++ Hex.render mac.octets.toList ++ ")"

def format : Wire.Fixed Mac := (Wire.octets 32).map mk octets

end Mac

end CapabilityGuard
