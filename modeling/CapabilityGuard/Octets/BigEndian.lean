import CapabilityGuard.Octets.Basic

/-! Numbers as bytes, the most significant first. A word takes four bytes and a hyper eight;
each byte string of that length is the spelling of exactly one number. -/
namespace CapabilityGuard

namespace BigEndian

def toNat (bytes : List UInt8) : Nat :=
  bytes.foldl (fun value byte => 256 * value + byte.toNat) 0

/-- The low `count` bytes of a number. -/
def ofNat : Nat → Nat → List UInt8
  | 0, _ => []
  | count + 1, value => ofNat count (value / 256) ++ [value.toUInt8]

@[simp] theorem length_ofNat (count value : Nat) : (ofNat count value).length = count := by
  induction count generalizing value with
  | zero => rfl
  | succ count ih => simp [ofNat, ih]

end BigEndian

namespace Octets

def ofWord (value : UInt32) : Octets 4 := ⟨BigEndian.ofNat 4 value.toNat, by simp⟩

def toWord (o : Octets 4) : UInt32 := (BigEndian.toNat o.toList).toUInt32

def ofHyper (value : UInt64) : Octets 8 := ⟨BigEndian.ofNat 8 value.toNat, by simp⟩

def toHyper (o : Octets 8) : UInt64 := (BigEndian.toNat o.toList).toUInt64

end Octets

end CapabilityGuard
