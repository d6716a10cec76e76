import CapabilityGuard.Identifiers
import CapabilityGuard.Mac.Basic

/-! Where new keys and ids come from. The platform is a stream of blocks. The self-seeding
source takes its first seed from the platform and replaces its seed by its own output before
every key. -/
namespace CapabilityGuard

/-- Block `i` of the stream is the keyed hash of `i` under the seed. -/
structure Stream where
  seed : Octets 32
  drawn : Nat := 0

def Stream.next (stream : Stream) : Octets 32 × Stream :=
  (Blake3.hash stream.seed (BigEndian.ofNat 8 stream.drawn),
    { stream with drawn := stream.drawn + 1 })

inductive KeySource
  | platform
  | selfSeeding
deriving DecidableEq

def KeySource.name : KeySource → String
  | .platform => "os"
  | .selfSeeding => "legacy_self_seed"

def KeySource.ofName? (name : String) : Option KeySource :=
  if name = KeySource.platform.name then some .platform
  else if name = KeySource.selfSeeding.name then some .selfSeeding
  else none

/-- The platform's stream and, once it has been used, the self-seeding one. -/
structure Entropy where
  platform : Stream
  selfSeeding : Option Stream := none

namespace Entropy

def selfSeeded (entropy : Entropy) : Bool := entropy.selfSeeding.isSome

def key (entropy : Entropy) : KeySource → Key × Entropy
  | .platform =>
    let (octets, platform) := entropy.platform.next
    (⟨octets⟩, { entropy with platform })
  | .selfSeeding =>
    let (own, entropy) := match entropy.selfSeeding with
      | some own => (own, entropy)
      | none =>
        let (seed, platform) := entropy.platform.next
        ({ seed }, { entropy with platform })
    let reseeded : Stream := { seed := own.next.1 }
    let (octets, own) := reseeded.next
    (⟨octets⟩, { entropy with selfSeeding := some own })

def containerId (entropy : Entropy) : ContainerId × Entropy :=
  let (octets, platform) := entropy.platform.next
  (⟨Octets.front (m := 16) (n := 16) octets⟩, { entropy with platform })

end Entropy

end CapabilityGuard
