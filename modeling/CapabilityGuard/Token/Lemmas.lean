import CapabilityGuard.Octets.Lemmas
import CapabilityGuard.Token.Capability
import CapabilityGuard.Token.Credential

/-! A payload spells every field of a token: the data and the payload determine each other. -/
namespace CapabilityGuard

namespace CapabilityData

@[simp] theorem ofPayload_payload (data : CapabilityData) : ofPayload data.payload = data := by
  unfold ofPayload payload
  rw [Octets.front_append, Octets.back_append, Octets.front_append, Octets.back_append,
    Octets.toWord_ofWord, Octets.toHyper_ofHyper]

@[simp] theorem payload_ofPayload (octets : Octets (16 + (4 + 8))) :
    (ofPayload octets).payload = octets := by
  unfold ofPayload payload
  rw [Octets.ofWord_toWord, Octets.ofHyper_toHyper, Octets.front_append_back,
    Octets.front_append_back]

end CapabilityData

namespace CredentialData

@[simp] theorem ofPayload_payload (data : CredentialData) : ofPayload data.payload = data := by
  unfold ofPayload payload
  rw [Octets.front_append, Octets.back_append, Octets.toHyper_ofHyper]

@[simp] theorem payload_ofPayload (octets : Octets (8 + 24)) :
    (ofPayload octets).payload = octets := by
  unfold ofPayload payload
  rw [Octets.ofHyper_toHyper, Octets.front_append_back]

end CredentialData

end CapabilityGuard
