import CapabilityGuard.Identifiers
import CapabilityGuard.Mac.Basic

/-! Credentials say who somebody is. A credential carries the code of its payload under the key
that issued it, and the payload spells every field. -/
namespace CapabilityGuard

structure CredentialData where
  uid : Uid
  context : Octets 24
deriving DecidableEq

namespace CredentialData

def payload (data : CredentialData) : Octets (8 + 24) :=
  Octets.ofHyper data.uid.value ++ data.context

def ofPayload (octets : Octets (8 + 24)) : CredentialData := ⟨⟨octets.front.toHyper⟩, octets.back⟩

def format : Wire.Fixed CredentialData := (Wire.octets (8 + 24)).map ofPayload payload

end CredentialData

structure Credential where
  data : CredentialData
  mac : Mac
deriving DecidableEq

namespace Credential

@[simp] def issueWith (scheme : Mac.Scheme) (key : Key) (data : CredentialData) : Credential :=
  ⟨data, scheme key data.payload.toList⟩

@[simp] def verifiesWith (scheme : Mac.Scheme) (key : Key) (cred : Credential) : Bool :=
  cred.mac = scheme key cred.data.payload.toList

def issue (key : Key) (data : CredentialData) : Credential := issueWith Mac.compute key data

def verifies (key : Key) (cred : Credential) : Bool := cred.verifiesWith Mac.compute key

def format : Wire.Fixed Credential :=
  (CredentialData.format.pair Mac.format).map (fun (data, mac) => ⟨data, mac⟩)
    (fun cred => (cred.data, cred.mac))

end Credential

end CapabilityGuard
