import CapabilityGuard.Identifiers
import CapabilityGuard.Mac.Basic

/-! Capabilities say what their holder may do on a container. A capability carries the code of its
payload under the key that issued it, and the payload spells every field. -/
namespace CapabilityGuard

structure CapabilityData where
  cid : ContainerId
  op : Operation
  holder : Uid
deriving DecidableEq

namespace CapabilityData

def payload (data : CapabilityData) : Octets (16 + (4 + 8)) :=
  data.cid.octets ++ (Octets.ofWord data.op.code ++ Octets.ofHyper data.holder.value)

def ofPayload (octets : Octets (16 + (4 + 8))) : CapabilityData :=
  ⟨⟨octets.front⟩, ⟨octets.back.front.toWord⟩, ⟨octets.back.back.toHyper⟩⟩

def format : Wire.Fixed CapabilityData := (Wire.octets (16 + (4 + 8))).map ofPayload payload

end CapabilityData

structure Capability where
  data : CapabilityData
  mac : Mac
deriving DecidableEq

namespace Capability

@[simp] def issueWith (scheme : Mac.Scheme) (key : Key) (data : CapabilityData) : Capability :=
  ⟨data, scheme key data.payload.toList⟩

@[simp] def verifiesWith (scheme : Mac.Scheme) (key : Key) (cap : Capability) : Bool :=
  cap.mac = scheme key cap.data.payload.toList

def issue (key : Key) (data : CapabilityData) : Capability := issueWith Mac.compute key data

def verifies (key : Key) (cap : Capability) : Bool := cap.verifiesWith Mac.compute key

/-- Every capability of a batch verifies; an empty batch does. -/
def allVerify (key : Key) (caps : List Capability) : Bool := caps.all (verifies key)

def format : Wire.Fixed Capability :=
  (CapabilityData.format.pair Mac.format).map (fun (data, mac) => ⟨data, mac⟩)
    (fun cap => (cap.data, cap.mac))

end Capability

end CapabilityGuard
