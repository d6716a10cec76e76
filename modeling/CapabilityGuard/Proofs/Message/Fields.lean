import CapabilityGuard.Proofs.Wire.Exact
import CapabilityGuard.Token.Lemmas
import CapabilityGuard.UidSet

/-! The fields that requests and replies are made of have exact formats. Ids, numbers and tokens
take every value in a fixed number of bytes, and a list of uids is read as long as its count is a
word. -/
namespace CapabilityGuard

open Wire

theorem ContainerId.format_exact : ContainerId.format.Exact :=
  (octets_exact 16).map (fun _ => rfl) fun _ => rfl

theorem Operation.format_exact : Operation.format.Exact :=
  word_exact.map (fun _ => rfl) fun _ => rfl

theorem Uid.format_exact : Uid.format.Exact :=
  hyper_exact.map (fun _ => rfl) fun _ => rfl

theorem TxnRef.format_exact : TxnRef.format.Exact :=
  hyper_exact.map (fun _ => rfl) fun _ => rfl

theorem Mac.format_exact : Mac.format.Exact :=
  (octets_exact 32).map (fun _ => rfl) fun _ => rfl

theorem Credential.format_exact : Credential.format.Exact := by
  have data : CredentialData.format.Exact := (octets_exact (8 + 24)).map
    CredentialData.ofPayload_payload CredentialData.payload_ofPayload
  exact (data.pair Mac.format_exact).map (fun _ => rfl) fun _ => rfl

theorem Capability.format_exact : Capability.format.Exact := by
  have data : CapabilityData.format.Exact := (octets_exact (16 + (4 + 8))).map
    CapabilityData.ofPayload_payload CapabilityData.payload_ofPayload
  exact (data.pair Mac.format_exact).map (fun _ => rfl) fun _ => rfl

theorem UidSet.format_exact : UidSet.format.Exact fun uids => uids.size ≤ maxCount :=
  Uid.format_exact.sequence.map (fun _ => rfl) fun _ => rfl

end CapabilityGuard
