import CapabilityGuard.Proofs.Message.Fields
import CapabilityGuard.Proofs.Wire.Counted

/-! What lists in messages are made of. Ids, numbers and tokens each take as many bytes as they state,
so that the count of a list tells how long the list is before any of it is read. -/
namespace CapabilityGuard

open Wire

theorem ContainerId.format_reads : ContainerId.format.Reads := (octets_reads 16).map _ _

theorem Operation.format_reads : Operation.format.Reads := ((octets_reads 4).map _ _).map _ _

theorem Uid.format_reads : Uid.format.Reads := ((octets_reads 8).map _ _).map _ _

theorem TxnRef.format_reads : TxnRef.format.Reads := ((octets_reads 8).map _ _).map _ _

theorem Mac.format_reads : Mac.format.Reads := (octets_reads 32).map _ _

theorem Credential.format_reads : Credential.format.Reads :=
  (((octets_reads (8 + 24)).map _ _).pair Mac.format_reads).map _ _

theorem Capability.format_reads : Capability.format.Reads :=
  (((octets_reads (16 + (4 + 8))).map _ _).pair Mac.format_reads).map _ _

/-- Elements of every kind take the bytes stated for it, and a list of them is read exactly when its
count says that they are all there. -/
theorem elements_uniform :
    Uid.format.Uniform 8 ∧ TxnRef.format.Uniform 8 ∧ ContainerId.format.Uniform 16 ∧
      Operation.format.Uniform 4 ∧ Mac.format.Uniform 32 ∧ Credential.format.Uniform 64 ∧
      Capability.format.Uniform 60 :=
  ⟨Uid.format_exact.uniform Uid.format_reads (by decide),
    TxnRef.format_exact.uniform TxnRef.format_reads (by decide),
    ContainerId.format_exact.uniform ContainerId.format_reads (by decide),
    Operation.format_exact.uniform Operation.format_reads (by decide),
    Mac.format_exact.uniform Mac.format_reads (by decide),
    Credential.format_exact.uniform Credential.format_reads (by decide),
    Capability.format_exact.uniform Capability.format_reads (by decide)⟩

example : Uid.format.sequence.read [0, 0, 0, 2, 0, 0, 0, 0, 0, 0, 0, 1] =
    .error (.malformedLength 2 8) := by
  rfl

end CapabilityGuard
