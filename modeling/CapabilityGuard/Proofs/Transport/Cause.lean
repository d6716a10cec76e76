import CapabilityGuard.Proofs.Store.Message
import CapabilityGuard.Proofs.Transport.Direct
import CapabilityGuard.Transport.Scripted

/-! What a caller learns of an error of the store. The server tells its text, the text is carried as
it is, and there is only one error with that text, so the caller knows the kind of error and
whatever it names. -/
namespace CapabilityGuard

namespace StoreError

/-- The text can be counted in a reply. Only what a provider says can be too long for that. -/
def Sendable : StoreError → Prop
  | provider text => (provider text).message.utf8ByteSize ≤ Wire.maxCount
  | containerExists _ | containerNotFound _ | aclNotFound _ _ | unknownTxn _ => True

theorem Sendable.countable {cause : StoreError} (sendable : cause.Sendable) :
    (Reply.store cause.message).Countable := by
  have short (ordinary : cause.Ordinary) : cause.message.utf8ByteSize ≤ Wire.maxCount :=
    Nat.le_trans ordinary.utf8ByteSize_le (by decide)
  cases cause with
  | provider text => exact sendable
  | containerExists | containerNotFound | aclNotFound | unknownTxn => exact short trivial

theorem write_injective {cause other : StoreError} (sendable : cause.Sendable)
    (sendable' : other.Sendable)
    (same : Reply.format.write (.store cause.message) = Reply.format.write (.store other.message)) :
    cause = other := by
  have replies := Reply.format_exact.write_injective sendable.countable sendable'.countable same
  exact message_injective (Reply.store.inj replies)

end StoreError

namespace Transport

theorem call_eq_store_iff {σ τ : Type} {transport : Transport σ τ} {request : Request} {s : σ}
    {cause : StoreError} (sendable : cause.Sendable)
    (brings : transport.Brings (Request.format.write request) s
      (.ok (Reply.format.write (.store cause.message)))) (other : StoreError) :
    (transport.call request s).1 = .error (.store other.message) ↔ other = cause := by
  have told : (transport.call request s).1 = .error (.store cause.message) :=
    call_eq_iff.mpr ⟨_, brings, .store sendable.countable⟩
  rw [told]
  constructor
  · intro same
    exact (StoreError.message_injective (Failure.store.inj (Except.error.inj same))).symm
  · rintro rfl
    rfl

theorem direct_brings {σ : Type} [Backend σ] {server : Server} {request : Request} {s : σ}
    {cause : StoreError} (received : server.Receives (Request.format.write request) request)
    (failed : (server.guard.answer request s).1 = .error (.store cause)) :
    (direct server).Brings (Request.format.write request) s
      (.ok (Reply.format.write (.store cause.message))) := by
  have told : (server.serve (Request.format.write request) s).1 =
      Reply.format.write (.store cause.message) := by
    simp only [Server.serve, Server.answer_of_receives received, failed, Reply.ofOutcome]
  rw [← told]
  exact .waited rfl rfl

/-- No two errors of a store have the same text or, as far as texts can be counted, the same reply.
So a caller to whom an error is told learns which one it is, from any transport that brings the
reply and from every server in the same process whose guard is given that error. -/
theorem cause_identified :
    Function.Injective Operation.name ∧ Function.Injective StoreError.message ∧
    (∀ cause other : StoreError, cause.Sendable → other.Sendable → cause ≠ other →
      Reply.format.write (.store cause.message) ≠ Reply.format.write (.store other.message)) ∧
    (∀ (σ τ : Type) (transport : Transport σ τ) (request : Request) (s : σ) (cause : StoreError),
      cause.Sendable →
      transport.Brings (Request.format.write request) s
        (.ok (Reply.format.write (.store cause.message))) →
      ∀ other : StoreError,
        (transport.call request s).1 = .error (.store other.message) ↔ other = cause) ∧
    ∀ (σ : Type) [Backend σ] (server : Server) (request : Request) (s : σ) (cause : StoreError),
      cause.Sendable → server.Receives (Request.format.write request) request →
      (server.guard.answer request s).1 = .error (.store cause) →
      ∀ other : StoreError,
        ((direct server).call request s).1 = .error (.store other.message) ↔ other = cause := by
  refine ⟨Operation.name_injective, StoreError.message_injective, ?_, ?_, ?_⟩
  · intro cause other sendable sendable' different same
    exact different (StoreError.write_injective sendable sendable' same)
  · intro σ τ transport request s cause sendable brings
    exact call_eq_store_iff sendable brings
  · intro σ _ server request s cause sendable received failed
    exact call_eq_store_iff sendable (direct_brings received failed)

theorem answer_inquiry_full :
    Guard.answer ⟨⟨.zero 32⟩⟩ (.getAcl inquiry) ({ failure := some "full" } : Unreliable) =
      (.error (.store (.provider "full")), { failure := some "full" }) := by
  have admitted : Guard.admits ⟨⟨.zero 32⟩⟩ inquiry.cap inquiry.cid
      (fun op => op = inquiry.op || Guard.isAdmin op) = true := Guard.admits_issue _ _ _ _
  rw [Guard.answer, Guard.query, if_pos admitted]
  rfl

/-- An ACL is missing, for one of two operations without a name, and a provider has no room. -/
theorem cause_identified_full :
    let missing (code : UInt32) : StoreError := .aclNotFound ⟨.zero 16⟩ ⟨code⟩
    let server : Server := ⟨⟨⟨.zero 32⟩⟩, Server.defaultMaxRequestSize⟩
    let broken : Unreliable := { failure := some "full" }
    (missing 77).Sendable ∧ (missing 78).Sendable ∧ missing 77 ≠ missing 78 ∧
    Reply.format.write (.store (missing 77).message) ≠
      Reply.format.write (.store (missing 78).message) ∧
    ((scripted { reply := Reply.format.write (.store (missing 77).message) }).call
      (.getAcl inquiry) []).1 = .error (.store (missing 77).message) ∧
    StoreError.Sendable (.provider "full") ∧
    server.Receives (Request.format.write (.getAcl inquiry)) (.getAcl inquiry) ∧
    (server.guard.answer (.getAcl inquiry) broken).1 = .error (.store (.provider "full")) ∧
    ((direct server).call (.getAcl inquiry) broken).1 =
      .error (.store (StoreError.provider "full").message) := by
  intro missing server broken
  obtain ⟨_, _, replies, told, served⟩ := cause_identified
  have different : missing 77 ≠ missing 78 := by decide
  have short : StoreError.Sendable (.provider "full") := by
    unfold StoreError.Sendable
    decide
  have received : server.Receives (Request.format.write (.getAcl inquiry)) (.getAcl inquiry) :=
    Server.receives_write trivial (by decide +kernel)
  have failed : (server.guard.answer (.getAcl inquiry) broken).1 =
      .error (.store (.provider "full")) :=
    congrArg Prod.fst answer_inquiry_full
  refine ⟨trivial, trivial, different, replies _ _ trivial trivial different, ?_, short, received,
    failed, ?_⟩
  · exact (told _ _ _ _ _ (missing 77) trivial (.waited rfl rfl) _).mpr rfl
  · exact (served _ server _ broken _ short received failed _).mpr rfl

end Transport

end CapabilityGuard
