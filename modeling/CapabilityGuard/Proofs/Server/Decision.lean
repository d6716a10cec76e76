import Mathlib.Tactic.ByContra
import CapabilityGuard.Proofs.Guard.Errand
import CapabilityGuard.Proofs.Message.Spelling

/-! How a server decides on bytes. What is too long or spells no request is malformed. A request is
unauthorized for its capability alone, and all that is not refused is what the store makes of it. -/
namespace CapabilityGuard

theorem Reply.ofOutcome_ne_malformed (outcome : Except Refusal Reply.Body) :
    Reply.ofOutcome outcome ≠ .malformed := by
  rcases outcome with (_ | cause) | body <;> simp [Reply.ofOutcome]

@[simp] theorem Reply.ofOutcome_unauthorized :
    Reply.ofOutcome (.error .unauthorized) = .unauthorized := rfl

namespace Server

variable {server : Server} {bytes : List UInt8} {request : Request} {s : Store}

theorem receives_iff : server.Receives bytes request ↔
    bytes.length ≤ server.maxRequestSize ∧ request.Countable ∧
      bytes = Request.format.write request := by
  rw [← Request.format_exact.readAll_eq_ok_iff]
  exact ⟨fun received => ⟨received.fits, received.read⟩, fun parts => ⟨parts.1, parts.2⟩⟩

theorem receives_write {request : Request} (countable : request.Countable)
    (fits : (Request.format.write request).length ≤ server.maxRequestSize) :
    server.Receives (Request.format.write request) request :=
  ⟨fits, Request.readAll_write countable⟩

theorem answer_of_unreceived {σ : Type} [Backend σ]
    (unreceived : ∀ request, ¬ server.Receives bytes request) (s : σ) :
    server.answer bytes s = (.malformed, s) := by
  rcases server.answer_cases bytes s with malformed | ⟨request, received, _⟩
  · exact malformed
  · exact absurd received (unreceived request)

theorem malformed_iff_unreceived : (server.answer bytes s).1 = .malformed ↔
    ∀ request, ¬ server.Receives bytes request := by
  constructor
  · intro malformed request received
    rw [answer_of_receives received] at malformed
    exact Reply.ofOutcome_ne_malformed _ malformed
  · intro unreceived
    rw [answer_of_unreceived unreceived]

theorem unreceived_iff : (∀ request, ¬ server.Receives bytes request) ↔
    server.maxRequestSize < bytes.length ∨
      ∀ request : Request, request.Countable → Request.format.write request ≠ bytes := by
  simp only [receives_iff]
  constructor
  · intro unreceived
    by_cases fits : bytes.length ≤ server.maxRequestSize
    · exact .inr fun request countable written =>
        unreceived request ⟨fits, countable, written.symm⟩
    · exact .inl (Nat.lt_of_not_le fits)
  · intro cases request parts
    obtain ⟨fits, countable, written⟩ := parts
    rcases cases with oversized | unwritten
    · exact absurd oversized (Nat.not_lt.mpr fits)
    · exact unwritten request countable written.symm

section

variable {errand : Errand}

theorem answer_refused (received : server.Receives bytes request)
    (asked : request.errand? = some errand) (refused : errand.Refused server.guard.key)
    (s : Store) : server.answer bytes s = (.unauthorized, s) := by
  rw [answer_of_receives received, Guard.errand_refused asked refused, Reply.ofOutcome_unauthorized]

theorem answer_admitted (received : server.Receives bytes request)
    (asked : request.errand? = some errand) (admitted : ¬ errand.Refused server.guard.key)
    (s : Store) : Reply.Tells (s.perform errand.action).1 (server.answer bytes s).1 ∧
      (server.answer bytes s).2 = (s.perform errand.action).2 := by
  rw [answer_of_receives received]
  exact Guard.errand_admitted asked admitted s

end

theorem answer_genuine {caps : List Capability}
    (received : server.Receives bytes (.verifyCaps caps))
    (genuine : ∀ cap ∈ caps, cap.mac = .compute server.guard.key cap.data.payload.toList)
    (s : Store) : server.answer bytes s = (.ok .none, s) := by
  have checked : server.guard.answer (.verifyCaps caps) s = (.ok .none, s) := by
    rw [Guard.answer, Guard.check_genuine genuine]
  rw [answer_of_receives received, checked]
  rfl

theorem answer_forged {caps : List Capability}
    (received : server.Receives bytes (.verifyCaps caps))
    (forged : ∃ cap ∈ caps, cap.mac ≠ .compute server.guard.key cap.data.payload.toList)
    (s : Store) : server.answer bytes s = (.unauthorized, s) := by
  have checked : server.guard.answer (.verifyCaps caps) s = (.error .unauthorized, s) := by
    rw [Guard.answer, Guard.check_forged forged]
  rw [answer_of_receives received, checked, Reply.ofOutcome_unauthorized]

/-- Bytes are malformed exactly when they are too many or spell no request. An errand is refused
exactly for its capability, and is otherwise the action at the store, told as it was answered. A
batch is refused exactly for a member that does not verify. -/
theorem decision_exact (server : Server) (bytes : List UInt8) (s : Store) :
    let reply := (server.answer bytes s).1
    let after := (server.answer bytes s).2
    (reply = .malformed ↔ server.maxRequestSize < bytes.length ∨
      ∀ request : Request, request.Countable → Request.format.write request ≠ bytes) ∧
    (reply = .malformed → after = s) ∧
    (reply ≠ .malformed → ∃ request, server.Receives bytes request) ∧
    ∀ request, server.Receives bytes request →
      (∀ errand, request.errand? = some errand →
        (reply = .unauthorized ↔ errand.Refused server.guard.key) ∧
        (errand.Refused server.guard.key → after = s) ∧
        (¬ errand.Refused server.guard.key →
          Reply.Tells (s.perform errand.action).1 reply ∧
          after = (s.perform errand.action).2)) ∧
      ∀ caps, request = .verifyCaps caps → after = s ∧
        (reply = .unauthorized ↔
          ∃ cap ∈ caps, cap.mac ≠ .compute server.guard.key cap.data.payload.toList) ∧
        (reply ≠ .unauthorized → reply = .ok .none) := by
  intro reply after
  have told : server.answer bytes s = (reply, after) := rfl
  refine ⟨malformed_iff_unreceived.trans unreceived_iff, ?_, ?_, ?_⟩
  · intro malformed
    have same := answer_of_unreceived (malformed_iff_unreceived.mp malformed) s
    exact (Prod.mk.inj (told.symm.trans same)).2
  · intro decided
    by_contra unreceived
    exact decided (malformed_iff_unreceived.mpr (not_exists.mp unreceived))
  intro request received
  constructor
  · intro errand asked
    by_cases refused : errand.Refused server.guard.key
    · obtain ⟨replied, kept⟩ :=
        Prod.mk.inj (told.symm.trans (answer_refused received asked refused s))
      simp [replied, kept, refused]
    · have carried := answer_admitted received asked refused s
      exact ⟨iff_of_false carried.1.ne_unauthorized refused, fun denied => absurd denied refused,
        fun _ => carried⟩
  · rintro caps rfl
    by_cases forged : ∃ cap ∈ caps, cap.mac ≠ .compute server.guard.key cap.data.payload.toList
    · obtain ⟨replied, kept⟩ := Prod.mk.inj (told.symm.trans (answer_forged received forged s))
      exact ⟨kept, iff_of_true replied forged, fun decided => absurd replied decided⟩
    · have genuine : ∀ cap ∈ caps,
          cap.mac = .compute server.guard.key cap.data.payload.toList := by
        simpa using forged
      obtain ⟨replied, kept⟩ := Prod.mk.inj (told.symm.trans (answer_genuine received genuine s))
      have accepted : reply ≠ .unauthorized := by simp [replied]
      exact ⟨kept, iff_of_false accepted forged, fun _ => replied⟩

end Server

end CapabilityGuard
