import CapabilityGuard.Proofs.Guard.Exchange
import CapabilityGuard.Proofs.Server.Decision

/-! What replies give away of a store, told by two runs on the same bytes. A refused errand gives away
nothing, an exchange whether its principal is on the ACL, and bytes that name no container cannot be
about the store at all. -/
namespace CapabilityGuard

namespace Guard

variable {guard : Guard} {args : Request.Exchange} {s s' : Store}

theorem permits_iff : guard.Permits args s ↔
    (args.cred.mac = .compute guard.key args.cred.data.payload.toList ∧
      ∀ cap, args.cap = some cap → cap.mac = .compute guard.key cap.data.payload.toList) ∧
    s.Lists args.cid args.op args.cred.data.uid := by
  constructor
  · intro permitted
    obtain ⟨acls, uids, found, stored, member⟩ := permitted.listed
    exact ⟨⟨permitted.identified, permitted.shown⟩, acls, found, uids, stored, member⟩
  · intro parts
    obtain ⟨⟨identified, shown⟩, acls, found, uids, stored, member⟩ := parts
    exact ⟨identified, shown, acls, uids, found, stored, member⟩

theorem exchange_congr (agree : s.Lists args.cid args.op args.cred.data.uid ↔
    s'.Lists args.cid args.op args.cred.data.uid) :
    (guard.exchange args s).1 = (guard.exchange args s').1 := by
  have same : guard.Permits args s ↔ guard.Permits args s' := by
    rw [permits_iff, permits_iff, agree]
  by_cases permitted : guard.Permits args s
  · rw [exchange_of_permits permitted, exchange_of_permits (same.mp permitted)]
  · rw [exchange_of_forbidden permitted, exchange_of_forbidden (mt same.mpr permitted)]

end Guard

namespace Server

variable {server : Server} {bytes : List UInt8} {s s' : Store}

theorem serve_congr (same : ∀ request, server.Receives bytes request →
    (server.guard.answer request s).1 = (server.guard.answer request s').1) :
    (server.serve bytes s).1 = (server.serve bytes s').1 := by
  by_cases received : ∃ request, server.Receives bytes request
  · obtain ⟨request, received⟩ := received
    simp only [serve, answer_of_receives received, same request received]
  · have unreceived := not_exists.mp received
    simp only [serve, answer_of_unreceived unreceived]

/-- Two stores are told apart by no refused errand, by an exchange only where they differ on whether
its principal is on the ACL, and by nothing that is malformed or a batch. -/
theorem refusal_silent (server : Server) (bytes : List UInt8) (s s' : Store) :
    (∀ request errand, server.Receives bytes request → request.errand? = some errand →
      errand.Refused server.guard.key →
      (server.serve bytes s).1 = Reply.format.write .unauthorized ∧
      (server.serve bytes s').1 = Reply.format.write .unauthorized) ∧
    (∀ args, Request.format.readAll bytes = .ok (.getCap args) →
      (s.Lists args.cid args.op args.cred.data.uid ↔
        s'.Lists args.cid args.op args.cred.data.uid) →
      (server.serve bytes s).1 = (server.serve bytes s').1) ∧
    (server.maxRequestSize < bytes.length ∨
      (∀ request, Request.format.readAll bytes ≠ .ok request) ∨
      (∃ caps, Request.format.readAll bytes = .ok (.verifyCaps caps)) →
      (server.serve bytes s).1 = (server.serve bytes s').1) := by
  refine ⟨?_, ?_, ?_⟩
  · intro request errand received asked refused
    simp only [serve, answer_refused received asked refused, and_self]
  · intro args read agree
    apply serve_congr
    intro request received
    obtain rfl : request = .getCap args := Except.ok.inj (received.read.symm.trans read)
    exact Guard.exchange_congr agree
  · intro blank
    apply serve_congr
    intro request received
    rcases blank with oversized | unread | ⟨caps, read⟩
    · exact absurd oversized (Nat.not_lt.mpr received.fits)
    · exact absurd received.read (unread request)
    · obtain rfl : request = .verifyCaps caps := Except.ok.inj (received.read.symm.trans read)
      rfl

end Server

end CapabilityGuard
