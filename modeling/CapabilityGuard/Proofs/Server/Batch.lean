import CapabilityGuard.Proofs.Message.Width
import CapabilityGuard.Proofs.Server.Decision
import CapabilityGuard.Proofs.Server.Isolation

/-! What a server says of a batch. The limit alone decides which batches are too long, and of the others
those are accepted whose members all carry the code of their payload, in whatever order they stand. -/
namespace CapabilityGuard

open Wire

theorem Request.length_write_verifyCaps {caps : List Capability}
    (countable : caps.length ≤ maxCount) :
    (format.write (.verifyCaps caps)).length = 8 + 60 * caps.length := by
  have length : (format.write (.verifyCaps caps)).length = 4 + (4 + 60 * caps.length) :=
    length_write countable
  omega

namespace Server

/-- What is said of a batch, told from its size and its members. -/
inductive Judged (server : Server) (caps : List Capability) : Reply → Prop
  | oversized (long : server.maxRequestSize < 8 + 60 * caps.length) : Judged server caps .malformed
  | accepted (fits : 8 + 60 * caps.length ≤ server.maxRequestSize)
      (genuine : ∀ cap ∈ caps, cap.mac = .compute server.guard.key cap.data.payload.toList) :
      Judged server caps (.ok .none)
  | refused (fits : 8 + 60 * caps.length ≤ server.maxRequestSize)
      (forged : ∃ cap ∈ caps, cap.mac ≠ .compute server.guard.key cap.data.payload.toList) :
      Judged server caps .unauthorized

namespace Judged

variable {server : Server} {caps other : List Capability} {reply reply' : Reply}

/-- Batches of one size with the same members are judged alike. -/
theorem congr (judged : Judged server caps reply) (judged' : Judged server other reply')
    (size : caps.length = other.length) (same : ∀ cap, cap ∈ caps ↔ cap ∈ other) :
    reply = reply' := by
  cases judged with
  | oversized long =>
    cases judged' with
    | oversized => rfl
    | accepted fits | refused fits => omega
  | accepted fits genuine =>
    cases judged' with
    | oversized long => omega
    | accepted => rfl
    | refused _ forged =>
      obtain ⟨cap, member, differs⟩ := forged
      exact absurd (genuine cap ((same cap).mpr member)) differs
  | refused fits forged =>
    cases judged' with
    | oversized long => omega
    | accepted _ genuine =>
      obtain ⟨cap, member, differs⟩ := forged
      exact absurd (genuine cap ((same cap).mp member)) differs
    | refused => rfl

theorem accepted_iff : Judged server caps (.ok .none) ↔
    8 + 60 * caps.length ≤ server.maxRequestSize ∧
      ∀ cap ∈ caps, cap.mac = .compute server.guard.key cap.data.payload.toList := by
  constructor
  · intro judged
    cases judged with
    | accepted fits genuine => exact ⟨fits, genuine⟩
  · intro parts
    exact .accepted parts.1 parts.2

end Judged

variable {server : Server} {caps : List Capability}

theorem answer_of_oversized {σ : Type} [Backend σ] {bytes : List UInt8}
    (oversized : server.maxRequestSize < bytes.length) (s : σ) :
    server.answer bytes s = (.malformed, s) :=
  answer_of_unreceived (fun _ received => absurd oversized (Nat.not_lt.mpr received.fits)) s

theorem answer_batch (server : Server) (countable : caps.length ≤ maxCount) (s : Store) :
    Judged server caps (server.answer (Request.format.write (.verifyCaps caps)) s).1 ∧
      (server.answer (Request.format.write (.verifyCaps caps)) s).2 = s := by
  have size := Request.length_write_verifyCaps countable
  by_cases fits : 8 + 60 * caps.length ≤ server.maxRequestSize
  · have received : server.Receives (Request.format.write (.verifyCaps caps)) (.verifyCaps caps) :=
      receives_write countable (size ▸ fits)
    by_cases genuine : ∀ cap ∈ caps,
        cap.mac = .compute server.guard.key cap.data.payload.toList
    · rw [answer_genuine received genuine]
      exact ⟨.accepted fits genuine, rfl⟩
    · have forged : ∃ cap ∈ caps,
          cap.mac ≠ .compute server.guard.key cap.data.payload.toList := by
        simpa using genuine
      rw [answer_forged received forged]
      exact ⟨.refused fits forged, rfl⟩
  · have long := Nat.lt_of_not_le fits
    rw [answer_of_oversized (size ▸ long)]
    exact ⟨.oversized long, rfl⟩

theorem batch_reply_iff (countable : caps.length ≤ maxCount) (s : Store) (reply : Reply) :
    (server.answer (Request.format.write (.verifyCaps caps)) s).1 = reply ↔
      Judged server caps reply := by
  have judged := (answer_batch server countable s).1
  constructor
  · rintro rfl
    exact judged
  · intro judged'
    exact judged.congr judged' rfl fun _ => Iff.rfl

/-- A batch of n capabilities takes 8 + 60n bytes and leaves the store alone. It is malformed beyond the
limit, and otherwise accepted or refused for its members, wherever they stand, so that two batches
together are accepted exactly when each of them is. -/
theorem batch_all_or_nothing (server : Server) (caps : List Capability) (s : Store)
    (countable : caps.length ≤ maxCount) :
    let bytes := Request.format.write (.verifyCaps caps)
    bytes.length = 8 + 60 * caps.length ∧
    (∀ reply, (server.answer bytes s).1 = reply ↔ Judged server caps reply) ∧
    (server.answer bytes s).2 = s ∧
    (∀ other, caps.Perm other →
      server.answer (Request.format.write (.verifyCaps other)) s = server.answer bytes s) ∧
    ∀ front back, caps = front ++ back → 8 + 60 * caps.length ≤ server.maxRequestSize →
      ((server.answer bytes s).1 = .ok .none ↔
        (server.answer (Request.format.write (.verifyCaps front)) s).1 = .ok .none ∧
        (server.answer (Request.format.write (.verifyCaps back)) s).1 = .ok .none) := by
  have judged := answer_batch server countable s
  refine ⟨Request.length_write_verifyCaps countable, batch_reply_iff countable s, judged.2, ?_, ?_⟩
  · intro other permuted
    have judged' := answer_batch server (permuted.length_eq ▸ countable) s
    have same := judged'.1.congr judged.1 permuted.length_eq.symm fun cap => permuted.mem_iff.symm
    exact Prod.ext same (judged'.2.trans judged.2.symm)
  · rintro front back rfl fits
    have size : (front ++ back).length = front.length + back.length := List.length_append
    have countable₁ : front.length ≤ maxCount := by omega
    have countable₂ : back.length ≤ maxCount := by omega
    have fits₁ : 8 + 60 * front.length ≤ server.maxRequestSize := by omega
    have fits₂ : 8 + 60 * back.length ≤ server.maxRequestSize := by omega
    simp only [batch_reply_iff, countable, countable₁, countable₂, Judged.accepted_iff, fits, fits₁,
      fits₂, true_and, List.forall_mem_append]

/-- A capability that was not issued. -/
def forgery : Capability := ⟨⟨zeroCid, .admin, ⟨7⟩⟩, ⟨.zero 32⟩⟩

/-- Two members fill a limit of 128 bytes, whether or not they are accepted. -/
theorem batch_all_or_nothing_full :
    let pass : Capability := .issue zeroKey ⟨zeroCid, .read, ⟨7⟩⟩
    let reply (limit : Nat) (caps : List Capability) : Reply :=
      (answer ⟨⟨zeroKey⟩, limit⟩ (Request.format.write (.verifyCaps caps)) ({} : Store)).1
    [pass, pass].length ≤ maxCount ∧ [forgery, pass].length ≤ maxCount ∧
    reply 128 [pass, pass] = .ok .none ∧ reply 127 [pass, pass] = .malformed ∧
    reply 128 [forgery, pass] = .unauthorized := by
  intro pass reply
  have few : [pass, pass].length ≤ maxCount := by decide
  have few' : [forgery, pass].length ≤ maxCount := by decide
  have forged : forgery.mac ≠ .compute zeroKey forgery.data.payload.toList := by decide +kernel
  refine ⟨few, few', ?_, ?_, ?_⟩
  · refine ((batch_all_or_nothing _ [pass, pass] {} few).2.1 _).mpr (.accepted (by decide) ?_)
    simp [pass, Capability.issue]
  · exact ((batch_all_or_nothing _ [pass, pass] {} few).2.1 _).mpr (.oversized (by decide))
  · refine ((batch_all_or_nothing _ [forgery, pass] {} few').2.1 _).mpr (.refused (by decide) ?_)
    exact ⟨forgery, by simp, forged⟩

end Server

end CapabilityGuard
