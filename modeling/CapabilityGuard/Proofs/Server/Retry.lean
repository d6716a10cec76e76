import CapabilityGuard.Proofs.Server.Edits
import CapabilityGuard.Proofs.UidSet.Order

/-! Retries are safe outside transactions. A request that has failed fails again in the same way,
and one that has succeeded changes nothing more. Only the creation or removal of a container is told
apart from its retry, which finds it done. -/
namespace CapabilityGuard

theorem insert_of_found {α β : Type} [DecidableEq α] [Hashable α] {map : Std.ExtHashMap α β}
    {key : α} {value : β} (found : map[key]? = some value) : map.insert key value = map := by
  ext1 other
  rw [Std.ExtHashMap.getElem?_insert]
  split
  next same =>
    obtain rfl : key = other := by simpa using same
    exact found.symm
  next => rfl

/-- A container is there exactly if it was not. -/
def Change.Toggles : Change → Prop
  | .create _ | .remove _ => True
  | .put _ _ _ | .amend _ _ _ _ => False

theorem Change.apply_again {change : Change} {containers next : Containers}
    (applied : change.apply containers = .ok next) :
    change.apply next = .ok next ∨ change.Toggles ∧ ∃ cause, change.apply next = .error cause := by
  rcases apply_cases applied with ⟨cid, rfl, _, rfl⟩ | ⟨cid, _, rfl, _, rfl⟩ |
    ⟨cid, op, uids, acls, rfl, _, rfl⟩ | ⟨cid, op, set, unset, acls, uids, rfl, _, _, rfl⟩
  · exact .inr ⟨trivial, .containerExists cid, by simp [apply]⟩
  · exact .inr ⟨trivial, .containerNotFound cid, by simp [apply]⟩
  · have inner : (acls.insert op uids).insert op uids = acls.insert op uids :=
      insert_of_found Std.ExtHashMap.getElem?_insert_self
    left
    simp only [apply, Std.ExtHashMap.getElem?_insert_self, inner]
    rw [insert_of_found Std.ExtHashMap.getElem?_insert_self]
  · have inner : (acls.insert op (uids.amend set unset).dedup).insert op
        (uids.amend set unset).dedup = acls.insert op (uids.amend set unset).dedup :=
      insert_of_found Std.ExtHashMap.getElem?_insert_self
    left
    simp only [apply, Std.ExtHashMap.getElem?_insert_self, UidSet.dedup_amend_again, inner]
    rw [insert_of_found Std.ExtHashMap.getElem?_insert_self]

theorem Store.change_again (s : Store) (change : Change) :
    let after := (s.change none change).2
    after.change none change = s.change none change ∨
      change.Toggles ∧ (s.change none change).1 = .ok () ∧ (after.change none change).2 = after := by
  rcases s.change_cases none change with ⟨_, staged, _⟩ | ⟨_, _, staged, _⟩ |
    ⟨cause, _, _, result⟩ | ⟨containers, _, applied, result⟩
  · cases staged
  · cases staged
  · rw [result]
    exact .inl result
  · rw [result]
    rcases Change.apply_again applied with again | ⟨toggles, cause, failed⟩
    · exact .inl (by simp [Store.change, again])
    · exact .inr ⟨toggles, rfl, by simp [Store.change, failed]⟩

namespace Request

/-- The transaction under which a request is to be staged. -/
def txn? : Request → Option TxnRef
  | createContainer a | removeContainer a => a.txn
  | createAcl a => a.txn
  | modAcl a => a.txn
  | getAcl _ | getCap _ | verifyCaps _ => none

variable {request : Request} {demand : Demand}

theorem txn?_of_demand (asked : request.demand? = some demand) : request.txn? = demand.txn := by
  cases request <;> cases asked <;> rfl

theorem container_of_toggles (asked : request.demand? = some demand)
    (toggles : demand.change.Toggles) :
    ∃ args, request = .createContainer args ∨ request = .removeContainer args := by
  cases request with
  | createContainer args => exact ⟨args, .inl rfl⟩
  | removeContainer args => exact ⟨args, .inr rfl⟩
  | createAcl | modAcl =>
    cases asked
    cases toggles
  | getAcl | getCap | verifyCaps => cases asked

end Request

theorem Guard.answer_again (guard : Guard) {request : Request} (immediate : request.txn? = none)
    (s : Store) :
    let after := (guard.answer request s).2
    guard.answer request after = guard.answer request s ∨
      (∃ args, request = .createContainer args ∨ request = .removeContainer args) ∧
        (guard.answer request s).1 = .ok .none ∧ (guard.answer request after).2 = after := by
  cases asked : request.demand? with
  | none =>
    have kept : (guard.answer request s).2 = s := answer_keeps asked s
    exact .inl (by simp only [kept])
  | some demand =>
    rw [Request.txn?_of_demand asked] at immediate
    simp only [answer_of_demand asked, immediate]
    cases admitted : guard.admits demand.cap demand.change.cid isAdmin with
    | false => exact .inl (by simp only [change_refused admitted])
    | true =>
      simp only [change_of_admits admitted]
      rcases s.change_again demand.change with again | ⟨toggles, succeeded, kept⟩
      · exact .inl (by rw [again])
      · exact .inr ⟨Request.container_of_toggles asked toggles, by rw [succeeded]; rfl, kept⟩

namespace Server

theorem answer_again (server : Server) {bytes : List UInt8}
    (immediate : ∀ request, server.Receives bytes request → request.txn? = none) (s : Store) :
    let after := (server.answer bytes s).2
    server.answer bytes after = server.answer bytes s ∨
      (∃ args, Request.format.readAll bytes = .ok (.createContainer args) ∨
        Request.format.readAll bytes = .ok (.removeContainer args)) ∧
      (server.answer bytes s).1 = .ok .none ∧ (server.answer bytes after).2 = after := by
  rcases server.answer_cases bytes s with malformed | ⟨request, received, _⟩
  · exact .inl (by simp only [malformed])
  · simp only [answer_of_receives received, received.read]
    rcases server.guard.answer_again (immediate request received) s with
      again | ⟨⟨args, toggles⟩, succeeded, kept⟩
    · exact .inl (by rw [again])
    · refine .inr ⟨⟨args, ?_⟩, by rw [succeeded]; rfl, kept⟩
      rcases toggles with rfl | rfl
      · exact .inl rfl
      · exact .inr rfl

/-- Bytes that are malformed or ask for nothing to be staged leave the same store when they are
handled twice as when they are handled once. The second reply is the first again, unless that told
of a container that was made or removed. -/
theorem retry_safe (server : Server) (bytes : List UInt8) (s : Store)
    (immediate : ∀ request, server.Receives bytes request → request.txn? = none) :
    let first := server.answer bytes s
    let second := server.answer bytes first.2
    second.2 = first.2 ∧
    (¬ (first.1 = .ok .none ∧ ∃ args, Request.format.readAll bytes = .ok (.createContainer args) ∨
        Request.format.readAll bytes = .ok (.removeContainer args)) →
      second.1 = first.1) := by
  intro first second
  rcases server.answer_again immediate s with again | ⟨toggled, succeeded, kept⟩
  · have same : second = first := again
    exact ⟨by rw [same], fun _ => by rw [same]⟩
  · exact ⟨kept, fun ordinary => absurd ⟨succeeded, toggled⟩ ordinary⟩

theorem retry_safe_correction :
    let bytes := Request.format.write (.modAcl correction)
    let first := zeroServer.answer bytes repetitive
    (∀ request, zeroServer.Receives bytes request → request.txn? = none) ∧
    first.1 = .ok .none ∧ first.2.acl zeroCid .read = .ok ⟨[⟨7⟩, ⟨10⟩]⟩ ∧
    zeroServer.answer bytes first.2 = first := by
  intro bytes first
  have received : zeroServer.Receives bytes (.modAcl correction) :=
    receives_write (by decide) (by decide +kernel)
  have immediate : ∀ request, zeroServer.Receives bytes request → request.txn? = none := by
    intro request also
    obtain rfl := Except.ok.inj (received.read.symm.trans also.read)
    rfl
  have ordinary : ¬ (first.1 = .ok .none ∧ ∃ args,
      Request.format.readAll bytes = .ok (.createContainer args) ∨
        Request.format.readAll bytes = .ok (.removeContainer args)) := by
    simp [received.read]
  obtain ⟨kept, again⟩ := retry_safe zeroServer bytes repetitive immediate
  obtain ⟨told, stored⟩ := answer_edit received edits_correction acl_repetitive
  have listed : correction.revise ⟨[⟨7⟩, ⟨8⟩, ⟨7⟩]⟩ = ⟨[⟨7⟩, ⟨10⟩]⟩ :=
    congrArg UidSet.mk ((UidSet.members_dedup_amend _ _ _).trans (by decide))
  rw [listed] at stored
  exact ⟨immediate, told, stored, Prod.ext (again ordinary) kept⟩

end Server

end CapabilityGuard
