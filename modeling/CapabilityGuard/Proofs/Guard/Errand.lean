import CapabilityGuard.Proofs.Guard.Demand
import CapabilityGuard.Store.Action

/-! What a request has done at a store for whoever shows the right capability. An errand is refused
for its capability alone, before the store is touched, and otherwise it is what the store makes of
it. -/
namespace CapabilityGuard

/-- An action on a store, the capability shown for it and the operations that allow it. -/
structure Errand where
  cap : Option Capability
  cid : ContainerId
  allowed : List Operation
  action : Store.Action
deriving DecidableEq

def Request.errand? : Request → Option Errand
  | createContainer a => some ⟨a.cap, a.cid, [.admin], .change a.txn (.create a.cid)⟩
  | removeContainer a => some ⟨a.cap, a.cid, [.admin], .change a.txn (.remove a.cid)⟩
  | createAcl a => some ⟨a.cap, a.cid, [.admin], .change a.txn (.put a.cid a.op a.uids.dedup)⟩
  | getAcl a => some ⟨a.cap, a.cid, [a.op, .admin], .acl a.cid a.op⟩
  | modAcl a => some ⟨a.cap, a.cid, [.admin], .change a.txn (.amend a.cid a.op a.set a.unset)⟩
  | getCap _ | verifyCaps _ => none

/-- No capability is shown, or one that does not verify, names another container or has an operation
that is not allowed. -/
def Errand.Refused (key : Key) (errand : Errand) : Prop :=
  errand.cap = none ∨ ∃ cap, errand.cap = some cap ∧
    (cap.mac ≠ .compute key cap.data.payload.toList ∨ cap.data.cid ≠ errand.cid ∨
      cap.data.op ∉ errand.allowed)

/-- How a reply tells what a store answered. -/
inductive Reply.Tells : Except StoreError Store.Answer → Reply → Prop
  | done : Tells (.ok .done) (.ok .none)
  | acl (uids : UidSet) : Tells (.ok (.acl uids)) (.ok (.acl uids))
  | failed (cause : StoreError) : Tells (.error cause) (.store cause.message)

theorem Reply.Tells.ne_unauthorized {answer : Except StoreError Store.Answer} {reply : Reply}
    (told : Reply.Tells answer reply) : reply ≠ .unauthorized := by
  cases told <;> simp

theorem Request.errand_cases {request : Request} {errand : Errand}
    (asked : request.errand? = some errand) :
    (∃ demand, request.demand? = some demand ∧
      errand = ⟨demand.cap, demand.change.cid, [.admin], .change demand.txn demand.change⟩) ∨
    ∃ args, request = .getAcl args ∧
      errand = ⟨args.cap, args.cid, [args.op, .admin], .acl args.cid args.op⟩ := by
  cases request with
  | createContainer | removeContainer | createAcl | modAcl =>
    cases asked
    exact .inl ⟨_, rfl, rfl⟩
  | getAcl args =>
    cases asked
    exact .inr ⟨args, rfl, rfl⟩
  | getCap | verifyCaps => cases asked

namespace Guard

variable {guard : Guard} {request : Request} {errand : Errand}

theorem refused_iff : errand.Refused guard.key ↔
    guard.admits errand.cap errand.cid (fun op => op ∈ errand.allowed) = false := by
  rw [← Bool.not_eq_true, admits_iff, Errand.Refused]
  cases errand.cap with
  | none => simp
  | some cap => simp [-not_and, Classical.not_and_iff_not_or_not]

theorem isAdmin_eq : isAdmin = fun op => decide (op ∈ [Operation.admin]) := by
  funext op
  simp [isAdmin]

theorem queried_eq (queried : Operation) :
    (fun op => decide (op = queried) || isAdmin op) =
      fun op => decide (op ∈ [queried, Operation.admin]) := by
  funext op
  simp [isAdmin]

theorem errand_refused {σ : Type} [Backend σ] (asked : request.errand? = some errand)
    (refused : errand.Refused guard.key) (s : σ) :
    guard.answer request s = (.error .unauthorized, s) := by
  have refused := refused_iff.mp refused
  rcases Request.errand_cases asked with ⟨demand, demanded, rfl⟩ | ⟨args, rfl, rfl⟩
  · rw [answer_of_demand demanded]
    exact change_refused (by rwa [isAdmin_eq]) demand.txn s
  · have denied := refused
    rw [← queried_eq] at denied
    simp [answer, query, denied]

theorem errand_admitted (asked : request.errand? = some errand)
    (admitted : ¬ errand.Refused guard.key) (s : Store) :
    Reply.Tells (s.perform errand.action).1 (.ofOutcome (guard.answer request s).1) ∧
      (guard.answer request s).2 = (s.perform errand.action).2 := by
  have admitted : guard.admits errand.cap errand.cid (fun op => op ∈ errand.allowed) = true := by
    simpa [refused_iff] using admitted
  rcases Request.errand_cases asked with ⟨demand, demanded, rfl⟩ | ⟨args, rfl, rfl⟩
  · rw [← isAdmin_eq] at admitted
    rw [answer_of_demand demanded, change_of_admits admitted]
    refine ⟨?_, rfl⟩
    change Reply.Tells ((s.change demand.txn demand.change).1.map fun _ => .done) _
    cases (s.change demand.txn demand.change).1 with
    | ok => exact .done
    | error cause => exact .failed cause
  · rw [← queried_eq] at admitted
    have read : guard.answer (.getAcl args) s = (passOn .acl (s.acl args.cid args.op), s) :=
      query_of_admits admitted s
    rw [read]
    refine ⟨?_, rfl⟩
    change Reply.Tells ((s.acl args.cid args.op).map .acl) _
    cases s.acl args.cid args.op with
    | ok uids => exact .acl uids
    | error cause => exact .failed cause

theorem check_genuine {caps : List Capability}
    (genuine : ∀ cap ∈ caps, cap.mac = .compute guard.key cap.data.payload.toList) :
    guard.check caps = .ok .none := by
  have verified : Capability.allVerify guard.key caps = true := by
    simpa [Capability.allVerify, Capability.verifies] using genuine
  rw [check, if_pos verified]

theorem check_forged {caps : List Capability}
    (forged : ∃ cap ∈ caps, cap.mac ≠ .compute guard.key cap.data.payload.toList) :
    guard.check caps = .error .unauthorized := by
  have unverified : ¬ Capability.allVerify guard.key caps = true := by
    simpa [Capability.allVerify, Capability.verifies] using forged
  rw [check, if_neg unverified]

end Guard

end CapabilityGuard
