import CapabilityGuard.Proofs.Guard.Demand
import CapabilityGuard.Proofs.Store.Lookup

/-! Capabilities are issued to the members of committed ACLs and to nobody else. Whoever is refused
is not told why, and what was issued is accepted from then on, whatever becomes of the ACL. -/
namespace CapabilityGuard

namespace Guard

variable {guard : Guard} {args : Request.Exchange} {s : Store}

/-- The tokens verify, and the principal is on the committed ACL. -/
structure Permits (guard : Guard) (args : Request.Exchange) (s : Store) : Prop where
  identified : args.cred.mac = .compute guard.key args.cred.data.payload.toList
  shown : ∀ cap, args.cap = some cap → cap.mac = .compute guard.key cap.data.payload.toList
  listed : ∃ acls uids, s.containers[args.cid]? = some acls ∧ acls[args.op]? = some uids ∧
    args.cred.data.uid ∈ uids.members

/-- The capability that an exchange asks for. -/
def issued (guard : Guard) (args : Request.Exchange) : Capability :=
  .issue guard.key ⟨args.cid, args.op, args.cred.data.uid⟩

theorem tokens_verify_iff :
    (args.cred.verifies guard.key && args.cap.all (Capability.verifies guard.key)) = true ↔
      args.cred.mac = .compute guard.key args.cred.data.payload.toList ∧
      ∀ cap, args.cap = some cap → cap.mac = .compute guard.key cap.data.payload.toList := by
  simp [Credential.verifies, Capability.verifies, Option.all_eq_true]

theorem exchange_of_permits (permitted : guard.Permits args s) :
    (guard.exchange args s).1 = .ok (.cap (guard.issued args)) := by
  have read : Backend.acl s args.cid args.op = (s.acl args.cid args.op, s) := rfl
  obtain ⟨acls, uids, found, stored, member⟩ := permitted.listed
  have listed : s.acl args.cid args.op = .ok uids := Store.acl_eq_ok_iff.mpr ⟨acls, found, stored⟩
  have present : uids.contains args.cred.data.uid = true := by simpa [UidSet.contains] using member
  have genuine := tokens_verify_iff.mpr ⟨permitted.identified, permitted.shown⟩
  rw [exchange, if_pos genuine, read, listed]
  simp only [present, if_true]
  rfl

theorem exchange_of_forbidden (forbidden : ¬ guard.Permits args s) :
    (guard.exchange args s).1 = .error .unauthorized := by
  have read : Backend.acl s args.cid args.op = (s.acl args.cid args.op, s) := rfl
  rw [exchange]
  split
  next genuine =>
    rw [read]
    cases answer : s.acl args.cid args.op with
    | error cause =>
      -- the two errors of a look-up are the two that are turned into a refusal
      rcases Store.acl_error answer with rfl | rfl <;> rfl
    | ok uids =>
      obtain ⟨identified, shown⟩ := tokens_verify_iff.mp genuine
      obtain ⟨acls, found, stored⟩ := Store.acl_eq_ok_iff.mp answer
      have absent : uids.contains args.cred.data.uid = false := by
        apply Bool.eq_false_iff.mpr
        intro present
        have member : args.cred.data.uid ∈ uids.members := by
          simpa [UidSet.contains] using present
        exact forbidden ⟨identified, shown, acls, uids, found, stored, member⟩
      simp [absent]
  next => rfl

theorem exchange_ok {body : Reply.Body} (succeeded : (guard.exchange args s).1 = .ok body) :
    guard.Permits args s ∧ body = .cap (guard.issued args) := by
  rcases Classical.em (guard.Permits args s) with permitted | forbidden
  · rw [exchange_of_permits permitted] at succeeded
    exact ⟨permitted, (Except.ok.inj succeeded).symm⟩
  · rw [exchange_of_forbidden forbidden] at succeeded
    cases succeeded

theorem check_cases (guard : Guard) (caps : List Capability) :
    guard.check caps = .ok .none ∨ guard.check caps = .error .unauthorized := by
  unfold check
  split
  · exact .inl rfl
  · exact .inr rfl

theorem check_ok {caps : List Capability} {body : Reply.Body}
    (succeeded : guard.check caps = .ok body) : body = .none := by
  rcases check_cases guard caps with accepted | denied
  · exact (Except.ok.inj (accepted.symm.trans succeeded)).symm
  · rw [denied] at succeeded
    cases succeeded

/-- All that a request can succeed with. -/
theorem answer_ok {request : Request} {body : Reply.Body}
    (succeeded : (guard.answer request s).1 = .ok body) :
    (body = .none ∧ ∃ demand, request.demand? = some demand) ∨
    (body = .none ∧ ∃ caps, request = .verifyCaps caps) ∨
    (∃ args uids, request = .getAcl args ∧ s.acl args.cid args.op = .ok uids ∧
      body = .acl uids) ∨
    ∃ args, request = .getCap args ∧ guard.Permits args s ∧ body = .cap (guard.issued args) := by
  cases asked : request.demand? with
  | some demand =>
    rw [answer_of_demand asked] at succeeded
    exact .inl ⟨(change_ok succeeded).2, demand, rfl⟩
  | none =>
    cases request with
    | getAcl args =>
      obtain ⟨uids, read, same⟩ := query_ok succeeded
      exact .inr (.inr (.inl ⟨args, uids, rfl, read, same⟩))
    | getCap args =>
      obtain ⟨permitted, given⟩ := exchange_ok succeeded
      exact .inr (.inr (.inr ⟨args, rfl, permitted, given⟩))
    | verifyCaps caps => exact .inr (.inl ⟨check_ok succeeded, caps, rfl⟩)
    | createContainer | removeContainer | createAcl | modAcl => cases asked

theorem exchange_of_cap {request : Request} {cap : Capability}
    (succeeded : (guard.answer request s).1 = .ok (.cap cap)) :
    ∃ args, request = .getCap args ∧ guard.Permits args s ∧ cap = guard.issued args := by
  rcases answer_ok succeeded with ⟨other, _⟩ | ⟨other, _⟩ | ⟨_, _, _, _, other⟩ |
    ⟨args, asked, permitted, given⟩
  case inr.inr.inr => exact ⟨args, asked, permitted, Reply.Body.cap.inj given⟩
  all_goals cases other

theorem query_of_acl {request : Request} {uids : UidSet}
    (succeeded : (guard.answer request s).1 = .ok (.acl uids)) :
    ∃ args, request = .getAcl args ∧ s.acl args.cid args.op = .ok uids := by
  rcases answer_ok succeeded with ⟨other, _⟩ | ⟨other, _⟩ | ⟨args, listed, asked, read, same⟩ |
    ⟨_, _, _, other⟩
  case inr.inr.inl =>
    cases same
    exact ⟨args, asked, read⟩
  all_goals cases other

@[simp] theorem admits_issue (cid : ContainerId) (op : Operation) (holder : Uid)
    (allowed : Operation → Bool) :
    guard.admits (some (.issue guard.key ⟨cid, op, holder⟩)) cid allowed = allowed op := by
  simp [admits, Capability.verifies, Capability.issue]

/-- A request fails for no lack of authority, whatever is stored. -/
def Clears (guard : Guard) (request : Request) : Prop :=
  ∀ s : Store, (guard.answer request s).1 ≠ .error .unauthorized

theorem getAcl_clears {query : Request.AclQuery}
    (admitted : guard.admits query.cap query.cid (fun op => op = query.op || isAdmin op) = true) :
    guard.Clears (.getAcl query) := by
  intro s
  have passed : guard.answer (.getAcl query) s = (passOn .acl (s.acl query.cid query.op), s) :=
    query_of_admits admitted s
  rw [passed]
  exact passOn_ne_unauthorized _ _

theorem demand_clears {request : Request} {demand : Demand} (asked : request.demand? = some demand)
    (admitted : guard.admits demand.cap demand.change.cid isAdmin = true) :
    guard.Clears request := by
  intro s
  rw [answer_of_demand asked, change_of_admits admitted]
  exact passOn_ne_unauthorized _ _

/-- An exchange succeeds exactly when it is permitted, and gives the capability asked for. Otherwise
it is refused without a word about the store. The store stays as it is, and the capability is good
for its operation on the container, an admin one for everything there. -/
theorem exchange_exact (guard : Guard) (args : Request.Exchange) (s : Store) :
    ((∃ body, (guard.exchange args s).1 = .ok body) ↔ guard.Permits args s) ∧
    (guard.Permits args s → (guard.exchange args s).1 = .ok (.cap (guard.issued args))) ∧
    (¬ guard.Permits args s → (guard.exchange args s).1 = .error .unauthorized) ∧
    (guard.exchange args s).2 = s ∧
    (guard.issued args).verifies guard.key = true ∧
    guard.Clears (.getAcl ⟨args.cid, args.op, some (guard.issued args)⟩) ∧
    (args.op = .admin →
      (∀ op, guard.Clears (.getAcl ⟨args.cid, op, some (guard.issued args)⟩)) ∧
      ∀ request demand, request.demand? = some demand → demand.change.cid = args.cid →
        demand.cap = some (guard.issued args) → guard.Clears request) := by
  refine ⟨⟨?_, fun permitted => ⟨_, exchange_of_permits permitted⟩⟩, exchange_of_permits,
    exchange_of_forbidden, exchange_keeps args s, ?_, ?_, ?_⟩
  · intro succeeded
    obtain ⟨body, succeeded⟩ := succeeded
    exact (exchange_ok succeeded).1
  · simp [issued, Capability.issue, Capability.verifies]
  · apply getAcl_clears
    simp [issued]
  · intro admin
    constructor
    · intro op
      apply getAcl_clears
      simp [issued, admin, isAdmin]
    · intro request demand asked named shown
      apply demand_clears asked
      simp [named, shown, issued, admin, isAdmin]

end Guard

end CapabilityGuard
