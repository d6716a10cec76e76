import CapabilityGuard.Proofs.Guard.Exchange
import CapabilityGuard.Proofs.Server.Decision
import CapabilityGuard.Proofs.Server.Isolation
import CapabilityGuard.Server.Operator

/-! Authority over a container comes from the operator. As long as tokens are not forged and the
operator has issued no admin capability for a container, nobody creates it, no change of it is
staged and no request about it succeeds. Capabilities come out of ACLs and ACLs out of capabilities,
so what is stored and what has been handed out are carried along together. -/
namespace CapabilityGuard

theorem Request.mem_capabilities_of_demand {request : Request} {demand : Demand} {cap : Capability}
    (asked : request.demand? = some demand) (shown : demand.cap = some cap) :
    cap ∈ request.capabilities := by
  cases request <;> cases asked <;> simpa [Request.capabilities] using shown

@[simp] theorem Reply.capability?_eq_some {reply : Reply} {cap : Capability} :
    reply.capability? = some cap ↔ reply = .ok (.cap cap) := by
  rcases reply with (_ | _ | _) | _ | _ | _ <;> simp [Reply.capability?]

namespace Server

/-- Tokens that verify in what the server reads have been handed out. -/
def Vouched (server : Server) (realm : Realm) (bytes : List UInt8) : Prop :=
  ∀ request, server.Receives bytes request →
    (∀ cred, request.credential? = some cred → cred.verifies server.guard.key = true →
      cred ∈ realm.credentials) ∧
    ∀ cap ∈ request.capabilities, cap.verifies server.guard.key = true → cap ∈ realm.capabilities

/-- At no point does a request carry a token that verifies and was not handed out before. -/
def Unforged (server : Server) (realm : Realm) (acts : List Act) : Prop :=
  ∀ earlier bytes, earlier ++ [.event (.request bytes)] <+: acts →
    server.Vouched (server.govern realm earlier) bytes

/-- The container is not there, nothing staged will make it, and nobody holds an admin capability
for it. -/
structure Unfounded (cid : ContainerId) (realm : Realm) : Prop where
  isolated : Isolated cid none realm.store
  ownerless : ∀ cap ∈ realm.capabilities, ¬ (cap.data.cid = cid ∧ cap.data.op = .admin)

variable {server : Server} {cid : ContainerId} {realm : Realm}

theorem unfounded_empty (cid : ContainerId) : Unfounded cid {} where
  isolated := ⟨by simp, fun txn changes opened => by simp at opened⟩
  ownerless := by simp

namespace Unfounded

theorem unlisted (unfounded : Unfounded cid realm) {args : Request.Exchange}
    (permitted : server.guard.Permits args realm.store) : args.cid ≠ cid := by
  intro same
  obtain ⟨acls, _, found, _⟩ := permitted.listed
  rw [same, unfounded.isolated.committed] at found
  cases found

theorem stranger (unfounded : Unfounded cid realm) {request : Request} {demand : Demand}
    {cap : Capability} {bytes : List UInt8} (vouched : server.Vouched realm bytes)
    (received : server.Receives bytes request) (asked : request.demand? = some demand)
    (shown : demand.cap = some cap)
    (issued : cap.mac = .compute server.guard.key cap.data.payload.toList) :
    ¬ (cap.data.cid = cid ∧ cap.data.op = .admin) := by
  have carried := Request.mem_capabilities_of_demand asked shown
  have verified : cap.verifies server.guard.key = true := by
    simpa [Capability.verifies] using issued
  exact unfounded.ownerless cap ((vouched request received).2 cap carried verified)

theorem refuses (unfounded : Unfounded cid realm) {bytes : List UInt8} {request : Request}
    (vouched : server.Vouched realm bytes) (received : server.Receives bytes request)
    (named : request.cid? = some cid) (body : Reply.Body) :
    (server.guard.answer request realm.store).1 ≠ .ok body := by
  intro succeeded
  cases asked : request.demand? with
  | some demand =>
    rw [Guard.answer_of_demand asked] at succeeded
    obtain ⟨cap, shown, issued, scope, admin⟩ := Guard.admits_iff.mp (Guard.change_ok succeeded).1
    have about : demand.change.cid = cid := by
      rw [Request.cid?_of_demand asked] at named
      exact Option.some.inj named
    have role : cap.data.op = .admin := by simpa [Guard.isAdmin] using admin
    exact unfounded.stranger vouched received asked shown issued ⟨scope.trans about, role⟩
  | none =>
    cases request with
    | getAcl args =>
      -- a capability for the operation may exist, but there is no ACL to be read
      obtain rfl := Option.some.inj named
      obtain ⟨uids, answered, _⟩ := Guard.query_ok succeeded
      obtain ⟨acls, found, _⟩ := Store.acl_eq_ok_iff.mp answered
      rw [unfounded.isolated.committed] at found
      cases found
    | getCap args =>
      obtain rfl := Option.some.inj named
      exact unfounded.unlisted (Guard.exchange_ok succeeded).1 rfl
    | verifyCaps caps => cases named
    | createContainer | removeContainer | createAcl | modAcl => cases asked

theorem given (unfounded : Unfounded cid realm) (event : Event) :
    ∀ cap ∈ server.given realm.store event, ¬ (cap.data.cid = cid ∧ cap.data.op = .admin) := by
  intro cap member
  cases event with
  | request bytes =>
    rcases server.answer_cases bytes realm.store with malformed | ⟨request, _, answered⟩
    · simp [Server.given, malformed, Reply.capability?] at member
    · have told : Reply.ofOutcome (server.guard.answer request realm.store).1 = .ok (.cap cap) := by
        simpa [Server.given, answered] using member
      obtain ⟨args, _, permitted, rfl⟩ := Guard.exchange_of_cap (Reply.ofOutcome_eq_ok.mp told)
      exact fun admin => unfounded.unlisted permitted admin.1
  | begin | commit | abort => cases member

theorem step (unfounded : Unfounded cid realm) {event : Event}
    (vouched : ∀ bytes, event = .request bytes → server.Vouched realm bytes) :
    Isolated cid none (server.step realm.store event) := by
  cases event with
  | request bytes =>
    rcases server.answer_cases bytes realm.store with malformed | ⟨request, received, _⟩
    · -- what is too long to be read may carry anything
      rw [Server.step, Server.serve, malformed]
      exact unfounded.isolated
    · apply unfounded.isolated.serve
      intro entitled
      obtain ⟨other, demand, cap, read, asked, _, shown, issued, admin⟩ := entitled
      obtain rfl : request = other := Except.ok.inj (received.read.symm.trans read)
      exact unfounded.stranger (vouched bytes rfl) received asked shown issued admin
  | begin | commit | abort =>
    apply unfounded.isolated.step
    intro bytes same
    cases same

theorem act (unfounded : Unfounded cid realm) {act : Act}
    (vouched : ∀ bytes, act = .event (.request bytes) → server.Vouched realm bytes)
    (unempowered : ∀ data, act = .empower data → ¬ (data.cid = cid ∧ data.op = .admin)) :
    Unfounded cid (server.act realm act) := by
  cases act with
  | event event =>
    refine ⟨unfounded.step fun bytes same => vouched bytes (by rw [same]), ?_⟩
    exact List.forall_mem_append.mpr ⟨unfounded.ownerless, unfounded.given event⟩
  | enrol data => exact ⟨unfounded.isolated, unfounded.ownerless⟩
  | empower data =>
    refine ⟨unfounded.isolated, List.forall_mem_append.mpr ⟨unfounded.ownerless, ?_⟩⟩
    simpa [Capability.issue] using unempowered data rfl

end Unfounded

theorem unforged_cons_iff {act : Act} {acts : List Act} :
    server.Unforged realm (act :: acts) ↔
      (∀ bytes, act = .event (.request bytes) → server.Vouched realm bytes) ∧
      server.Unforged (server.act realm act) acts := by
  constructor
  · intro unforged
    refine ⟨?_, ?_⟩
    · intro bytes same
      exact unforged [] bytes (by simp [same])
    · intro earlier bytes reached
      exact unforged (act :: earlier) bytes (by simpa using reached)
  · intro parts earlier bytes reached
    obtain ⟨now, later⟩ := parts
    cases earlier with
    | nil => exact now bytes (by simpa [eq_comm] using reached)
    | cons first earlier =>
      rw [List.cons_append, List.cons_prefix_cons] at reached
      obtain ⟨rfl, reached⟩ := reached
      exact later earlier bytes reached

theorem Unfounded.govern (unfounded : Unfounded cid realm) {acts : List Act}
    (unforged : server.Unforged realm acts)
    (unempowered : ∀ data, .empower data ∈ acts → ¬ (data.cid = cid ∧ data.op = .admin)) :
    Unfounded cid (server.govern realm acts) := by
  induction acts generalizing realm with
  | nil => exact unfounded
  | cons act acts ih =>
    obtain ⟨vouched, later⟩ := unforged_cons_iff.mp unforged
    have next : Unfounded cid (server.act realm act) :=
      unfounded.act vouched fun data same => unempowered data (by simp [same])
    exact ih next later fun data member => unempowered data (by simp [member])

/-- Without an admin capability from the operator a container stays out of reach: at every point of
an unforged run it is absent, unstaged, and no request that names it succeeds. -/
theorem no_escalation (server : Server) (cid : ContainerId) (acts : List Act)
    (unforged : server.Unforged {} acts)
    (unempowered : ∀ data, .empower data ∈ acts → ¬ (data.cid = cid ∧ data.op = .admin)) :
    ∀ earlier, earlier <+: acts →
      (server.govern {} earlier).store.containers[cid]? = none ∧
      (server.govern {} earlier).store.EachStaged (fun change => change.cid ≠ cid) ∧
      ∀ bytes request body, earlier ++ [.event (.request bytes)] <+: acts →
        Request.format.readAll bytes = .ok request → request.cid? = some cid →
        (server.answer bytes (server.govern {} earlier).store).1 ≠ .ok body := by
  intro earlier reached
  have unfounded : Unfounded cid (server.govern {} earlier) := by
    apply (unfounded_empty cid).govern
    · exact fun before bytes next => unforged before bytes (next.trans reached)
    · exact fun data member => unempowered data (reached.subset member)
  refine ⟨unfounded.isolated.committed, unfounded.isolated.unstaged, ?_⟩
  intro bytes request body next read named succeeded
  rcases server.answer_cases bytes (server.govern {} earlier).store with
    malformed | ⟨other, received, answered⟩
  · rw [malformed] at succeeded
    cases succeeded
  · rw [answered, Reply.ofOutcome_eq_ok] at succeeded
    obtain rfl : request = other := Except.ok.inj (read.symm.trans received.read)
    exact unfounded.refuses (unforged earlier bytes next) received named body succeeded

theorem unforged_nil (server : Server) (realm : Realm) : server.Unforged realm [] := by
  intro earlier bytes reached
  simp at reached

theorem vouched_write {request : Request} (countable : request.Countable)
    (credential : ∀ cred, request.credential? = some cred → cred.verifies server.guard.key = true →
      cred ∈ realm.credentials)
    (capabilities : ∀ cap ∈ request.capabilities, cap.verifies server.guard.key = true →
      cap ∈ realm.capabilities) :
    server.Vouched realm (Request.format.write request) := by
  intro other received
  have read := Request.readAll_write countable
  obtain rfl : request = other := Except.ok.inj (read.symm.trans received.read)
  exact ⟨credential, capabilities⟩

theorem step_of_admits {request : Request} {demand : Demand} (countable : request.Countable)
    (fits : (Request.format.write request).length ≤ server.maxRequestSize)
    (asked : request.demand? = some demand)
    (admitted : server.guard.admits demand.cap demand.change.cid Guard.isAdmin = true) (s : Store) :
    server.step s (.request (Request.format.write request)) =
      (s.change demand.txn demand.change).2 := by
  rw [step, serve, answer_of_admits (receives_write countable fits) asked admitted]

def founder : Capability := .issue zeroKey ⟨otherCid, .admin, ⟨7⟩⟩

def heir : Credential := .issue zeroKey ⟨⟨8⟩, .zero 24⟩

def inherited : Capability := .issue zeroKey ⟨otherCid, .admin, ⟨8⟩⟩

def creation : Request := .createContainer ⟨none, otherCid, some founder⟩

def appointment : Request := .createAcl ⟨none, otherCid, .admin, ⟨[⟨8⟩]⟩, some founder⟩

def succession : Request := .getCap ⟨otherCid, .admin, heir, none⟩

def vacant : Store := { containers := (∅ : Containers).insert otherCid ∅ }

def founded : Store :=
  { containers := vacant.containers.insert otherCid ((∅ : Acls).insert .admin ⟨[⟨8⟩]⟩) }

theorem founder_admitted :
    zeroServer.guard.admits (some founder) otherCid Guard.isAdmin = true :=
  Guard.admits_issue otherCid .admin ⟨7⟩ Guard.isAdmin

theorem step_creation :
    zeroServer.step {} (.request (Request.format.write creation)) = vacant := by
  rw [step_of_admits (by decide) (by decide +kernel) rfl founder_admitted]
  simp [Store.change, Change.apply, vacant]

theorem step_appointment :
    zeroServer.step vacant (.request (Request.format.write appointment)) = founded := by
  rw [step_of_admits (by decide) (by decide +kernel) rfl founder_admitted]
  simp [Store.change, Change.apply, UidSet.dedup, UidSet.keepNew, founded, vacant]

theorem given_succession :
    zeroServer.given founded (.request (Request.format.write succession)) = [inherited] := by
  have permitted : zeroServer.guard.Permits ⟨otherCid, .admin, heir, none⟩ founded := by
    refine ⟨rfl, by simp, _, _, Std.ExtHashMap.getElem?_insert_self,
      Std.ExtHashMap.getElem?_insert_self, ?_⟩
    simp [heir, Credential.issue]
  have answered : (zeroServer.guard.answer succession founded).1 = .ok (.cap inherited) :=
    Guard.exchange_of_permits permitted
  rw [given, answer_of_receives (receives_write (by decide) (by decide +kernel)), answered]
  rfl

/-- The other container is founded under the operator's capability and passed on to a member of its
ACL, whose capability is then tried on the container of zeros, as is a forged one. -/
def founding : List Act :=
  [.empower ⟨otherCid, .admin, ⟨7⟩⟩, .enrol ⟨⟨8⟩, .zero 24⟩,
    .event (.request (Request.format.write creation)),
    .event (.request (Request.format.write appointment)),
    .event (.request (Request.format.write succession)),
    .event .begin,
    .event (.request (Request.format.write (.createContainer ⟨some ⟨1⟩, zeroCid, some inherited⟩))),
    .event (.request (Request.format.write
      (.createContainer ⟨none, zeroCid, some ⟨⟨zeroCid, .admin, ⟨7⟩⟩, ⟨.zero 32⟩⟩⟩))),
    .event (.commit ⟨1⟩)]

theorem no_escalation_founding :
    zeroServer.Unforged {} founding ∧
    (∀ data, .empower data ∈ founding → ¬ (data.cid = zeroCid ∧ data.op = .admin)) ∧
    (zeroServer.govern {} founding).store.containers[zeroCid]? = none := by
  have unforged : zeroServer.Unforged {} founding := by
    simp only [founding, unforged_cons_iff, reduceCtorEq, Act.event.injEq, Event.request.injEq,
      forall_eq', false_implies, implies_true, true_and, unforged_nil, and_true]
    refine ⟨?_, ?_, ?_, ?_, ?_⟩
    · apply vouched_write (by decide)
      · simp [creation, Request.credential?]
      · simp [creation, Request.capabilities, act, founder, zeroServer]
    · apply vouched_write (by decide)
      · simp [appointment, Request.credential?]
      · simp [appointment, Request.capabilities, act, founder, zeroServer]
    · apply vouched_write (by decide)
      · simp [succession, Request.credential?, heir, act, zeroServer]
      · simp [succession, Request.capabilities]
    · apply vouched_write (by decide)
      · simp [Request.credential?]
      · simp [Request.capabilities, act, step_creation, step_appointment, given_succession]
    · apply vouched_write (by decide)
      · simp [Request.credential?]
      · have forged : (⟨.zero 32⟩ : Mac) ≠
            .compute zeroKey (CapabilityData.payload ⟨zeroCid, .admin, ⟨7⟩⟩).toList := by
          decide +kernel
        simp [Request.capabilities, Capability.verifies, zeroServer, forged]
  have unempowered : ∀ data, .empower data ∈ founding →
      ¬ (data.cid = zeroCid ∧ data.op = .admin) := by
    intro data given
    have scope : otherCid ≠ zeroCid := by decide
    obtain rfl : data = ⟨otherCid, .admin, ⟨7⟩⟩ := by simpa [founding] using given
    exact fun admin => scope admin.1
  exact ⟨unforged, unempowered,
    (no_escalation zeroServer zeroCid founding unforged unempowered founding
      (List.prefix_refl _)).1⟩

end Server

end CapabilityGuard
