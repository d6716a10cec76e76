import CapabilityGuard.Proofs.Guard.Exchange
import CapabilityGuard.Proofs.Server.Decision
import CapabilityGuard.Proofs.Store.Refusal
import CapabilityGuard.Proofs.Transport.Conclusion
import CapabilityGuard.Transport.Direct

/-! A method of a client of a server in the same process is as good as the matching method of the
guard. The request is read as it was written and the guard is asked for the same thing, the reply is
read likewise, and its body is of the kind that the procedure answers with. -/
namespace CapabilityGuard

/-- The ACLs of a store have at most as many members as a count word can announce. -/
def Store.Countable (s : Store) : Prop :=
  ∀ (cid : ContainerId) (op : Operation) (uids : UidSet),
    s.acl cid op = .ok uids → uids.size ≤ Wire.maxCount

theorem Store.map_eq_ok {α β : Type} {f : α → β} {result : Except StoreError α} {answer : β}
    (succeeded : result.map f = .ok answer) : ∃ value, result = .ok value ∧ f value = answer := by
  cases result with
  | ok value => exact ⟨value, rfl, Except.ok.inj succeeded⟩
  | error cause => cases succeeded

theorem Store.acl_of_perform {s : Store} {action : Action} {uids : UidSet}
    (answered : (s.perform action).1 = .ok (.acl uids)) : ∃ cid op, s.acl cid op = .ok uids := by
  cases action with
  | acl cid op =>
    obtain ⟨listed, read, same⟩ := map_eq_ok answered
    cases same
    exact ⟨cid, op, read⟩
  | begin | hasContainer => cases answered
  | commit | abort | change =>
    obtain ⟨_, _, other⟩ := map_eq_ok answered
    cases other

theorem Reply.Tells.countable {s : Store} {action : Store.Action} {reply : Reply}
    (told : Reply.Tells (s.perform action).1 reply) (bounded : s.Countable) : reply.Countable := by
  generalize answered : (s.perform action).1 = answer at told
  cases told with
  | done => trivial
  | acl uids =>
    obtain ⟨cid, op, read⟩ := Store.acl_of_perform answered
    exact bounded cid op uids read
  | failed cause =>
    have short := (Store.perform_ordinary answered).utf8ByteSize_le
    exact Nat.le_trans short (by decide)

namespace Guard

variable {guard : Guard} {request : Request} {s : Store}

theorem exchange_cases (guard : Guard) (args : Request.Exchange) (s : Store) :
    (guard.exchange args s).1 = .ok (.cap (guard.issued args)) ∨
      (guard.exchange args s).1 = .error .unauthorized := by
  by_cases permitted : guard.Permits args s
  · exact .inl (exchange_of_permits permitted)
  · exact .inr (exchange_of_forbidden permitted)

theorem outcome_countable (guard : Guard) (request : Request) (bounded : s.Countable) :
    (Reply.ofOutcome (guard.answer request s).1).Countable := by
  -- Only an admitted errand brings something out of the store.
  cases asked : request.errand? with
  | some errand =>
    by_cases refused : errand.Refused guard.key
    · rw [errand_refused asked refused]
      trivial
    · exact (errand_admitted asked refused s).1.countable bounded
  | none =>
    cases request with
    | getCap args =>
      change (Reply.ofOutcome (guard.exchange args s).1).Countable
      rcases exchange_cases guard args s with issued | denied
      · rw [issued]
        trivial
      · rw [denied]
        trivial
    | verifyCaps caps =>
      change (Reply.ofOutcome (guard.check caps)).Countable
      rcases check_cases guard caps with accepted | denied
      · rw [accepted]
        trivial
      · rw [denied]
        trivial
    | createContainer | removeContainer | createAcl | getAcl | modAcl => cases asked

theorem outcome_expected {body : Reply.Body} (succeeded : (guard.answer request s).1 = .ok body) :
    Transport.expects request.procedure body = true := by
  rcases answer_ok succeeded with ⟨rfl, demand, asked⟩ | ⟨rfl, caps, rfl⟩ |
    ⟨args, uids, rfl, _, rfl⟩ | ⟨args, rfl, _, rfl⟩
  · cases request <;> cases asked <;> rfl
  · rfl
  · rfl
  · rfl

end Guard

namespace Transport

def Failure.ofRefusal : Refusal → Failure
  | .unauthorized => .unauthorized
  | .store cause => .store cause.message

theorem outcome_write {procedure : Procedure} {outcome : Except Refusal Reply.Body}
    (countable : (Reply.ofOutcome outcome).Countable)
    (expected : ∀ body, outcome = .ok body → expects procedure body = true) :
    Transport.outcome procedure (Reply.format.write (.ofOutcome outcome)) =
      outcome.mapError Failure.ofRefusal := by
  rw [Transport.outcome, readAll_write_reply countable]
  rcases outcome with (_ | cause) | body
  · rfl
  · rfl
  · simp only [Reply.ofOutcome, expected body rfl, if_true]
    rfl

theorem ok_of_mapError {α ε δ : Type} {f : ε → δ} {result : Except ε α} {value : α}
    (succeeded : result.mapError f = .ok value) : result = .ok value := by
  cases result with
  | ok found => exact congrArg Except.ok (Except.ok.inj succeeded)
  | error cause => cases succeeded

theorem error_of_mapError {α ε δ : Type} {f : ε → δ} {result : Except ε α} {failure : δ}
    (failed : result.mapError f = .error failure) :
    ∃ cause, result = .error cause ∧ f cause = failure := by
  cases result with
  | ok value => cases failed
  | error cause => exact ⟨cause, rfl, Except.error.inj failed⟩

/-- What a client's call comes to, beside what the guard comes to when it is asked directly. They
are the same as long as the request is within the limit of the server: the outcome, which has a body
of the right kind or is one of two failures, and the store. A longer request fails and changes
nothing. -/
structure Transparent (server : Server) (request : Request) (s : Store)
    (called : Except Failure Reply.Body × Store) (asked : Except Refusal Reply.Body × Store) :
    Prop where
  within : (Request.format.write request).length ≤ server.maxRequestSize →
    called = (asked.1.mapError Failure.ofRefusal, asked.2) ∧
    (∀ body, called.1 = .ok body → Answers request.procedure body) ∧
    ∀ failure, called.1 = .error failure →
      failure = .unauthorized ∨ ∃ cause : StoreError, failure = .store cause.message
  beyond : server.maxRequestSize < (Request.format.write request).length →
    called = (.error .malformed, s)

theorem call_eq_answer (server : Server) (request : Request) (s : Store) :
    (direct server).call request s =
      (outcome request.procedure
          (Reply.format.write (server.answer (Request.format.write request) s).1),
        (server.answer (Request.format.write request) s).2) := rfl

theorem call_of_fits {server : Server} {request : Request} {s : Store}
    (countable : request.Countable) (bounded : s.Countable)
    (fits : (Request.format.write request).length ≤ server.maxRequestSize) :
    (direct server).call request s =
      ((server.guard.answer request s).1.mapError Failure.ofRefusal,
        (server.guard.answer request s).2) := by
  have received : server.Receives (Request.format.write request) request :=
    ⟨fits, Request.readAll_write countable⟩
  have told := outcome_write (Guard.outcome_countable server.guard request bounded)
    fun body => Guard.outcome_expected
  rw [call_eq_answer, Server.answer_of_receives received, told]

theorem call_of_oversized {server : Server} {request : Request}
    (oversized : server.maxRequestSize < (Request.format.write request).length) (s : Store) :
    (direct server).call request s = (.error .malformed, s) := by
  -- The server answers before it reads, and its answer is read back like any other.
  have unreceived (other : Request) : ¬ server.Receives (Request.format.write request) other :=
    fun received => absurd oversized (Nat.not_lt.mpr received.fits)
  have read : Reply.format.readAll (Reply.format.write .malformed) = .ok .malformed :=
    readAll_write_reply trivial
  rw [call_eq_answer, Server.answer_of_unreceived unreceived, outcome, read]

theorem call_transparent (server : Server) {request : Request} {s : Store}
    (countable : request.Countable) (bounded : s.Countable) :
    Transparent server request s ((direct server).call request s)
      (server.guard.answer request s) where
  within fits := by
    rw [call_of_fits countable bounded fits]
    refine ⟨rfl, ?_, ?_⟩
    · intro body succeeded
      exact expects_iff.mp (Guard.outcome_expected (ok_of_mapError succeeded))
    · intro failure failed
      obtain ⟨refusal, _, rfl⟩ := error_of_mapError failed
      cases refusal with
      | unauthorized => exact .inl rfl
      | store cause => exact .inr ⟨cause, rfl⟩
  beyond oversized := call_of_oversized oversized s

/-- As long as lists can be counted, each method of a client comes to what the guard's method for
the same procedure comes to with the same arguments in the same store. -/
theorem methods_transparent (server : Server) (s : Store) (bounded : s.Countable) :
    (∀ txn cid cap, Transparent server (.createContainer ⟨txn, cid, cap⟩) s
      ((direct server).createContainer txn cid cap s)
      (server.guard.createContainer ⟨txn, cid, cap⟩ s)) ∧
    (∀ txn cid cap, Transparent server (.removeContainer ⟨txn, cid, cap⟩) s
      ((direct server).removeContainer txn cid cap s)
      (server.guard.removeContainer ⟨txn, cid, cap⟩ s)) ∧
    (∀ txn cid op uids cap, uids.size ≤ Wire.maxCount →
      Transparent server (.createAcl ⟨txn, cid, op, uids, cap⟩) s
        ((direct server).createAcl txn cid op uids cap s)
        (server.guard.createAcl ⟨txn, cid, op, uids, cap⟩ s)) ∧
    (∀ cid op cap, Transparent server (.getAcl ⟨cid, op, cap⟩) s
      ((direct server).getAcl cid op cap s) (server.guard.query ⟨cid, op, cap⟩ s)) ∧
    (∀ txn cid op set unset cap, set.size ≤ Wire.maxCount → unset.size ≤ Wire.maxCount →
      Transparent server (.modAcl ⟨txn, cid, op, set, unset, cap⟩) s
        ((direct server).modAcl txn cid op set unset cap s)
        (server.guard.modAcl ⟨txn, cid, op, set, unset, cap⟩ s)) ∧
    (∀ cid op cred cap, Transparent server (.getCap ⟨cid, op, cred, cap⟩) s
      ((direct server).getCap cid op cred cap s)
      (server.guard.exchange ⟨cid, op, cred, cap⟩ s)) ∧
    ∀ caps, caps.length ≤ Wire.maxCount → Transparent server (.verifyCaps caps) s
      ((direct server).verifyCaps caps s) (server.guard.check caps, s) := by
  refine ⟨?_, ?_, ?_, ?_, ?_, ?_, ?_⟩
  · exact fun txn cid cap => call_transparent server trivial bounded
  · exact fun txn cid cap => call_transparent server trivial bounded
  · exact fun txn cid op uids cap few => call_transparent server few bounded
  · exact fun cid op cap => call_transparent server trivial bounded
  · exact fun txn cid op set unset cap few few' => call_transparent server ⟨few, few'⟩ bounded
  · exact fun cid op cred cap => call_transparent server trivial bounded
  · exact fun caps few => call_transparent server few bounded

/-- A container of zeros that two principals may read. -/
def readable : Store :=
  { containers := (∅ : Containers).insert ⟨.zero 16⟩ ((∅ : Acls).insert .read ⟨[⟨7⟩, ⟨8⟩]⟩) }

def inquiry : Request.AclQuery :=
  ⟨⟨.zero 16⟩, .read, some (.issue ⟨.zero 32⟩ ⟨⟨.zero 16⟩, .read, ⟨7⟩⟩)⟩

theorem acl_readable {cid : ContainerId} {op : Operation} {uids : UidSet}
    (read : readable.acl cid op = .ok uids) : uids = ⟨[⟨7⟩, ⟨8⟩]⟩ := by
  obtain ⟨acls, found, listed⟩ := Store.acl_eq_ok_iff.mp read
  simp only [readable, Std.ExtHashMap.getElem?_insert, Std.ExtHashMap.getElem?_empty] at found
  split at found
  · obtain rfl := Option.some.inj found
    simp only [Std.ExtHashMap.getElem?_insert, Std.ExtHashMap.getElem?_empty] at listed
    split at listed
    · exact (Option.some.inj listed).symm
    · cases listed
  · cases found

theorem query_inquiry :
    Guard.query ⟨⟨.zero 32⟩⟩ inquiry readable = (.ok (.acl ⟨[⟨7⟩, ⟨8⟩]⟩), readable) := by
  have admitted : Guard.admits ⟨⟨.zero 32⟩⟩ inquiry.cap inquiry.cid
      (fun op => op = inquiry.op || Guard.isAdmin op) = true := Guard.admits_issue _ _ _ _
  have listed : readable.acl inquiry.cid inquiry.op = .ok ⟨[⟨7⟩, ⟨8⟩]⟩ := by
    simp [readable, inquiry, Store.acl]
  rw [Guard.query_of_admits admitted, listed]
  rfl

/-- An admin capability for the container of zeros. -/
def keeper : Capability := .issue ⟨.zero 32⟩ ⟨⟨.zero 16⟩, .admin, ⟨7⟩⟩

theorem createAcl_keeper (uids : UidSet) :
    ((⟨⟨.zero 32⟩⟩ : Guard).createAcl ⟨none, ⟨.zero 16⟩, .write, uids, some keeper⟩ readable).1 =
      .ok .none := by
  have admitted : Guard.admits ⟨⟨.zero 32⟩⟩ (some keeper) ⟨.zero 16⟩ Guard.isAdmin = true :=
    Guard.admits_issue _ _ _ _
  rw [Guard.createAcl, Guard.change_of_admits admitted]
  simp [Store.change, Change.apply, readable]

theorem check_keeper : Guard.check ⟨⟨.zero 32⟩⟩ [keeper] = .ok .none := by
  apply Guard.check_genuine
  simp [keeper, Capability.issue]

/-- An ACL is read, and read once more from a server that takes eight bytes at most. Another is made
of a list with a repeat, one is edited without a capability, and a batch is checked. -/
theorem methods_transparent_readable :
    let server : Server := ⟨⟨⟨.zero 32⟩⟩, Server.defaultMaxRequestSize⟩
    let narrow : Server := ⟨⟨⟨.zero 32⟩⟩, 8⟩
    readable.Countable ∧
    (direct server).getAcl inquiry.cid inquiry.op inquiry.cap readable =
      (.ok (.acl ⟨[⟨7⟩, ⟨8⟩]⟩), readable) ∧
    (direct narrow).getAcl inquiry.cid inquiry.op inquiry.cap readable =
      (.error .malformed, readable) ∧
    ((direct server).createAcl none ⟨.zero 16⟩ .write ⟨[⟨8⟩, ⟨8⟩]⟩ (some keeper) readable).1 =
      .ok .none ∧
    (direct server).modAcl none ⟨.zero 16⟩ .read ⟨[⟨9⟩]⟩ ⟨[⟨7⟩]⟩ none readable =
      (.error .unauthorized, readable) ∧
    (direct server).verifyCaps [keeper] readable = (.ok .none, readable) := by
  intro server narrow
  have bounded : readable.Countable := by
    intro cid op uids read
    rw [acl_readable read]
    decide
  obtain ⟨_, _, put, read, edit, _, check⟩ := methods_transparent server readable bounded
  obtain ⟨_, _, _, read', _, _, _⟩ := methods_transparent narrow readable bounded
  have read := read inquiry.cid inquiry.op inquiry.cap
  have read' := read' inquiry.cid inquiry.op inquiry.cap
  have put := put none ⟨.zero 16⟩ .write ⟨[⟨8⟩, ⟨8⟩]⟩ (some keeper) (by decide)
  have edit := edit none ⟨.zero 16⟩ .read ⟨[⟨9⟩]⟩ ⟨[⟨7⟩]⟩ none (by decide) (by decide)
  have check := check [keeper] (by decide)
  refine ⟨bounded, ?_, read'.beyond (by decide +kernel), ?_, ?_, ?_⟩
  · have queried : server.guard.query ⟨inquiry.cid, inquiry.op, inquiry.cap⟩ readable = _ :=
      query_inquiry
    rw [(read.within (by decide +kernel)).1, queried]
    rfl
  · rw [(put.within (by decide +kernel)).1, createAcl_keeper]
    rfl
  · rw [(edit.within (by decide +kernel)).1]
    rfl
  · rw [(check.within (by decide +kernel)).1, check_keeper]
    rfl

end Transport

end CapabilityGuard
