import CapabilityGuard.Proofs.Message.Reply
import CapabilityGuard.Proofs.Message.Spelling
import CapabilityGuard.Transport.Client
import CapabilityGuard.Transport.Scripted

/-! What a caller concludes from what a transport brings. One byte string goes out, and of all that
can come back only the writing of an OK reply with the right kind of body is a success; every other
reply, whatever cannot be read and every failure on the way has an error of its own. -/
namespace CapabilityGuard

namespace Transport

variable {σ τ : Type}

/-- The transport, with a record of what is submitted to it. -/
def recorded (transport : Transport σ τ) : Transport (σ × List (List UInt8)) τ where
  submit request s :=
    let (ticket, after) := transport.submit request s.1
    (ticket, after, s.2 ++ [request])
  wait ticket s :=
    let (reply, after) := transport.wait ticket s.1
    (reply, after, s.2)

/-- What a transport makes of a request: a reply, or the text with which one of its steps fails. -/
inductive Brings (transport : Transport σ τ) (request : List UInt8) (s : σ) :
    Except String (List UInt8) → Prop
  | unsent {message : String} {after : σ}
      (failed : transport.submit request s = (.error message, after)) :
      Brings transport request s (.error message)
  | waited {ticket : τ} {middle after : σ} {brought : Except String (List UInt8)}
      (sent : transport.submit request s = (.ok ticket, middle))
      (ended : transport.wait ticket middle = (brought, after)) : Brings transport request s brought

/-- The kind of body with which a procedure answers. -/
inductive Answers : Procedure → Reply.Body → Prop
  | acl (uids : UidSet) : Answers .getAcl (.acl uids)
  | cap (cap : Capability) : Answers .getCap (.cap cap)
  | none {procedure : Procedure} (unlisted : procedure ≠ .getAcl) (unissued : procedure ≠ .getCap) :
      Answers procedure .none

/-- What the caller of a procedure concludes from a reply, or from a failure to get one. -/
inductive Concludes (procedure : Procedure) :
    Except String (List UInt8) → Except Failure Reply.Body → Prop
  | lost (message : String) : Concludes procedure (.error message) (.error (.transport message))
  | undecodable {bytes : List UInt8} {cause : Wire.Error}
      (rejected : Reply.format.readAll bytes = .error cause) :
      Concludes procedure (.ok bytes) (.error (.undecodable cause))
  | unauthorized :
      Concludes procedure (.ok (Reply.format.write .unauthorized)) (.error .unauthorized)
  | malformed : Concludes procedure (.ok (Reply.format.write .malformed)) (.error .malformed)
  | store {message : String} (countable : message.utf8ByteSize ≤ Wire.maxCount) :
      Concludes procedure (.ok (Reply.format.write (.store message))) (.error (.store message))
  | unexpected {body : Reply.Body} (countable : body.Countable)
      (other : ¬ Answers procedure body) :
      Concludes procedure (.ok (Reply.format.write (.ok body)))
        (.error (.unexpectedReply procedure))
  | success {body : Reply.Body} (countable : body.Countable) (answers : Answers procedure body) :
      Concludes procedure (.ok (Reply.format.write (.ok body))) (.ok body)

theorem expects_iff {procedure : Procedure} {body : Reply.Body} :
    expects procedure body = true ↔ Answers procedure body := by
  constructor
  · intro expected
    cases body with
    | acl uids =>
      obtain rfl : procedure = .getAcl := by cases procedure <;> first | rfl | cases expected
      exact .acl uids
    | cap cap =>
      obtain rfl : procedure = .getCap := by cases procedure <;> first | rfl | cases expected
      exact .cap cap
    | none =>
      refine .none ?_ ?_
      all_goals
        rintro rfl
        cases expected
  · intro answers
    cases answers with
    | acl | cap => rfl
    | none unlisted unissued =>
      cases procedure with
      | getAcl => exact absurd rfl unlisted
      | getCap => exact absurd rfl unissued
      | createContainer | removeContainer | createAcl | modAcl | verifyCaps => rfl

theorem readAll_write_reply {reply : Reply} (countable : reply.Countable) :
    Reply.format.readAll (Reply.format.write reply) = .ok reply :=
  (Reply.format_exact.readAll_eq_ok_iff _ _).mpr ⟨countable, rfl⟩

theorem concludes_outcome (procedure : Procedure) (bytes : List UInt8) :
    Concludes procedure (.ok bytes) (outcome procedure bytes) := by
  cases read : Reply.format.readAll bytes with
  | error cause =>
    rw [outcome, read]
    exact .undecodable read
  | ok reply =>
    have spelled := (Reply.format_exact.readAll_eq_ok_iff _ _).mp read
    rw [outcome, read]
    obtain ⟨countable, rfl⟩ := spelled
    cases reply with
    | unauthorized => exact .unauthorized
    | malformed => exact .malformed
    | store message => exact .store countable
    | ok body =>
      by_cases expected : expects procedure body = true
      · simp only [if_pos expected]
        exact .success countable (expects_iff.mp expected)
      · simp only [if_neg expected]
        exact .unexpected countable (mt expects_iff.mpr expected)

theorem outcome_of_concludes {procedure : Procedure} {bytes : List UInt8}
    {result : Except Failure Reply.Body} (concluded : Concludes procedure (.ok bytes) result) :
    outcome procedure bytes = result := by
  cases concluded with
  | undecodable rejected => rw [outcome, rejected]
  | unauthorized =>
    rw [outcome, readAll_write_reply (show Reply.unauthorized.Countable from trivial)]
  | malformed => rw [outcome, readAll_write_reply (show Reply.malformed.Countable from trivial)]
  | @store message countable =>
    rw [outcome, readAll_write_reply (show (Reply.store message).Countable from countable)]
  | @unexpected body countable other =>
    rw [outcome, readAll_write_reply (show (Reply.ok body).Countable from countable)]
    exact if_neg (mt expects_iff.mp other)
  | @success body countable answers =>
    rw [outcome, readAll_write_reply (show (Reply.ok body).Countable from countable)]
    exact if_pos (expects_iff.mpr answers)

theorem Concludes.unique {procedure : Procedure} {brought : Except String (List UInt8)}
    {result result' : Except Failure Reply.Body} (concluded : Concludes procedure brought result)
    (concluded' : Concludes procedure brought result') : result = result' := by
  cases brought with
  | error message =>
    cases concluded
    cases concluded'
    rfl
  | ok bytes => exact (outcome_of_concludes concluded).symm.trans (outcome_of_concludes concluded')

section

variable {transport : Transport σ τ} {s : σ}

theorem Brings.unique {bytes : List UInt8} {brought brought' : Except String (List UInt8)}
    (brings : transport.Brings bytes s brought) (brings' : transport.Brings bytes s brought') :
    brought = brought' := by
  cases brings with
  | unsent failed =>
    cases brings' with
    | unsent failed' =>
      cases failed.symm.trans failed'
      rfl
    | waited sent ended => cases failed.symm.trans sent
  | waited sent ended =>
    cases brings' with
    | unsent failed => cases sent.symm.trans failed
    | waited sent' ended' =>
      cases sent.symm.trans sent'
      cases ended.symm.trans ended'
      rfl

theorem call_concludes (transport : Transport σ τ) (request : Request) (s : σ) :
    ∃ brought, transport.Brings (Request.format.write request) s brought ∧
      Concludes request.procedure brought (transport.call request s).1 := by
  unfold call
  rcases sent : transport.submit (Request.format.write request) s with ⟨message | ticket, middle⟩
  · exact ⟨_, .unsent sent, .lost message⟩
  · simp only
    rcases ended : transport.wait ticket middle with ⟨message | bytes, after⟩
    · exact ⟨_, .waited sent ended, .lost message⟩
    · exact ⟨_, .waited sent ended, concludes_outcome request.procedure bytes⟩

theorem call_eq_iff {request : Request} {result : Except Failure Reply.Body} :
    (transport.call request s).1 = result ↔
      ∃ brought, transport.Brings (Request.format.write request) s brought ∧
        Concludes request.procedure brought result := by
  constructor
  · rintro rfl
    exact call_concludes transport request s
  · rintro ⟨brought, brings, concluded⟩
    obtain ⟨brought', brings', concluded'⟩ := call_concludes transport request s
    obtain rfl := brings.unique brings'
    exact concluded'.unique concluded

theorem call_recorded (transport : Transport σ τ) (request : Request) (s : σ)
    (sent : List (List UInt8)) :
    transport.recorded.call request (s, sent) =
      ((transport.call request s).1, (transport.call request s).2,
        sent ++ [Request.format.write request]) := by
  unfold call
  rcases submitted : transport.submit (Request.format.write request) s with
    ⟨message | ticket, middle⟩
  · simp only [recorded, submitted]
  · simp only [recorded, submitted]
    rcases ended : transport.wait ticket middle with ⟨message | bytes, after⟩ <;> simp only [ended]

theorem call_eq_ok_iff {request : Request} {body : Reply.Body} :
    (transport.call request s).1 = .ok body ↔
      transport.Brings (Request.format.write request) s (.ok (Reply.format.write (.ok body))) ∧
        body.Countable ∧ Answers request.procedure body := by
  rw [call_eq_iff]
  constructor
  · rintro ⟨brought, brings, concluded⟩
    cases concluded with
    | success countable answers => exact ⟨brings, countable, answers⟩
  · rintro ⟨brings, countable, answers⟩
    exact ⟨_, brings, .success countable answers⟩

end

/-- What a client's call for a request comes to, without and with a record of what is submitted. The
record has the bytes of the request and nothing else, a server reads them as that request, and the
result is what can be concluded from what the transport brings. -/
structure Faithful (transport : Transport σ τ) (request : Request) (s : σ)
    (called : Except Failure Reply.Body × σ)
    (noted : Except Failure Reply.Body × σ × List (List UInt8)) : Prop where
  noted_eq : noted = (called.1, called.2, [Request.format.write request])
  read : Request.format.readAll (Request.format.write request) = .ok request
  result_iff : ∀ result, called.1 = result ↔
    ∃ brought, transport.Brings (Request.format.write request) s brought ∧
      Concludes request.procedure brought result
  success_iff : ∀ body, called.1 = .ok body ↔
    transport.Brings (Request.format.write request) s (.ok (Reply.format.write (.ok body))) ∧
      body.Countable ∧ Answers request.procedure body

theorem call_faithful (transport : Transport σ τ) (s : σ) {request : Request}
    (countable : request.Countable) :
    transport.Faithful request s (transport.call request s)
      (transport.recorded.call request (s, [])) where
  noted_eq := call_recorded transport request s []
  read := Request.readAll_write countable
  result_iff _ := call_eq_iff
  success_iff _ := call_eq_ok_iff

/-- Each method of a client sends the request of its procedure with exactly its arguments and
concludes for that procedure. -/
theorem methods_faithful (transport : Transport σ τ) (s : σ) :
    (∀ txn cid cap, transport.Faithful (.createContainer ⟨txn, cid, cap⟩) s
      (transport.createContainer txn cid cap s)
      (transport.recorded.createContainer txn cid cap (s, []))) ∧
    (∀ txn cid cap, transport.Faithful (.removeContainer ⟨txn, cid, cap⟩) s
      (transport.removeContainer txn cid cap s)
      (transport.recorded.removeContainer txn cid cap (s, []))) ∧
    (∀ txn cid op uids cap, uids.size ≤ Wire.maxCount →
      transport.Faithful (.createAcl ⟨txn, cid, op, uids, cap⟩) s
        (transport.createAcl txn cid op uids cap s)
        (transport.recorded.createAcl txn cid op uids cap (s, []))) ∧
    (∀ cid op cap, transport.Faithful (.getAcl ⟨cid, op, cap⟩) s (transport.getAcl cid op cap s)
      (transport.recorded.getAcl cid op cap (s, []))) ∧
    (∀ txn cid op set unset cap, set.size ≤ Wire.maxCount → unset.size ≤ Wire.maxCount →
      transport.Faithful (.modAcl ⟨txn, cid, op, set, unset, cap⟩) s
        (transport.modAcl txn cid op set unset cap s)
        (transport.recorded.modAcl txn cid op set unset cap (s, []))) ∧
    (∀ cid op cred cap, transport.Faithful (.getCap ⟨cid, op, cred, cap⟩) s
      (transport.getCap cid op cred cap s) (transport.recorded.getCap cid op cred cap (s, []))) ∧
    ∀ caps, caps.length ≤ Wire.maxCount → transport.Faithful (.verifyCaps caps) s
      (transport.verifyCaps caps s) (transport.recorded.verifyCaps caps (s, [])) := by
  refine ⟨?_, ?_, ?_, ?_, ?_, ?_, ?_⟩
  · exact fun txn cid cap => call_faithful transport s trivial
  · exact fun txn cid cap => call_faithful transport s trivial
  · exact fun txn cid op uids cap few => call_faithful transport s few
  · exact fun cid op cap => call_faithful transport s trivial
  · exact fun txn cid op set unset cap few few' => call_faithful transport s ⟨few, few'⟩
  · exact fun cid op cred cap => call_faithful transport s trivial
  · exact fun caps few => call_faithful transport s few

end Transport

end CapabilityGuard
