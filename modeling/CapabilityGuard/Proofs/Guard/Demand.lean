import CapabilityGuard.Server

/-! What a request asks of a store. Four procedures ask for one change each, which the guard hands
over under an admin capability and not otherwise; the others leave the store as it is. -/
namespace CapabilityGuard

/-- A change, the transaction to stage it under and the capability shown for it. -/
structure Demand where
  cap : Option Capability
  txn : Option TxnRef
  change : Change
deriving DecidableEq

def Request.demand? : Request → Option Demand
  | createContainer a => some ⟨a.cap, a.txn, .create a.cid⟩
  | removeContainer a => some ⟨a.cap, a.txn, .remove a.cid⟩
  | createAcl a => some ⟨a.cap, a.txn, .put a.cid a.op a.uids.dedup⟩
  | modAcl a => some ⟨a.cap, a.txn, .amend a.cid a.op a.set a.unset⟩
  | getAcl _ | getCap _ | verifyCaps _ => none

/-- The container that a request names. -/
def Request.cid? : Request → Option ContainerId
  | createContainer a | removeContainer a => some a.cid
  | createAcl a => some a.cid
  | getAcl a => some a.cid
  | modAcl a => some a.cid
  | getCap a => some a.cid
  | verifyCaps _ => none

theorem Request.cid?_of_demand {request : Request} {demand : Demand}
    (asked : request.demand? = some demand) : request.cid? = some demand.change.cid := by
  cases request <;> cases asked <;> rfl

namespace Guard

variable {guard : Guard} {request : Request}

theorem admits_iff {cap? : Option Capability} {cid : ContainerId} {allowed : Operation → Bool} :
    guard.admits cap? cid allowed = true ↔ ∃ cap, cap? = some cap ∧
      cap.mac = .compute guard.key cap.data.payload.toList ∧ cap.data.cid = cid ∧
      allowed cap.data.op = true := by
  cases cap? with
  | none => simp [admits]
  | some cap => simp [admits, Capability.verifies, and_assoc]

theorem answer_of_demand {σ : Type} [Backend σ] {demand : Demand}
    (asked : request.demand? = some demand) (s : σ) :
    guard.answer request s = guard.change demand.cap demand.txn demand.change s := by
  cases request <;> cases asked <;> rfl

/-- What a store answers, as the guard passes it on. -/
def passOn {α : Type} (body : α → Reply.Body) : Except StoreError α → Except Refusal Reply.Body
  | .ok value => .ok (body value)
  | .error cause => .error (.store cause)

@[simp] theorem passOn_eq_ok {α : Type} {body : α → Reply.Body} {result : Except StoreError α}
    {found : Reply.Body} :
    passOn body result = .ok found ↔ ∃ value, result = .ok value ∧ body value = found := by
  cases result <;> simp [passOn]

theorem passOn_ne_unauthorized {α : Type} (body : α → Reply.Body) (result : Except StoreError α) :
    passOn body result ≠ .error .unauthorized := by
  cases result <;> simp [passOn]

theorem change_of_admits {cap? : Option Capability} {change : Change}
    (admitted : guard.admits cap? change.cid isAdmin = true) (txn? : Option TxnRef) (s : Store) :
    guard.change cap? txn? change s =
      (passOn (fun _ => .none) (s.change txn? change).1, (s.change txn? change).2) := by
  have handed : Backend.change s txn? change = s.change txn? change := rfl
  rw [Guard.change, if_pos admitted, handed]
  rcases s.change txn? change with ⟨cause | ⟨⟩, after⟩ <;> rfl

theorem change_refused {σ : Type} [Backend σ] {cap? : Option Capability} {change : Change}
    (refused : guard.admits cap? change.cid isAdmin = false) (txn? : Option TxnRef) (s : σ) :
    guard.change cap? txn? change s = (.error .unauthorized, s) := by
  simp [Guard.change, refused]

theorem change_ok {cap? : Option Capability} {txn? : Option TxnRef} {change : Change} {s : Store}
    {body : Reply.Body} (succeeded : (guard.change cap? txn? change s).1 = .ok body) :
    guard.admits cap? change.cid isAdmin = true ∧ body = .none := by
  cases admitted : guard.admits cap? change.cid isAdmin with
  | false => simp [change_refused admitted] at succeeded
  | true =>
    rw [change_of_admits admitted, passOn_eq_ok] at succeeded
    obtain ⟨_, _, same⟩ := succeeded
    exact ⟨rfl, same.symm⟩

theorem query_of_admits {args : Request.AclQuery}
    (admitted : guard.admits args.cap args.cid (fun op => op = args.op || isAdmin op) = true)
    (s : Store) :
    guard.query args s = (passOn .acl (s.acl args.cid args.op), s) := by
  have read : Backend.acl s args.cid args.op = (s.acl args.cid args.op, s) := rfl
  rw [Guard.query, if_pos admitted, read]
  cases s.acl args.cid args.op <;> rfl

theorem query_ok {args : Request.AclQuery} {s : Store} {body : Reply.Body}
    (succeeded : (guard.query args s).1 = .ok body) :
    ∃ uids, s.acl args.cid args.op = .ok uids ∧ body = .acl uids := by
  cases admitted : guard.admits args.cap args.cid (fun op => op = args.op || isAdmin op) with
  | false => simp [query, admitted] at succeeded
  | true =>
    rw [query_of_admits admitted, passOn_eq_ok] at succeeded
    obtain ⟨uids, answered, same⟩ := succeeded
    exact ⟨uids, answered, same.symm⟩

theorem query_keeps (args : Request.AclQuery) (s : Store) : (guard.query args s).2 = s := by
  cases admitted : guard.admits args.cap args.cid (fun op => op = args.op || isAdmin op) with
  | false => simp [Guard.query, admitted]
  | true => rw [query_of_admits admitted]

theorem exchange_keeps (args : Request.Exchange) (s : Store) :
    (guard.exchange args s).2 = s := by
  have read : Backend.acl s args.cid args.op = (s.acl args.cid args.op, s) := rfl
  rw [Guard.exchange, read]
  split
  · rcases s.acl args.cid args.op with (_ | _ | _ | _ | _) | uids
    case ok => simp only; split <;> rfl
    all_goals rfl
  · rfl

theorem answer_keeps (silent : request.demand? = none) (s : Store) :
    (guard.answer request s).2 = s := by
  cases request with
  | getAcl args => exact query_keeps args s
  | getCap args => exact exchange_keeps args s
  | verifyCaps caps => rfl
  | createContainer | removeContainer | createAcl | modAcl => cases silent

end Guard

/-- How the end of a request is told. -/
def Reply.ofOutcome : Except Refusal Reply.Body → Reply
  | .ok body => .ok body
  | .error .unauthorized => .unauthorized
  | .error (.store cause) => .store cause.message

@[simp] theorem Reply.ofOutcome_eq_ok {outcome : Except Refusal Reply.Body} {body : Reply.Body} :
    Reply.ofOutcome outcome = .ok body ↔ outcome = .ok body := by
  rcases outcome with (_ | cause) | found <;> simp [Reply.ofOutcome]

namespace Server

/-- The bytes are within the limit and spell the request. -/
structure Receives (server : Server) (bytes : List UInt8) (request : Request) : Prop where
  fits : bytes.length ≤ server.maxRequestSize
  read : Request.format.readAll bytes = .ok request

section

variable {σ : Type} [Backend σ] {server : Server} {bytes : List UInt8} {request : Request}

theorem answer_of_receives (received : server.Receives bytes request) (s : σ) :
    server.answer bytes s =
      (.ofOutcome (server.guard.answer request s).1, (server.guard.answer request s).2) := by
  simp only [answer, if_neg (Nat.not_lt.mpr received.fits), received.read]
  rcases server.guard.answer request s with ⟨(_ | cause) | body, after⟩ <;> rfl

theorem answer_cases (server : Server) (bytes : List UInt8) (s : σ) :
    server.answer bytes s = (.malformed, s) ∨ ∃ request, server.Receives bytes request ∧
      server.answer bytes s =
        (.ofOutcome (server.guard.answer request s).1, (server.guard.answer request s).2) := by
  by_cases oversized : server.maxRequestSize < bytes.length
  · exact .inl (by simp [answer, oversized])
  · cases read : Request.format.readAll bytes with
    | error cause => exact .inl (by simp [answer, oversized, read])
    | ok request =>
      have received : server.Receives bytes request := ⟨Nat.not_lt.mp oversized, read⟩
      exact .inr ⟨request, received, answer_of_receives received s⟩

end

theorem answer_of_admits {server : Server} {bytes : List UInt8} {request : Request}
    {demand : Demand} (received : server.Receives bytes request)
    (asked : request.demand? = some demand)
    (admitted : server.guard.admits demand.cap demand.change.cid Guard.isAdmin = true) (s : Store) :
    server.answer bytes s =
      (.ofOutcome (Guard.passOn (fun _ => .none) (s.change demand.txn demand.change).1),
        (s.change demand.txn demand.change).2) := by
  rw [answer_of_receives received, Guard.answer_of_demand asked, Guard.change_of_admits admitted]

/-- Bytes leave the store alone, or they are a request for a change that the guard admits. -/
theorem serve_cases (server : Server) (bytes : List UInt8) (s : Store) :
    (server.serve bytes s).2 = s ∨ ∃ request demand,
      server.Receives bytes request ∧ request.demand? = some demand ∧
      server.guard.admits demand.cap demand.change.cid Guard.isAdmin = true ∧
      (server.serve bytes s).2 = (s.change demand.txn demand.change).2 := by
  rcases server.answer_cases bytes s with malformed | ⟨request, received, answered⟩
  · exact .inl (by rw [serve, malformed])
  · rw [serve, answered]
    cases asked : request.demand? with
    | none => exact .inl (Guard.answer_keeps asked s)
    | some demand =>
      simp only [Guard.answer_of_demand asked]
      cases admitted : server.guard.admits demand.cap demand.change.cid Guard.isAdmin with
      | false => exact .inl (by rw [Guard.change_refused admitted])
      | true =>
        exact .inr ⟨request, demand, received, asked, admitted,
          by rw [Guard.change_of_admits admitted]⟩

end Server

end CapabilityGuard
