import CapabilityGuard.Message.Reply
import CapabilityGuard.Message.Request
import CapabilityGuard.Store.Backend

/-! The guard holds the key and decides on requests. The store is not touched before a presented
capability has been found to verify, to name the request's container and to allow what the
request does. -/
namespace CapabilityGuard

structure Guard where
  key : Key

inductive Refusal
  | unauthorized
  | store (cause : StoreError)
deriving DecidableEq

/-- What is said of any token or request that is not authorized. -/
def unauthorizedText : String := "unauthorized"

def Refusal.message : Refusal → String
  | .unauthorized => unauthorizedText
  | .store cause => cause.message

namespace Guard

variable {σ : Type} [Backend σ]

/-- A capability admits to a container when it verifies, names that container and has an allowed
operation. No capability admits to nothing. -/
def admits (guard : Guard) (cap? : Option Capability) (cid : ContainerId)
    (allowed : Operation → Bool) : Bool :=
  match cap? with
  | none => false
  | some cap => cap.verifies guard.key && cap.data.cid = cid && allowed cap.data.op

def isAdmin (op : Operation) : Bool := op = .admin

/-- Hands a change to the store under an admin capability for its container. -/
def change (guard : Guard) (cap? : Option Capability) (txn? : Option TxnRef) (change : Change)
    (s : σ) : Except Refusal Reply.Body × σ :=
  if guard.admits cap? change.cid isAdmin then
    match Backend.change s txn? change with
    | (.ok (), s) => (.ok .none, s)
    | (.error cause, s) => (.error (.store cause), s)
  else (.error .unauthorized, s)

/-- Reads an ACL under a capability for the operation asked about or an admin one. -/
def query (guard : Guard) (args : Request.AclQuery) (s : σ) : Except Refusal Reply.Body × σ :=
  if guard.admits args.cap args.cid (fun op => op = args.op || isAdmin op) then
    match Backend.acl s args.cid args.op with
    | (.ok uids, s) => (.ok (.acl uids), s)
    | (.error cause, s) => (.error (.store cause), s)
  else (.error .unauthorized, s)

/-- Issues a capability to a principal on the ACL. A container or ACL that does not exist permits
nobody. -/
def exchange (guard : Guard) (args : Request.Exchange) (s : σ) :
    Except Refusal Reply.Body × σ :=
  if args.cred.verifies guard.key && args.cap.all (Capability.verifies guard.key) then
    let holder := args.cred.data.uid
    match Backend.acl s args.cid args.op with
    | (.ok uids, s) =>
      if uids.contains holder then
        (.ok (.cap (.issue guard.key ⟨args.cid, args.op, holder⟩)), s)
      else (.error .unauthorized, s)
    | (.error (.containerNotFound _), s) => (.error .unauthorized, s)
    | (.error (.aclNotFound _ _), s) => (.error .unauthorized, s)
    | (.error cause, s) => (.error (.store cause), s)
  else (.error .unauthorized, s)

/-- Accepts a batch when all of it verifies. -/
def check (guard : Guard) (caps : List Capability) : Except Refusal Reply.Body :=
  if Capability.allVerify guard.key caps then .ok .none else .error .unauthorized

def createContainer (guard : Guard) (args : Request.Container) (s : σ) :
    Except Refusal Reply.Body × σ :=
  guard.change args.cap args.txn (.create args.cid) s

def removeContainer (guard : Guard) (args : Request.Container) (s : σ) :
    Except Refusal Reply.Body × σ :=
  guard.change args.cap args.txn (.remove args.cid) s

/-- Replaces an ACL. Repeated uids are collapsed. -/
def createAcl (guard : Guard) (args : Request.AclPut) (s : σ) : Except Refusal Reply.Body × σ :=
  guard.change args.cap args.txn (.put args.cid args.op args.uids.dedup) s

/-- Adds to an ACL and then drops from it. The lists are handed over as they are. -/
def modAcl (guard : Guard) (args : Request.AclEdit) (s : σ) : Except Refusal Reply.Body × σ :=
  guard.change args.cap args.txn (.amend args.cid args.op args.set args.unset) s

/-- Does what a request asks for. -/
def answer (guard : Guard) (request : Request) (s : σ) : Except Refusal Reply.Body × σ :=
  match request with
  | .createContainer args => guard.createContainer args s
  | .removeContainer args => guard.removeContainer args s
  | .createAcl args => guard.createAcl args s
  | .getAcl args => guard.query args s
  | .modAcl args => guard.modAcl args s
  | .getCap args => guard.exchange args s
  | .verifyCaps caps => (guard.check caps, s)

end Guard

end CapabilityGuard
