import CapabilityGuard.Token.Capability
import CapabilityGuard.Token.Credential
import CapabilityGuard.UidSet
import CapabilityGuard.Wire.Format

/-! What a client may ask for. A request is a procedure word and the record of that procedure's
arguments; each byte string is the spelling of at most one request. -/
namespace CapabilityGuard

inductive Procedure
  | createContainer
  | removeContainer
  | createAcl
  | getAcl
  | modAcl
  | getCap
  | verifyCaps
deriving DecidableEq

namespace Procedure

def code : Procedure → UInt32
  | createContainer => 1
  | removeContainer => 2
  | createAcl => 3
  | getAcl => 4
  | modAcl => 5
  | getCap => 6
  | verifyCaps => 7

def ofCode? : UInt32 → Option Procedure
  | 1 => some createContainer
  | 2 => some removeContainer
  | 3 => some createAcl
  | 4 => some getAcl
  | 5 => some modAcl
  | 6 => some getCap
  | 7 => some verifyCaps
  | _ => none

def name : Procedure → String
  | createContainer => "create_container"
  | removeContainer => "remove_container"
  | createAcl => "create_acl"
  | getAcl => "get_acl"
  | modAcl => "mod_acl"
  | getCap => "get_cap"
  | verifyCaps => "verify_caps"

end Procedure

namespace Request

/-- Creating or removing a container. -/
structure Container where
  txn : Option TxnRef
  cid : ContainerId
  cap : Option Capability
deriving DecidableEq

/-- Replacing the ACL of an operation. -/
structure AclPut where
  txn : Option TxnRef
  cid : ContainerId
  op : Operation
  uids : UidSet
  cap : Option Capability
deriving DecidableEq

structure AclQuery where
  cid : ContainerId
  op : Operation
  cap : Option Capability
deriving DecidableEq

/-- Adding to an ACL the uids of `set` and then dropping those of `unset`. -/
structure AclEdit where
  txn : Option TxnRef
  cid : ContainerId
  op : Operation
  set : UidSet
  unset : UidSet
  cap : Option Capability
deriving DecidableEq

/-- Exchanging a credential for a capability. -/
structure Exchange where
  cid : ContainerId
  op : Operation
  cred : Credential
  cap : Option Capability
deriving DecidableEq

def optionalTxn : Wire.Format (Option TxnRef) := TxnRef.format.optional

def optionalCap : Wire.Format (Option Capability) := Capability.format.optional

def Container.format : Wire.Format Container :=
  (optionalTxn.pair (ContainerId.format.toFormat.pair optionalCap)).map
    (fun (txn, cid, cap) => ⟨txn, cid, cap⟩) (fun a => (a.txn, a.cid, a.cap))

def AclPut.format : Wire.Format AclPut :=
  (optionalTxn.pair (ContainerId.format.toFormat.pair (Operation.format.toFormat.pair
    (UidSet.format.pair optionalCap)))).map
    (fun (txn, cid, op, uids, cap) => ⟨txn, cid, op, uids, cap⟩)
    (fun a => (a.txn, a.cid, a.op, a.uids, a.cap))

def AclQuery.format : Wire.Format AclQuery :=
  (ContainerId.format.toFormat.pair (Operation.format.toFormat.pair optionalCap)).map
    (fun (cid, op, cap) => ⟨cid, op, cap⟩) (fun a => (a.cid, a.op, a.cap))

def AclEdit.format : Wire.Format AclEdit :=
  (optionalTxn.pair (ContainerId.format.toFormat.pair (Operation.format.toFormat.pair
    (UidSet.format.pair (UidSet.format.pair optionalCap))))).map
    (fun (txn, cid, op, set, unset, cap) => ⟨txn, cid, op, set, unset, cap⟩)
    (fun a => (a.txn, a.cid, a.op, a.set, a.unset, a.cap))

def Exchange.format : Wire.Format Exchange :=
  (ContainerId.format.toFormat.pair (Operation.format.toFormat.pair
    (Credential.format.toFormat.pair optionalCap))).map
    (fun (cid, op, cred, cap) => ⟨cid, op, cred, cap⟩) (fun a => (a.cid, a.op, a.cred, a.cap))

def batch : Wire.Format (List Capability) := Capability.format.sequence

end Request

inductive Request
  | createContainer (args : Request.Container)
  | removeContainer (args : Request.Container)
  | createAcl (args : Request.AclPut)
  | getAcl (args : Request.AclQuery)
  | modAcl (args : Request.AclEdit)
  | getCap (args : Request.Exchange)
  | verifyCaps (caps : List Capability)
deriving DecidableEq

namespace Request

def procedure : Request → Procedure
  | createContainer _ => .createContainer
  | removeContainer _ => .removeContainer
  | createAcl _ => .createAcl
  | getAcl _ => .getAcl
  | modAcl _ => .modAcl
  | getCap _ => .getCap
  | verifyCaps _ => .verifyCaps

/-- The arguments of a procedure. -/
def arguments : Procedure → Wire.Format Request
  | .createContainer => Container.format.alternative createContainer
      fun | createContainer args => some args | _ => none
  | .removeContainer => Container.format.alternative removeContainer
      fun | removeContainer args => some args | _ => none
  | .createAcl => AclPut.format.alternative createAcl
      fun | createAcl args => some args | _ => none
  | .getAcl => AclQuery.format.alternative getAcl
      fun | getAcl args => some args | _ => none
  | .modAcl => AclEdit.format.alternative modAcl
      fun | modAcl args => some args | _ => none
  | .getCap => Exchange.format.alternative getCap
      fun | getCap args => some args | _ => none
  | .verifyCaps => batch.alternative verifyCaps
      fun | verifyCaps caps => some caps | _ => none

def format : Wire.Format Request :=
  .tagged (fun request => request.procedure.code) .unknownProcedure fun code =>
    (Procedure.ofCode? code).map arguments

end Request

end CapabilityGuard
