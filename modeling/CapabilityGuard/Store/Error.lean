import CapabilityGuard.Identifiers

/-! Why a store refuses. The text names the kind of error and the container, operation or
transaction that was asked for. -/
namespace CapabilityGuard

inductive StoreError
  | provider (message : String)
  | containerExists (cid : ContainerId)
  | containerNotFound (cid : ContainerId)
  | aclNotFound (cid : ContainerId) (op : Operation)
  | unknownTxn (txn : TxnRef)
deriving DecidableEq

def StoreError.message : StoreError → String
  | .provider message =>
    "unhandled acl store provider error: memory store error: " ++ message
  | .containerExists cid => "container " ++ cid.hex ++ " already exists"
  | .containerNotFound cid => "container " ++ cid.hex ++ " not found"
  | .aclNotFound cid op => "no acl for " ++ op.name ++ " on container " ++ cid.hex
  | .unknownTxn txn => "unknown transaction " ++ txn.text

end CapabilityGuard
