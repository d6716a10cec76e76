import CapabilityGuard.Transport.Basic

/-! The methods of a client. Each makes one request of its arguments and calls with it. -/
namespace CapabilityGuard.Transport

variable {σ τ : Type} (transport : Transport σ τ)

def createContainer (txn : Option TxnRef) (cid : ContainerId) (cap : Option Capability) (s : σ) :
    Except Failure Reply.Body × σ :=
  transport.call (.createContainer ⟨txn, cid, cap⟩) s

def removeContainer (txn : Option TxnRef) (cid : ContainerId) (cap : Option Capability) (s : σ) :
    Except Failure Reply.Body × σ :=
  transport.call (.removeContainer ⟨txn, cid, cap⟩) s

def createAcl (txn : Option TxnRef) (cid : ContainerId) (op : Operation) (uids : UidSet)
    (cap : Option Capability) (s : σ) : Except Failure Reply.Body × σ :=
  transport.call (.createAcl ⟨txn, cid, op, uids, cap⟩) s

def getAcl (cid : ContainerId) (op : Operation) (cap : Option Capability) (s : σ) :
    Except Failure Reply.Body × σ :=
  transport.call (.getAcl ⟨cid, op, cap⟩) s

def modAcl (txn : Option TxnRef) (cid : ContainerId) (op : Operation) (set unset : UidSet)
    (cap : Option Capability) (s : σ) : Except Failure Reply.Body × σ :=
  transport.call (.modAcl ⟨txn, cid, op, set, unset, cap⟩) s

def getCap (cid : ContainerId) (op : Operation) (cred : Credential) (cap : Option Capability)
    (s : σ) : Except Failure Reply.Body × σ :=
  transport.call (.getCap ⟨cid, op, cred, cap⟩) s

def verifyCaps (caps : List Capability) (s : σ) : Except Failure Reply.Body × σ :=
  transport.call (.verifyCaps caps) s

end CapabilityGuard.Transport
