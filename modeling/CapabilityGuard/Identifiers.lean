import CapabilityGuard.Octets.Hex
import CapabilityGuard.Wire.Format

/-! What requests speak of: containers, operations on them, principals and transactions. Ids are
opaque. A few operation codes have names; every other code passes through untouched. -/
namespace CapabilityGuard

structure ContainerId where
  octets : Octets 16
deriving DecidableEq, Hashable, Ord

namespace ContainerId

def hex (cid : ContainerId) : String := Hex.render cid.octets.toList

def ofHex (text : String) : Except Hex.Error ContainerId :=
  match Hex.decode 16 text with
  | .error e => .error e
  | .ok octets => .ok ⟨octets⟩

def described (cid : ContainerId) : String := "ContainerId(" ++ cid.hex ++ ")"

def format : Wire.Fixed ContainerId := (Wire.octets 16).map mk octets

end ContainerId

structure Operation where
  code : UInt32
deriving DecidableEq, Hashable, Ord

namespace Operation

def read : Operation := ⟨1⟩
def write : Operation := ⟨2⟩
def createEntry : Operation := ⟨3⟩
def removeEntry : Operation := ⟨4⟩

/-- Managing a container and its ACLs. -/
def admin : Operation := ⟨0x100⟩

def name (op : Operation) : String :=
  if op = read then "read" else if op = write then "write"
  else if op = createEntry then "create-entry" else if op = removeEntry then "remove-entry"
  else if op = admin then "admin" else "op#" ++ toString op.code.toNat

def described (op : Operation) : String := "ContainerOperation(" ++ op.name ++ ")"

def format : Wire.Fixed Operation := Wire.word.map mk code

end Operation

structure Uid where
  value : UInt64
deriving DecidableEq, Hashable, Ord

namespace Uid

def text (uid : Uid) : String := toString uid.value.toNat

def format : Wire.Fixed Uid := Wire.hyper.map mk value

end Uid

structure TxnRef where
  number : UInt64
deriving DecidableEq, Hashable, Ord

namespace TxnRef

def text (txn : TxnRef) : String := "txn#" ++ toString txn.number.toNat

def format : Wire.Fixed TxnRef := Wire.hyper.map mk number

end TxnRef

end CapabilityGuard
