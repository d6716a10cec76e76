import CapabilityGuard.Store.Error
import CapabilityGuard.UidSet
import Std.Data.ExtHashMap

/-! The store of ACLs. Committed state is what readers see. A change applies at once, or is staged
under an open transaction and applied by its commit, together with the others and in order, or
not at all. Two stores are equal when all their look-ups are. -/
namespace CapabilityGuard

-- The laws of map keys, by name, so that a look-up carries the same proofs wherever it is written.
instance : EquivBEq ContainerId := inferInstance
instance : EquivBEq Operation := inferInstance
instance : EquivBEq TxnRef := inferInstance
instance : LawfulHashable ContainerId := inferInstance
instance : LawfulHashable Operation := inferInstance
instance : LawfulHashable TxnRef := inferInstance

/-- The ACLs of one container. -/
abbrev Acls := Std.ExtHashMap Operation UidSet

abbrev Containers := Std.ExtHashMap ContainerId Acls

inductive Change
  | create (cid : ContainerId)
  | remove (cid : ContainerId)
  | put (cid : ContainerId) (op : Operation) (uids : UidSet)
  | amend (cid : ContainerId) (op : Operation) (set unset : UidSet)
deriving DecidableEq

namespace Change

/-- The container that a change names. -/
def cid : Change → ContainerId
  | create cid => cid
  | remove cid => cid
  | put cid _ _ => cid
  | amend cid _ _ _ => cid

def apply (containers : Containers) : Change → Except StoreError Containers
  | create cid =>
    match containers[cid]? with
    | some _ => .error (.containerExists cid)
    | none => .ok (containers.insert cid ∅)
  | remove cid =>
    match containers[cid]? with
    | none => .error (.containerNotFound cid)
    | some _ => .ok (containers.erase cid)
  | put cid op uids =>
    match containers[cid]? with
    | none => .error (.containerNotFound cid)
    | some acls => .ok (containers.insert cid (acls.insert op uids))
  | amend cid op set unset =>
    match containers[cid]? with
    | none => .error (.containerNotFound cid)
    | some acls =>
      match acls[op]? with
      | none => .error (.aclNotFound cid op)
      | some uids => .ok (containers.insert cid (acls.insert op (uids.amend set unset).dedup))

/-- One change after the other, up to the first that fails. -/
def applyAll (containers : Containers) : List Change → Except StoreError Containers
  | [] => .ok containers
  | change :: rest =>
    match change.apply containers with
    | .error e => .error e
    | .ok next => applyAll next rest

end Change

structure Store where
  containers : Containers := ∅
  /-- The changes of each open transaction, first staged first. -/
  staged : Std.ExtHashMap TxnRef (List Change) := ∅
  /-- The number of the transaction opened last. -/
  lastTxn : UInt64 := 0

namespace Store

def begin (s : Store) : TxnRef × Store :=
  let txn : TxnRef := ⟨s.lastTxn + 1⟩
  (txn, { s with staged := s.staged.insert txn [], lastTxn := txn.number })

/-- Stages a change under a transaction, or applies it when there is none. -/
def change (s : Store) (txn? : Option TxnRef) (change : Change) :
    Except StoreError Unit × Store :=
  match txn? with
  | some txn =>
    match s.staged[txn]? with
    | none => (.error (.unknownTxn txn), s)
    | some earlier => (.ok (), { s with staged := s.staged.insert txn (earlier ++ [change]) })
  | none =>
    match change.apply s.containers with
    | .error e => (.error e, s)
    | .ok containers => (.ok (), { s with containers })

/-- Applies what is staged and returns how many changes that were. The transaction is closed in
any case. -/
def commit (s : Store) (txn : TxnRef) : Except StoreError Nat × Store :=
  match s.staged[txn]? with
  | none => (.error (.unknownTxn txn), s)
  | some changes =>
    let closed := { s with staged := s.staged.erase txn }
    match Change.applyAll s.containers changes with
    | .error e => (.error e, closed)
    | .ok containers => (.ok changes.length, { closed with containers })

def abort (s : Store) (txn : TxnRef) : Except StoreError Unit × Store :=
  match s.staged[txn]? with
  | none => (.error (.unknownTxn txn), s)
  | some _ => (.ok (), { s with staged := s.staged.erase txn })

/-- The committed ACL of an operation on a container. -/
def acl (s : Store) (cid : ContainerId) (op : Operation) : Except StoreError UidSet :=
  match s.containers[cid]? with
  | none => .error (.containerNotFound cid)
  | some acls =>
    match acls[op]? with
    | none => .error (.aclNotFound cid op)
    | some uids => .ok uids

def hasContainer (s : Store) (cid : ContainerId) : Bool := s.containers[cid]?.isSome

end Store

end CapabilityGuard
