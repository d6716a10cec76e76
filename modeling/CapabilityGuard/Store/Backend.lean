import CapabilityGuard.Store.Basic

/-! What a guard needs of the place where ACLs are kept, and two such places: the store itself,
and a store whose calls can be made to fail or to crash. -/
namespace CapabilityGuard

class Backend (σ : Type) where
  change : σ → Option TxnRef → Change → Except StoreError Unit × σ
  acl : σ → ContainerId → Operation → Except StoreError UidSet × σ

instance : Backend Store where
  change := Store.change
  acl s cid op := (s.acl cid op, s)

/-- A store behind two switches. A call that crashes leaves the store alone and is noted, so that
whoever waits for its answer can be told that none will come. -/
structure Unreliable where
  store : Store := {}
  failure : Option String := none
  crashing : Bool := false
  crashed : Bool := false

namespace Unreliable

def call {α : Type} (s : Unreliable) (work : Store → Except StoreError α × Store) :
    Except StoreError α × Unreliable :=
  if s.crashing then (.error (.provider "crashed"), { s with crashed := true })
  else match s.failure with
    | some message => (.error (.provider message), s)
    | none =>
      let (result, store) := work s.store
      (result, { s with store })

instance : Backend Unreliable where
  change s txn? change := s.call fun store => store.change txn? change
  acl s cid op := s.call fun store => (store.acl cid op, store)

end Unreliable

end CapabilityGuard
