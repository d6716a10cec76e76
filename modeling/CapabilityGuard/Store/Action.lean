import CapabilityGuard.Store.Backend

/-! Everything that can be asked of a store, as data, and what it answers. A run is a list of
actions done one after the other. -/
namespace CapabilityGuard

namespace Store

inductive Action
  | begin
  | commit (txn : TxnRef)
  | abort (txn : TxnRef)
  | change (txn? : Option TxnRef) (change : Change)
  | acl (cid : ContainerId) (op : Operation)
  | hasContainer (cid : ContainerId)
deriving DecidableEq

inductive Answer
  | opened (txn : TxnRef)
  | applied (count : Nat)
  | done
  | acl (uids : UidSet)
  | found (present : Bool)
deriving DecidableEq

def perform (s : Store) : Action → Except StoreError Answer × Store
  | .begin => let (txn, s) := s.begin; (.ok (.opened txn), s)
  | .commit txn => let (result, s) := s.commit txn; (result.map .applied, s)
  | .abort txn => let (result, s) := s.abort txn; (result.map fun _ => .done, s)
  | .change txn? c => let (result, s) := s.change txn? c; (result.map fun _ => .done, s)
  | .acl cid op => ((s.acl cid op).map .acl, s)
  | .hasContainer cid => (.ok (.found (s.hasContainer cid)), s)

def run (s : Store) : List Action → List (Except StoreError Answer) × Store
  | [] => ([], s)
  | action :: rest =>
    let (answer, s) := s.perform action
    let (answers, s) := s.run rest
    (answer :: answers, s)

end Store

/-- The switches work on all calls but those that open and close transactions. -/
def Unreliable.perform (s : Unreliable) (action : Store.Action) :
    Except StoreError Store.Answer × Unreliable :=
  match action with
  | .change _ _ | .acl _ _ | .hasContainer _ => s.call fun store => store.perform action
  | .begin | .commit _ | .abort _ =>
    let (answer, store) := s.store.perform action
    (answer, { s with store })

end CapabilityGuard
