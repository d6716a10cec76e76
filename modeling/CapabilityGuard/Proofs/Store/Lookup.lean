import CapabilityGuard.Store.Basic

/-! What a look-up finds in committed state. It fails for want of the container or of the ACL, and for
no other reason. -/
namespace CapabilityGuard

def Acls.Lists (acls : Acls) (op : Operation) (uid : Uid) : Prop :=
  ∃ uids, acls[op]? = some uids ∧ uid ∈ uids.members

theorem Acls.lists_insert {acls : Acls} {op changed : Operation} {uids : UidSet} {uid : Uid} :
    Acls.Lists (acls.insert changed uids) op uid ↔
      changed = op ∧ uid ∈ uids.members ∨ changed ≠ op ∧ Acls.Lists acls op uid := by
  unfold Acls.Lists
  rw [Std.ExtHashMap.getElem?_insert]
  by_cases same : changed = op <;> simp [same]

namespace Store

/-- The uid is on the committed ACL of the operation on the container. -/
def Lists (s : Store) (cid : ContainerId) (op : Operation) (uid : Uid) : Prop :=
  ∃ acls : Acls, s.containers[cid]? = some acls ∧ Acls.Lists acls op uid

variable {s : Store} {cid : ContainerId} {op : Operation}

theorem acl_eq_ok_iff {uids : UidSet} :
    s.acl cid op = .ok uids ↔
      ∃ acls, s.containers[cid]? = some acls ∧ acls[op]? = some uids := by
  unfold Store.acl
  cases found : s.containers[cid]? with
  | none => simp
  | some acls => cases listed : acls[op]? <;> simp [listed]

theorem acl_congr {s' : Store} (same : s.containers[cid]? = s'.containers[cid]?) :
    s.acl cid op = s'.acl cid op := by
  unfold Store.acl
  rw [same]

theorem acl_error {cause : StoreError} (failed : s.acl cid op = .error cause) :
    cause = .containerNotFound cid ∨ cause = .aclNotFound cid op := by
  unfold Store.acl at failed
  split at failed
  next => exact .inl (Except.error.inj failed).symm
  next =>
    split at failed
    next => exact .inr (Except.error.inj failed).symm
    next => cases failed

theorem exists_acl_iff : (∃ uids, s.acl cid op = .ok uids) ↔
    ∃ acls : Acls, s.containers[cid]? = some acls ∧ op ∈ acls := by
  simp only [acl_eq_ok_iff, Std.ExtHashMap.mem_iff_isSome_getElem?, Option.isSome_iff_exists]
  exact ⟨fun ⟨uids, acls, found, listed⟩ => ⟨acls, found, uids, listed⟩,
    fun ⟨acls, found, uids, listed⟩ => ⟨uids, acls, found, listed⟩⟩

theorem hasContainer_iff :
    s.hasContainer cid = true ↔ ∃ acls : Acls, s.containers[cid]? = some acls :=
  Option.isSome_iff_exists

end Store

end CapabilityGuard
