import CapabilityGuard.Proofs.Store.Lookup
import CapabilityGuard.Proofs.UidSet.Order

/-! What an edit makes of the ACL that it names, as a list. Whoever was on the ACL and stays keeps their
turn, those who are added follow in theirs, and nobody is on it twice. -/
namespace CapabilityGuard

namespace UidSet

/-- The first occurrence of one uid stands before that of another. -/
def Before (s : UidSet) (uid other : Uid) : Prop := s.members.idxOf uid < s.members.idxOf other

/-- What becomes of a list of uids when those of `set` are added and then those of `unset` dropped. -/
structure Edited (old set unset edited : UidSet) : Prop where
  members_eq : edited.members = (old.members ++ set.members).eraseDups.removeAll unset.members
  mem_iff : ∀ uid, uid ∈ edited.members ↔
    (uid ∈ old.members ∨ uid ∈ set.members) ∧ uid ∉ unset.members
  nodup : edited.members.Nodup
  old_in_turn : ∀ uid ∈ edited.members, ∀ other ∈ edited.members,
    uid ∈ old.members → other ∈ old.members → (edited.Before uid other ↔ old.Before uid other)
  old_first : ∀ uid ∈ edited.members, ∀ other ∈ edited.members,
    uid ∈ old.members → other ∉ old.members → edited.Before uid other
  new_in_turn : ∀ uid ∈ edited.members, ∀ other ∈ edited.members,
    uid ∉ old.members → other ∉ old.members → (edited.Before uid other ↔ set.Before uid other)

theorem before_append_iff (s set : UidSet) (uid other : Uid) :
    Before ⟨s.members ++ set.members⟩ uid other ↔
      uid ∈ s.members ∧ (other ∈ s.members → s.Before uid other) ∨
        uid ∉ s.members ∧ other ∉ s.members ∧ set.Before uid other := by
  unfold Before
  -- An occurrence in the front decides, wherever the back has the uid.
  by_cases first : uid ∈ s.members
  · have bound := List.idxOf_lt_length_of_mem first
    by_cases second : other ∈ s.members
    · simp [List.idxOf_append, first, second]
    · simp only [List.idxOf_append, first, second, if_true, if_false, true_and, false_imp_iff,
        not_true, false_and, or_false, iff_true]
      omega
  · by_cases second : other ∈ s.members
    · have bound := List.idxOf_lt_length_of_mem second
      simp only [List.idxOf_append, first, second, if_true, if_false, not_true, false_and, and_false,
        or_false, iff_false]
      omega
    · simp [List.idxOf_append, first, second]

theorem before_dedup_amend_iff (s set : UidSet) {unset : UidSet} {uid other : Uid}
    (kept : uid ∉ unset.members) (kept' : other ∉ unset.members) :
    (s.amend set unset).dedup.Before uid other ↔
      Before ⟨s.members ++ set.members⟩ uid other := by
  unfold Before
  rw [members_dedup_amend, idxOf_removeAll_lt_iff _ kept kept', idxOf_eraseDups_lt_iff]

theorem edited_amend (s set unset : UidSet) : Edited s set unset (s.amend set unset).dedup := by
  have survives (uid : Uid) : uid ∈ (s.amend set unset).dedup.members ↔
      (uid ∈ s.members ∨ uid ∈ set.members) ∧ uid ∉ unset.members := by
    rw [mem_dedup, mem_amend]
  have order {uid other : Uid} (member : uid ∈ (s.amend set unset).dedup.members)
      (member' : other ∈ (s.amend set unset).dedup.members) :=
    (before_dedup_amend_iff s set ((survives uid).mp member).2
      ((survives other).mp member').2).trans (before_append_iff s set uid other)
  refine ⟨members_dedup_amend s set unset, survives, nodup_dedup _, ?_, ?_, ?_⟩
  · intro uid member other member' known known'
    simp [order member member', known, known']
  · intro uid member other member' known new
    simp [order member member', known, new]
  · intro uid member other member' new new'
    simp [order member member', new, new']

example : (dedup (amend ⟨[⟨7⟩, ⟨8⟩, ⟨7⟩]⟩ ⟨[⟨9⟩, ⟨8⟩, ⟨9⟩, ⟨3⟩]⟩ ⟨[⟨8⟩]⟩)).members = [⟨7⟩, ⟨9⟩, ⟨3⟩] := by
  cbv

end UidSet

namespace Store

variable {s : Store} {cid : ContainerId} {op : Operation}

theorem acl_insert {acls : Acls} (found : s.containers[cid]? = some acls) (uids : UidSet)
    (cid' : ContainerId) (op' : Operation) :
    acl { s with containers := s.containers.insert cid (acls.insert op uids) } cid' op' =
      if cid = cid' ∧ op = op' then .ok uids else s.acl cid' op' := by
  unfold acl
  by_cases same : cid = cid'
  · subst same
    by_cases listed : op = op' <;> simp [found, listed, Std.ExtHashMap.getElem?_insert]
  · simp [same, Std.ExtHashMap.getElem?_insert]

theorem hasContainer_insert {acls : Acls} (found : s.containers[cid]? = some acls) (after : Acls)
    (cid' : ContainerId) :
    hasContainer { s with containers := s.containers.insert cid after } cid' =
      s.hasContainer cid' := by
  unfold hasContainer
  by_cases same : cid = cid'
  · subst same
    simp [found]
  · simp [same, Std.ExtHashMap.getElem?_insert]

theorem amend_of_acl {old : UidSet} (stored : s.acl cid op = .ok old) (set unset : UidSet) :
    ∃ acls : Acls, s.containers[cid]? = some acls ∧
      s.change none (.amend cid op set unset) = (.ok (), { s with
        containers := s.containers.insert cid (acls.insert op (old.amend set unset).dedup) }) := by
  obtain ⟨acls, found, listed⟩ := acl_eq_ok_iff.mp stored
  exact ⟨acls, found, by simp [Store.change, Change.apply, found, listed]⟩

theorem amend_of_acl_error {cause : StoreError} (missing : s.acl cid op = .error cause)
    (set unset : UidSet) : s.change none (.amend cid op set unset) = (.error cause, s) := by
  unfold acl at missing
  cases found : s.containers[cid]? with
  | none =>
    obtain rfl : .containerNotFound cid = cause := by simpa [found] using missing
    simp [Store.change, Change.apply, found]
  | some acls =>
    cases listed : acls[op]? with
    | none =>
      obtain rfl : .aclNotFound cid op = cause := by simpa [found, listed] using missing
      simp [Store.change, Change.apply, found, listed]
    | some uids => simp [found, listed] at missing

/-- An edit that is made at once succeeds exactly where there is an ACL, and stores what becomes of that
ACL. Every other ACL is as it was, and there are the same containers. -/
theorem edit_exact (s : Store) (cid : ContainerId) (op : Operation) (set unset : UidSet) :
    let result := s.change none (.amend cid op set unset)
    (result.1 = .ok () ↔ ∃ old, s.acl cid op = .ok old) ∧
    (∀ old, s.acl cid op = .ok old →
      ∃ edited, result.2.acl cid op = .ok edited ∧ UidSet.Edited old set unset edited) ∧
    (∀ cid' op', (cid', op') ≠ (cid, op) → result.2.acl cid' op' = s.acl cid' op') ∧
    ∀ cid', result.2.hasContainer cid' = s.hasContainer cid' := by
  intro result
  cases stored : s.acl cid op with
  | error cause =>
    have failed : result = (.error cause, s) := amend_of_acl_error stored set unset
    simp [failed]
  | ok old =>
    obtain ⟨acls, found, changed⟩ := amend_of_acl stored set unset
    have succeeded : result = _ := changed
    rw [succeeded]
    refine ⟨by simp, ?_, ?_, hasContainer_insert found _⟩
    · intro before same
      obtain rfl : old = before := Except.ok.inj same
      exact ⟨_, by rw [acl_insert found]; simp, UidSet.edited_amend old set unset⟩
    · intro cid' op' other
      have apart : ¬ (cid = cid' ∧ op = op') := by
        rintro ⟨rfl, rfl⟩
        exact other rfl
      rw [acl_insert found, if_neg apart]

end Store

end CapabilityGuard
