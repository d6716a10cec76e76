import CapabilityGuard.Proofs.UidSet.Refinement

/-! What collapsing makes of a list of uids. The first occurrence of each uid stays where it is
among the others and nothing else does. There is only one such list, it does not matter whether uids
are dropped before or after, and of two lists together the second adds who is new. -/
namespace CapabilityGuard

section

variable {α : Type} [DecidableEq α]

theorem eraseDups_sublist (l : List α) : l.eraseDups.Sublist l := by
  induction l using List.reverseRecOn with
  | nil => exact List.Sublist.refl []
  | append_singleton l a ih =>
    rw [eraseDups_concat]
    split
    next => exact ih.trans (List.sublist_append_left l [a])
    next => exact ih.append (List.Sublist.refl [a])

theorem pairwise_idxOf_lt {l : List α} (distinct : l.Nodup) :
    l.Pairwise fun a b => l.idxOf a < l.idxOf b := by
  rw [List.pairwise_iff_getElem]
  intro i j left right before
  rwa [distinct.idxOf_getElem, distinct.idxOf_getElem]

end

namespace UidSet

/-- A list with the first occurrences of another one, in their order. -/
structure Firsts (s firsts : UidSet) : Prop where
  sublist : firsts.members.Sublist s.members
  nodup : firsts.members.Nodup
  mem_iff : ∀ uid, uid ∈ firsts.members ↔ uid ∈ s.members
  before_iff : ∀ uid other, firsts.Before uid other ↔ s.Before uid other

theorem firsts_dedup (s : UidSet) : s.Firsts s.dedup where
  sublist := members_dedup s ▸ eraseDups_sublist s.members
  nodup := nodup_dedup s
  mem_iff := mem_dedup s
  before_iff := before_dedup_iff s

/-- The members and their order leave no choice. -/
theorem Firsts.unique {s firsts firsts' : UidSet} (first : s.Firsts firsts)
    (first' : s.Firsts firsts') : firsts = firsts' := by
  have inTurn {found : UidSet} (first : s.Firsts found) :
      found.members.Pairwise fun uid other => s.Before uid other :=
    (pairwise_idxOf_lt first.nodup).imp fun before => (first.before_iff _ _).mp before
  have same : firsts.members.Perm firsts'.members :=
    (List.perm_ext_iff_of_nodup first.nodup first'.nodup).mpr fun uid =>
      (first.mem_iff uid).trans (first'.mem_iff uid).symm
  have antisymm : ∀ uid other, uid ∈ firsts.members → other ∈ firsts'.members →
      s.Before uid other → s.Before other uid → uid = other := by
    intro uid other _ _ before behind
    exact absurd before (Nat.lt_asymm behind)
  exact congrArg UidSet.mk (same.eq_of_pairwise antisymm (inTurn first) (inTurn first'))

theorem dedup_eq_self_iff (s : UidSet) : s.dedup = s ↔ s.members.Nodup := by
  constructor
  · intro same
    rw [← same]
    exact nodup_dedup s
  · exact dedup_of_nodup

theorem dedup_removeAll (s : UidSet) (dropped : List Uid) :
    dedup ⟨s.members.removeAll dropped⟩ = ⟨s.dedup.members.removeAll dropped⟩ := by
  have members := members_dedup ⟨s.members.removeAll dropped⟩
  rw [eraseDups_removeAll, ← members_dedup] at members
  exact congrArg mk members

theorem members_erase (s : UidSet) (uid : Uid) :
    (s.erase uid).2.members = s.members.removeAll [uid] :=
  members_foldl_erase s [uid]

theorem dedup_erase (s : UidSet) (uid : Uid) :
    (s.erase uid).2.dedup = (s.dedup.erase uid).2 := by
  have dropped : (s.erase uid).2 = ⟨s.members.removeAll [uid]⟩ := congrArg mk (members_erase s uid)
  rw [dropped, dedup_removeAll, ← members_erase]

theorem dedup_append (s t : UidSet) : dedup ⟨s.members ++ t.members⟩ =
    ⟨s.dedup.members ++ t.dedup.members.removeAll s.members⟩ := by
  have members := members_dedup ⟨s.members ++ t.members⟩
  rw [List.eraseDups_append, eraseDups_removeAll, ← members_dedup, ← members_dedup] at members
  exact congrArg mk members

/-- Collapsing keeps the first occurrences and is the only way to do so. It changes exactly the
lists on which a uid stands twice, and those once. It can be done before or after any uids are
dropped, and part by part if the second part then drops who is in the first. -/
theorem dedup_exact (s : UidSet) :
    (∀ firsts, s.Firsts firsts ↔ firsts = s.dedup) ∧
    s.dedup.dedup = s.dedup ∧ (s.dedup = s ↔ s.members.Nodup) ∧
    (∀ uid, (s.erase uid).2.dedup = (s.dedup.erase uid).2) ∧
    (∀ dropped, dedup ⟨s.members.removeAll dropped⟩ = ⟨s.dedup.members.removeAll dropped⟩) ∧
    ∀ t : UidSet, dedup ⟨s.members ++ t.members⟩ =
      ⟨s.dedup.members ++ t.dedup.members.removeAll s.members⟩ := by
  refine ⟨fun firsts => ⟨fun first => first.unique (firsts_dedup s), ?_⟩,
    dedup_of_nodup (nodup_dedup s), dedup_eq_self_iff s, dedup_erase s, dedup_removeAll s,
    dedup_append s⟩
  rintro rfl
  exact firsts_dedup s

example : dedup ⟨[⟨3⟩, ⟨1⟩, ⟨3⟩, ⟨2⟩, ⟨1⟩]⟩ = ⟨[⟨3⟩, ⟨1⟩, ⟨2⟩]⟩ := by
  cbv

end UidSet

end CapabilityGuard
