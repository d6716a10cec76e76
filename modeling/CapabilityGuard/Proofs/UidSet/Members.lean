import CapabilityGuard.UidSet

/-! Who is on a list of uids after an operation. Collapsing repeats loses nobody, and an edit drops
after it has added, so whoever is on both of its lists is dropped. -/
namespace CapabilityGuard

namespace UidSet

/-- The uids seen so far are those that were kept. -/
def Coherent (state : Std.HashSet Uid × Array Uid) : Prop := ∀ uid, uid ∈ state.1 ↔ uid ∈ state.2

theorem coherent_empty : Coherent (∅, #[]) := by
  simp [Coherent]

theorem Coherent.keepNew {state : Std.HashSet Uid × Array Uid} (coherent : Coherent state)
    (uid : Uid) : Coherent (keepNew state uid) ∧
      ∀ other, other ∈ (UidSet.keepNew state uid).2 ↔ other ∈ state.2 ∨ other = uid := by
  unfold UidSet.keepNew
  split
  next seen =>
    have kept : uid ∈ state.2 := (coherent uid).mp seen
    refine ⟨coherent, fun other => ⟨.inl, ?_⟩⟩
    rintro (member | rfl)
    · exact member
    · exact kept
  next =>
    refine ⟨fun other => ?_, fun other => Array.mem_push⟩
    rw [Std.HashSet.mem_insert, coherent other, Array.mem_push, beq_iff_eq, or_comm,
      @eq_comm _ uid]

theorem mem_foldl_keepNew {state : Std.HashSet Uid × Array Uid} (coherent : Coherent state)
    (uids : List Uid) (uid : Uid) :
    uid ∈ (uids.foldl keepNew state).2 ↔ uid ∈ state.2 ∨ uid ∈ uids := by
  -- Coherence is what lets a skipped uid count as one that was kept already.
  induction uids generalizing state with
  | nil => simp
  | cons first rest ih =>
    obtain ⟨next, kept⟩ := coherent.keepNew first
    rw [List.foldl_cons, ih next, kept, List.mem_cons, or_assoc]

@[simp] theorem mem_dedup (s : UidSet) (uid : Uid) : uid ∈ s.dedup.members ↔ uid ∈ s.members := by
  simpa [dedup] using mem_foldl_keepNew coherent_empty s.members uid

@[simp] theorem mem_insert (s : UidSet) (added uid : Uid) :
    uid ∈ (s.insert added).2.members ↔ uid ∈ s.members ∨ uid = added := by
  unfold insert contains
  split
  next present =>
    have member : added ∈ s.members := by simpa using present
    refine ⟨.inl, ?_⟩
    rintro (member | rfl)
    · exact member
    · assumption
  next => simp

@[simp] theorem mem_erase (s : UidSet) (dropped uid : Uid) :
    uid ∈ (s.erase dropped).2.members ↔ uid ∈ s.members ∧ uid ≠ dropped := by
  simp [erase]

theorem mem_foldl_insert (s : UidSet) (uids : List Uid) (uid : Uid) :
    uid ∈ (uids.foldl (fun s uid => (s.insert uid).2) s).members ↔
      uid ∈ s.members ∨ uid ∈ uids := by
  induction uids generalizing s with
  | nil => simp
  | cons first rest ih => rw [List.foldl_cons, ih, mem_insert, List.mem_cons, or_assoc]

theorem mem_foldl_erase (s : UidSet) (uids : List Uid) (uid : Uid) :
    uid ∈ (uids.foldl (fun s uid => (s.erase uid).2) s).members ↔
      uid ∈ s.members ∧ uid ∉ uids := by
  induction uids generalizing s with
  | nil => simp
  | cons first rest ih =>
    rw [List.foldl_cons, ih, mem_erase, List.mem_cons, not_or, and_assoc]

@[simp] theorem mem_amend (s set unset : UidSet) (uid : Uid) :
    uid ∈ (s.amend set unset).members ↔
      (uid ∈ s.members ∨ uid ∈ set.members) ∧ uid ∉ unset.members := by
  simp only [amend, mem_foldl_erase, mem_foldl_insert]

end UidSet

end CapabilityGuard
