import Mathlib.Data.List.Induction
import Mathlib.Data.List.Nodup
import CapabilityGuard.Proofs.UidSet.Members

/-! The order in which uids stand on a list. Collapsing keeps the first occurrence of each. An edit
that is collapsed afterwards is the old list followed by the uids to add, first occurrences only and
without the uids to drop, so that making it again changes nothing. -/
namespace CapabilityGuard

section

variable {α : Type} [DecidableEq α] {l dropped : List α} {a b : α}

theorem mem_removeAll : a ∈ l.removeAll dropped ↔ a ∈ l ∧ a ∉ dropped := by
  simp [List.removeAll]

theorem removeAll_append (first second dropped : List α) :
    (first ++ second).removeAll dropped = first.removeAll dropped ++ second.removeAll dropped :=
  List.filter_append first second

theorem removeAll_concat (l dropped : List α) (a : α) :
    (l ++ [a]).removeAll dropped =
      if a ∈ dropped then l.removeAll dropped else l.removeAll dropped ++ [a] := by
  rw [removeAll_append]
  by_cases gone : a ∈ dropped <;> simp [List.cons_removeAll, gone]

theorem removeAll_eq_self (apart : ∀ a ∈ l, a ∉ dropped) : l.removeAll dropped = l :=
  List.filter_eq_self.mpr (by simpa using apart)

theorem eraseDups_concat (l : List α) (a : α) :
    (l ++ [a]).eraseDups = if a ∈ l then l.eraseDups else l.eraseDups ++ [a] := by
  rw [List.eraseDups_append, List.cons_removeAll]
  by_cases present : a ∈ l <;> simp [present, List.eraseDups_cons]

theorem nodup_eraseDups (l : List α) : l.eraseDups.Nodup := by
  induction l using List.reverseRecOn with
  | nil => simp
  | append_singleton l a ih =>
    rw [eraseDups_concat]
    split
    next => exact ih
    next fresh =>
      have unkept : a ∉ l.eraseDups := by simpa using fresh
      exact List.nodup_append_comm.mp (List.nodup_cons.mpr ⟨unkept, ih⟩)

theorem eraseDups_of_nodup (distinct : l.Nodup) : l.eraseDups = l := by
  induction l with
  | nil => rfl
  | cons a l ih =>
    obtain ⟨fresh, rest⟩ := List.nodup_cons.mp distinct
    have kept : l.filter (fun b => !b == a) = l := by
      apply List.filter_eq_self.mpr
      intro b member
      simpa using ne_of_mem_of_not_mem member fresh
    rw [List.eraseDups_cons, kept, ih rest]

theorem eraseDups_removeAll (l dropped : List α) :
    (l.removeAll dropped).eraseDups = l.eraseDups.removeAll dropped := by
  induction l using List.reverseRecOn with
  | nil => rfl
  | append_singleton l a ih =>
    rw [removeAll_concat, eraseDups_concat]
    by_cases gone : a ∈ dropped
    · by_cases present : a ∈ l <;> simp [gone, present, ih, removeAll_concat]
    · by_cases present : a ∈ l <;>
        simp [gone, present, ih, removeAll_concat, eraseDups_concat, mem_removeAll]

theorem eraseDups_cons_removeAll (a : α) (l : List α) :
    (a :: l).eraseDups = a :: l.eraseDups.removeAll [a] := by
  rw [List.eraseDups_cons, ← eraseDups_removeAll]
  simp [List.removeAll, beq_eq_decide]

/-- Dropping other elements does not change which of two comes first. -/
theorem idxOf_removeAll_lt_iff (l : List α) (kept : a ∉ dropped) (kept' : b ∉ dropped) :
    (l.removeAll dropped).idxOf a < (l.removeAll dropped).idxOf b ↔ l.idxOf a < l.idxOf b := by
  induction l with
  | nil => simp
  | cons first l ih =>
    rw [List.cons_removeAll]
    by_cases here : first = a
    · subst here
      by_cases same : first = b <;> simp [kept, same]
    · by_cases there : first = b
      · subst there
        simp [kept', here]
      · by_cases gone : first ∈ dropped <;> simp [gone, here, there, ih]

theorem idxOf_eraseDups_lt_iff (l : List α) (a b : α) :
    l.eraseDups.idxOf a < l.eraseDups.idxOf b ↔ l.idxOf a < l.idxOf b := by
  induction l with
  | nil => simp
  | cons first l ih =>
    rw [eraseDups_cons_removeAll]
    by_cases here : first = a
    · subst here
      by_cases same : first = b <;> simp [same]
    · by_cases there : first = b
      · simp [there]
      · have kept : a ∉ [first] := by simpa using Ne.symm here
        have kept' : b ∉ [first] := by simpa using Ne.symm there
        simp [here, there, idxOf_removeAll_lt_iff l.eraseDups kept kept', ih]

end

namespace UidSet

theorem coherent_foldl_keepNew (uids : List Uid) : Coherent (uids.foldl keepNew (∅, #[])) := by
  induction uids using List.reverseRecOn with
  | nil => exact coherent_empty
  | append_singleton uids uid ih =>
    rw [List.foldl_concat]
    exact (ih.keepNew uid).1

theorem toList_foldl_keepNew (uids : List Uid) :
    (uids.foldl keepNew (∅, #[])).2.toList = uids.eraseDups := by
  -- The fold is taken apart at its end, where the uids seen so far are those of the front.
  induction uids using List.reverseRecOn with
  | nil => rfl
  | append_singleton uids uid ih =>
    have seen : uid ∈ (uids.foldl keepNew (∅, #[])).1 ↔ uid ∈ uids := by
      rw [coherent_foldl_keepNew uids uid, ← Array.mem_toList_iff, ih, List.mem_eraseDups]
    rw [List.foldl_concat, eraseDups_concat, ← ih, keepNew]
    by_cases present : uid ∈ uids <;> simp [Std.HashSet.contains_iff_mem, seen, present]

theorem members_dedup (s : UidSet) : s.dedup.members = s.members.eraseDups :=
  toList_foldl_keepNew s.members

theorem nodup_dedup (s : UidSet) : s.dedup.members.Nodup := by
  rw [members_dedup]
  exact nodup_eraseDups s.members

theorem members_foldl_insert (s : UidSet) (uids : List Uid) :
    (uids.foldl (fun s uid => (s.insert uid).2) s).members =
      s.members ++ (uids.removeAll s.members).eraseDups := by
  induction uids using List.reverseRecOn with
  | nil => simp
  | append_singleton uids uid ih =>
    rw [List.foldl_concat, insert, contains, List.contains_eq_mem, removeAll_concat]
    by_cases old : uid ∈ s.members
    · simp [old, ih]
    · by_cases added : uid ∈ uids <;>
        simp [old, added, ih, eraseDups_concat, mem_removeAll]

theorem members_foldl_erase (s : UidSet) (uids : List Uid) :
    (uids.foldl (fun s uid => (s.erase uid).2) s).members = s.members.removeAll uids := by
  induction uids generalizing s with
  | nil => simp
  | cons uid uids ih =>
    rw [List.foldl_cons, ih, List.removeAll_cons]
    simp [erase, beq_eq_decide]

theorem members_dedup_amend (s set unset : UidSet) :
    (s.amend set unset).dedup.members =
      (s.members ++ set.members).eraseDups.removeAll unset.members := by
  -- What was added is new and stands there once, so that collapsing does nothing to it.
  have new : ((set.members.removeAll s.members).eraseDups.removeAll s.members) =
      (set.members.removeAll s.members).eraseDups := by
    apply removeAll_eq_self
    intro uid added
    exact (mem_removeAll.mp (List.mem_eraseDups.mp added)).2
  rw [members_dedup, amend, members_foldl_erase, members_foldl_insert, eraseDups_removeAll,
    List.eraseDups_append, new, eraseDups_of_nodup (nodup_eraseDups _), ← List.eraseDups_append]

theorem dedup_amend_again (s set unset : UidSet) :
    ((s.amend set unset).dedup.amend set unset).dedup = (s.amend set unset).dedup := by
  have distinct := nodup_dedup (s.amend set unset)
  have listed (uid : Uid) : uid ∈ (s.amend set unset).dedup.members ↔
      (uid ∈ s.members ∨ uid ∈ set.members) ∧ uid ∉ unset.members := by
    rw [mem_dedup, mem_amend]
  -- Only these two facts about the edited list matter from here on.
  generalize (s.amend set unset).dedup = edited at distinct listed ⊢
  have kept : edited.members.removeAll unset.members = edited.members :=
    removeAll_eq_self fun uid member => ((listed uid).mp member).2
  have nothing : (set.members.removeAll edited.members).eraseDups.removeAll unset.members = [] := by
    apply List.eq_nil_iff_forall_not_mem.mpr
    intro uid added
    simp only [mem_removeAll, List.mem_eraseDups] at added
    exact added.1.2 ((listed uid).mpr ⟨.inr added.1.1, added.2⟩)
  have same : (edited.amend set unset).dedup.members = edited.members := by
    rw [members_dedup_amend, List.eraseDups_append, removeAll_append, eraseDups_of_nodup distinct,
      kept, nothing, List.append_nil]
  exact congrArg UidSet.mk same

end UidSet

end CapabilityGuard
