import Mathlib.Data.Finset.Basic
import Mathlib.Data.Finset.Card
import CapabilityGuard.Proofs.Store.Edit
import CapabilityGuard.UidSet.Action

/-! Lists of uids stand for finite sets, with an order. Whatever is done with a list, its members and the
answers are those of the set with which the same is done. Members that stay keep their turn, others
line up behind them, and a list on which nobody stands twice remains one. -/
namespace CapabilityGuard

namespace UidSet

/-- The members, without order and repeats. -/
def toFinset (s : UidSet) : Finset Uid := s.members.toFinset

@[simp] theorem mem_toFinset (s : UidSet) (uid : Uid) : uid ∈ s.toFinset ↔ uid ∈ s.members :=
  List.mem_toFinset

namespace Action

/-- The same on a set. -/
def onSet (set : Finset Uid) : Action → Option Bool × Finset Uid
  | insert uid => (some (decide (uid ∉ set)), Insert.insert uid set)
  | erase uid => (some (decide (uid ∈ set)), set.erase uid)
  | contains uid => (some (decide (uid ∈ set)), set)
  | amend added dropped => (none, (set ∪ added.toFinset) \ dropped.toFinset)
  | dedup => (none, set)

def runOnSet (set : Finset Uid) : List Action → List (Option Bool) × Finset Uid
  | [] => ([], set)
  | action :: rest =>
    let (answer, set) := action.onSet set
    let (answers, set) := runOnSet set rest
    (answer :: answers, set)

def adds : Action → UidSet
  | insert uid => ⟨[uid]⟩
  | amend set _ => set
  | _ => ⟨[]⟩

def drops : Action → UidSet
  | erase uid => ⟨[uid]⟩
  | amend _ unset => unset
  | _ => ⟨[]⟩

end Action

/-- Collapsing apart, an action is an edit. -/
theorem perform_cases (s : UidSet) (action : Action) :
    (s.perform action).2 = s.amend action.adds action.drops ∨
      action = .dedup ∧ (s.perform action).2 = s.dedup := by
  cases action with
  | dedup => exact .inr ⟨rfl, rfl⟩
  | _ => exact .inl rfl

theorem dedup_of_nodup {s : UidSet} (distinct : s.members.Nodup) : s.dedup = s :=
  congrArg mk ((toList_foldl_keepNew s.members).trans (eraseDups_of_nodup distinct))

theorem dedup_perform (s : UidSet) (action : Action) :
    (s.perform action).2.dedup = (s.amend action.adds action.drops).dedup := by
  rcases s.perform_cases action with edit | ⟨rfl, collapse⟩
  · rw [edit]
  · rw [collapse, dedup_of_nodup (nodup_dedup s)]
    rfl

theorem edited_perform (s : UidSet) (action : Action) :
    Edited s action.adds action.drops (s.perform action).2.dedup := by
  rw [dedup_perform]
  exact edited_amend s action.adds action.drops

theorem before_dedup_iff (s : UidSet) (uid other : Uid) :
    s.dedup.Before uid other ↔ s.Before uid other := by
  rw [Before, members_dedup, idxOf_eraseDups_lt_iff, Before]

theorem nodup_amend {s : UidSet} (distinct : s.members.Nodup) (set unset : UidSet) :
    (s.amend set unset).members.Nodup := by
  rw [amend, members_foldl_erase, members_foldl_insert]
  apply List.Nodup.filter
  apply distinct.append (nodup_eraseDups _)
  intro uid old added
  exact (mem_removeAll.mp (List.mem_eraseDups.mp added)).2 old

theorem nodup_perform {s : UidSet} (distinct : s.members.Nodup) (action : Action) :
    (s.perform action).2.members.Nodup := by
  rcases s.perform_cases action with edit | ⟨rfl, collapse⟩
  · rw [edit]
    exact nodup_amend distinct action.adds action.drops
  · rw [collapse]
    exact nodup_dedup s

theorem fst_insert (s : UidSet) (uid : Uid) : (s.insert uid).1 = decide (uid ∉ s.members) := by
  by_cases present : uid ∈ s.members <;> simp [insert, contains, present]

theorem contains_eq (s : UidSet) (uid : Uid) : s.contains uid = decide (uid ∈ s.members) :=
  List.contains_eq_mem uid s.members

theorem toFinset_insert (s : UidSet) (uid : Uid) :
    (s.insert uid).2.toFinset = Insert.insert uid s.toFinset := by
  ext other
  simp [or_comm]

theorem toFinset_erase (s : UidSet) (uid : Uid) :
    (s.erase uid).2.toFinset = s.toFinset.erase uid := by
  ext other
  simp [and_comm]

theorem toFinset_amend (s set unset : UidSet) :
    (s.amend set unset).toFinset = (s.toFinset ∪ set.toFinset) \ unset.toFinset := by
  ext uid
  simp

theorem toFinset_dedup (s : UidSet) : s.dedup.toFinset = s.toFinset := by
  ext uid
  simp

theorem perform_onSet (s : UidSet) (action : Action) :
    action.onSet s.toFinset = ((s.perform action).1, (s.perform action).2.toFinset) := by
  cases action with
  | insert uid => simp only [Action.onSet, perform, fst_insert, toFinset_insert, mem_toFinset]
  | erase uid => simp only [Action.onSet, perform, erase, contains_eq, mem_toFinset, ← toFinset_erase]
  | contains uid => simp only [Action.onSet, perform, contains_eq, mem_toFinset]
  | amend set unset => simp only [Action.onSet, perform, toFinset_amend]
  | dedup => simp only [Action.onSet, perform, toFinset_dedup]

theorem run_onSet (s : UidSet) (actions : List Action) :
    Action.runOnSet s.toFinset actions = ((s.run actions).1, (s.run actions).2.toFinset) := by
  induction actions generalizing s with
  | nil => rfl
  | cons action rest ih => simp only [Action.runOnSet, run, perform_onSet, ih]

theorem run_concat (s : UidSet) (actions : List Action) (action : Action) :
    (s.run (actions ++ [action])).2 = ((s.run actions).2.perform action).2 := by
  induction actions generalizing s with
  | nil => rfl
  | cons first rest ih => exact ih (s.perform first).2

/-- The uid is on the list all along. -/
def Keeps (s : UidSet) (uid : Uid) (actions : List Action) : Prop :=
  ∀ earlier, earlier <+: actions → uid ∈ (s.run earlier).2.members

theorem keeps_nil_iff (s : UidSet) (uid : Uid) : s.Keeps uid [] ↔ uid ∈ s.members := by
  simp [Keeps, run]

theorem keeps_concat_iff (s : UidSet) (uid : Uid) (actions : List Action) (action : Action) :
    s.Keeps uid (actions ++ [action]) ↔
      s.Keeps uid actions ∧ uid ∈ (s.run (actions ++ [action])).2.members := by
  simp only [Keeps, List.prefix_concat_iff, or_imp, forall_and, forall_eq]
  exact and_comm

section

variable {s : UidSet} {action : Action} {uid other : Uid}
  (present : uid ∈ (s.perform action).2.members) (present' : other ∈ (s.perform action).2.members)

include present present'

/-- Whoever stays keeps the turn. -/
theorem before_perform_iff (old : uid ∈ s.members) (old' : other ∈ s.members) :
    (s.perform action).2.Before uid other ↔ s.Before uid other := by
  rw [← before_dedup_iff]
  exact (s.edited_perform action).old_in_turn uid ((mem_dedup _ _).mpr present) other
    ((mem_dedup _ _).mpr present') old old'

/-- Whoever is new stands behind those who stay. -/
theorem before_perform_new (old : uid ∈ s.members) (new : other ∉ s.members) :
    (s.perform action).2.Before uid other := by
  rw [← before_dedup_iff]
  exact (s.edited_perform action).old_first uid ((mem_dedup _ _).mpr present) other
    ((mem_dedup _ _).mpr present') old new

/-- Those who are new stand in the turn in which they were added. -/
theorem before_perform_added (new : uid ∉ s.members) (new' : other ∉ s.members) :
    (s.perform action).2.Before uid other ↔ action.adds.Before uid other := by
  rw [← before_dedup_iff]
  exact (s.edited_perform action).new_in_turn uid ((mem_dedup _ _).mpr present) other
    ((mem_dedup _ _).mpr present') new new'

end

theorem mem_of_keeps {s : UidSet} {uid : Uid} {actions : List Action} (kept : s.Keeps uid actions) :
    uid ∈ (s.run actions).2.members :=
  kept actions (List.prefix_refl actions)

theorem before_run_iff {s : UidSet} {uid other : Uid} {actions : List Action}
    (kept : s.Keeps uid actions) (kept' : s.Keeps other actions) :
    (s.run actions).2.Before uid other ↔ s.Before uid other := by
  induction actions using List.reverseRecOn with
  | nil => rfl
  | append_singleton actions action ih =>
    obtain ⟨earlier, present⟩ := (keeps_concat_iff s uid actions action).mp kept
    obtain ⟨earlier', present'⟩ := (keeps_concat_iff s other actions action).mp kept'
    rw [run_concat] at present present' ⊢
    exact (before_perform_iff present present' (mem_of_keeps earlier)
      (mem_of_keeps earlier')).trans (ih earlier earlier')

/-- Whoever was not there all along came back or joined behind those who were. -/
theorem before_run_of_joined {s : UidSet} {uid other : Uid} {actions : List Action}
    (kept : s.Keeps uid actions) (joined : ¬ s.Keeps other actions)
    (present' : other ∈ (s.run actions).2.members) : (s.run actions).2.Before uid other := by
  induction actions using List.reverseRecOn with
  | nil => exact absurd ((keeps_nil_iff s other).mpr present') joined
  | append_singleton actions action ih =>
    obtain ⟨earlier, present⟩ := (keeps_concat_iff s uid actions action).mp kept
    have absent : ¬ s.Keeps other actions := fun earlier' =>
      joined ((keeps_concat_iff s other actions action).mpr ⟨earlier', present'⟩)
    rw [run_concat] at present present' ⊢
    by_cases old' : other ∈ (s.run actions).2.members
    · exact (before_perform_iff present present' (mem_of_keeps earlier) old').mpr
        (ih earlier absent old')
    · exact before_perform_new present present' (mem_of_keeps earlier) old'

theorem nodup_run {s : UidSet} {actions : List Action}
    (distinct : s.members.Nodup ∨ .dedup ∈ actions) : (s.run actions).2.members.Nodup := by
  induction actions using List.reverseRecOn with
  | nil => exact distinct.resolve_right List.not_mem_nil
  | append_singleton actions action ih =>
    rw [run_concat]
    rw [List.mem_append, List.mem_singleton, ← or_assoc] at distinct
    rcases distinct with before | rfl
    · exact nodup_perform (ih before) action
    · exact nodup_dedup _

/-- What is done with a list is done with the set of its members, and with the order of those. -/
structure Refines (s : UidSet) (actions : List Action) : Prop where
  answers_eq : (s.run actions).1 = (Action.runOnSet s.toFinset actions).1
  mem_iff : ∀ uid,
    uid ∈ (s.run actions).2.members ↔ uid ∈ (Action.runOnSet s.toFinset actions).2
  kept_in_turn : ∀ uid other, s.Keeps uid actions → s.Keeps other actions →
    ((s.run actions).2.Before uid other ↔ s.Before uid other)
  joined_last : ∀ uid other, s.Keeps uid actions → ¬ s.Keeps other actions →
    other ∈ (s.run actions).2.members → (s.run actions).2.Before uid other
  joined_in_turn : ∀ action uid other,
    uid ∉ (s.run actions).2.members → other ∉ (s.run actions).2.members →
      uid ∈ (s.run (actions ++ [action])).2.members →
      other ∈ (s.run (actions ++ [action])).2.members →
        ((s.run (actions ++ [action])).2.Before uid other ↔ action.adds.Before uid other)
  nodup : s.members.Nodup ∨ .dedup ∈ actions → (s.run actions).2.members.Nodup
  size_eq : s.members.Nodup ∨ .dedup ∈ actions →
    (s.run actions).2.size = (Action.runOnSet s.toFinset actions).2.card

/-- Any list under any actions behaves as a set whose members are kept in turn. -/
theorem refines_set (s : UidSet) (actions : List Action) : s.Refines actions := by
  have onSet := run_onSet s actions
  refine ⟨?_, ?_, ?_, ?_, ?_, nodup_run, ?_⟩
  · rw [onSet]
  · intro uid
    rw [onSet, mem_toFinset]
  · intro uid other kept kept'
    exact before_run_iff kept kept'
  · intro uid other kept joined present
    exact before_run_of_joined kept joined present
  · intro action uid other new new' present present'
    rw [run_concat] at present present' ⊢
    exact before_perform_added present present' new new'
  · intro distinct
    rw [onSet, toFinset, List.toFinset_card_of_nodup (nodup_run distinct), size]

example : run ⟨[⟨1⟩, ⟨2⟩, ⟨1⟩, ⟨3⟩]⟩ [.insert ⟨2⟩, .erase ⟨1⟩, .insert ⟨1⟩] =
    ([some false, some true, some true], ⟨[⟨2⟩, ⟨3⟩, ⟨1⟩]⟩) := by
  decide

end UidSet

end CapabilityGuard
