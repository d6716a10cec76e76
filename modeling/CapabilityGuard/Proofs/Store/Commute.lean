import CapabilityGuard.Proofs.Store.Commit

/-! What becomes of a list of changes depends on the containers that it names and on no others.
Transactions that name different containers can therefore be committed in either order, whether
their commits succeed or fail. -/
namespace CapabilityGuard

/-- The two states hold the same for the containers of a class. -/
def Containers.Agree (within : ContainerId → Prop) (first second : Containers) : Prop :=
  ∀ cid, within cid → first[cid]? = second[cid]?

namespace Containers.Agree

variable {within : ContainerId → Prop} {first second : Containers}

theorem insert (agree : Agree within first second) (cid : ContainerId) (acls : Acls) :
    Agree within (first.insert cid acls) (second.insert cid acls) := by
  intro other member
  rw [Std.ExtHashMap.getElem?_insert, Std.ExtHashMap.getElem?_insert, agree other member]

theorem erase (agree : Agree within first second) (cid : ContainerId) :
    Agree within (first.erase cid) (second.erase cid) := by
  intro other member
  rw [Std.ExtHashMap.getElem?_erase, Std.ExtHashMap.getElem?_erase, agree other member]

end Containers.Agree

namespace Change

/-- Both fail with the same error, or both succeed with states that agree. -/
inductive Alike (within : ContainerId → Prop) :
    Except StoreError Containers → Except StoreError Containers → Prop
  | error (cause : StoreError) : Alike within (.error cause) (.error cause)
  | ok {first second : Containers} (agree : Containers.Agree within first second) :
      Alike within (.ok first) (.ok second)

variable {within : ContainerId → Prop} {first second : Containers}

theorem apply_alike {change : Change} (named : within change.cid)
    (agree : Containers.Agree within first second) :
    Alike within (change.apply first) (change.apply second) := by
  cases change with
  | create cid =>
    simp only [apply, ← agree cid named]
    cases first[cid]? with
    | none => exact .ok (agree.insert cid ∅)
    | some acls => exact .error _
  | remove cid =>
    simp only [apply, ← agree cid named]
    cases first[cid]? with
    | none => exact .error _
    | some acls => exact .ok (agree.erase cid)
  | put cid op uids =>
    simp only [apply, ← agree cid named]
    cases first[cid]? with
    | none => exact .error _
    | some acls => exact .ok (agree.insert cid _)
  | amend cid op set unset =>
    simp only [apply, ← agree cid named]
    cases first[cid]? with
    | none => exact .error _
    | some acls =>
      dsimp only
      cases acls[op]? with
      | none => exact .error _
      | some uids => exact .ok (agree.insert cid _)

theorem applyAll_alike {changes : List Change} (named : ∀ change ∈ changes, within change.cid)
    (agree : Containers.Agree within first second) :
    Alike within (applyAll first changes) (applyAll second changes) := by
  induction changes generalizing first second with
  | nil => exact .ok agree
  | cons change rest ih =>
    obtain ⟨now, later⟩ := List.forall_mem_cons.mp named
    have head := apply_alike now agree
    unfold applyAll
    generalize change.apply first = result, change.apply second = result' at head
    cases head with
    | error cause => exact .error cause
    | ok agree => exact ih later agree

theorem together_agree {changes : List Change} (named : ∀ change ∈ changes, within change.cid)
    (agree : Containers.Agree within first second) :
    Containers.Agree within (together first changes) (together second changes) := by
  have alike := applyAll_alike named agree
  unfold together
  generalize applyAll first changes = result, applyAll second changes = result' at alike
  cases alike with
  | error cause => exact agree
  | ok agree => exact agree

/-- A change in the list names the container. -/
def Names (changes : List Change) (cid : ContainerId) : Prop :=
  ∃ change ∈ changes, change.cid = cid

/-- No container is named in both lists. -/
def Apart (changes others : List Change) : Prop :=
  ∀ cid, ¬ (Names changes cid ∧ Names others cid)

theorem Apart.symm {changes others : List Change} (apart : Apart changes others) :
    Apart others changes :=
  fun cid both => apart cid both.symm

variable {changes others : List Change}

theorem names_of_mem : ∀ change ∈ changes, Names changes change.cid :=
  fun change member => ⟨change, member, rfl⟩

theorem together_frame {containers : Containers} {cid : ContainerId}
    (unnamed : ¬ Names changes cid) : (together containers changes)[cid]? = containers[cid]? := by
  unfold together
  cases applied : applyAll containers changes with
  | error cause => rfl
  | ok after =>
    have others (change) (member : change ∈ changes) : change.cid ≠ cid :=
      fun same => unnamed ⟨change, member, same⟩
    exact applyAll_frame others applied

theorem Apart.agree (apart : Apart changes others) (containers : Containers) :
    Containers.Agree (Names others) (together containers changes) containers :=
  fun cid named => together_frame fun both => apart cid ⟨both, named⟩

/-- What is committed in front does not matter to the changes of the other list. -/
theorem Apart.alike (apart : Apart changes others) (containers : Containers) :
    Alike (Names others) (applyAll (together containers changes) others)
      (applyAll containers others) :=
  applyAll_alike names_of_mem (apart.agree containers)

theorem Apart.together_at (apart : Apart changes others) (containers : Containers)
    {cid : ContainerId} (named : Names changes cid) :
    (together (together containers changes) others)[cid]? =
      (together (together containers others) changes)[cid]? := by
  have back := together_agree names_of_mem (apart.symm.agree containers)
  calc
    _ = (together containers changes)[cid]? := apart.symm.agree _ cid named
    _ = _ := (back cid named).symm

theorem Apart.together_comm (apart : Apart changes others) (containers : Containers) :
    together (together containers changes) others =
      together (together containers others) changes := by
  apply Std.ExtHashMap.ext_getElem?
  intro cid
  by_cases named : Names changes cid
  · exact apart.together_at containers named
  · by_cases named' : Names others cid
    · exact (apart.symm.together_at containers named').symm
    · rw [together_frame named', together_frame named, together_frame named,
        together_frame named']

theorem Alike.map_const {α : Type} {result result' : Except StoreError Containers}
    (alike : Alike within result result') (value : α) :
    (result.map fun _ => value) = result'.map fun _ => value := by
  cases alike <;> rfl

end Change

namespace Store

variable {s : Store} {first second : TxnRef} {changes others : List Change}

theorem commit_after_commit (different : first ≠ second) (opened : s.staged[first]? = some changes)
    (opened' : s.staged[second]? = some others) :
    (s.commit first).2.commit second =
      ((Change.applyAll (Change.together s.containers changes) others).map fun _ => others.length,
        { (s.close first).close second with
          containers := Change.together (Change.together s.containers changes) others }) := by
  have still : (s.close first).staged[second]? = some others := by
    simpa [close, Std.ExtHashMap.getElem?_erase, different] using opened'
  rw [commit_of_opened opened]
  exact commit_of_opened still

theorem close_comm (s : Store) (first second : TxnRef) :
    (s.close first).close second = (s.close second).close first := by
  have same : (s.staged.erase first).erase second = (s.staged.erase second).erase first := by
    apply Std.ExtHashMap.ext_getElem?
    intro txn
    simp only [Std.ExtHashMap.getElem?_erase]
    cases first == txn <;> cases second == txn <;> rfl
  unfold close
  rw [same]

/-- Transactions that name different containers get the same answers and leave the same store in
whichever order they are committed. -/
theorem commits_commute (s : Store) (first second : TxnRef) (changes others : List Change)
    (different : first ≠ second) (opened : s.staged[first]? = some changes)
    (opened' : s.staged[second]? = some others) (apart : Change.Apart changes others) :
    ((s.commit second).2.commit first).1 = (s.commit first).1 ∧
    ((s.commit first).2.commit second).1 = (s.commit second).1 ∧
    ((s.commit first).2.commit second).2 = ((s.commit second).2.commit first).2 := by
  rw [commit_after_commit different opened opened', commit_of_opened opened,
    commit_after_commit different.symm opened' opened, commit_of_opened opened']
  refine ⟨(apart.symm.alike s.containers).map_const _, (apart.alike s.containers).map_const _, ?_⟩
  rw [apart.together_comm, close_comm]

/-- The first transaction will fail, for it creates a container twice, and the second will not. -/
def rivals : Store :=
  { containers := (∅ : Containers).insert takenCid ∅
    staged := ((∅ : Std.ExtHashMap TxnRef (List Change)).insert ⟨1⟩
      [.create freshCid, .create freshCid]).insert ⟨2⟩ [.put takenCid .read ⟨[⟨7⟩]⟩]
    lastTxn := 2 }

theorem commits_commute_rivals :
    Change.Apart [.create freshCid, .create freshCid] [.put takenCid .read ⟨[⟨7⟩]⟩] ∧
    ((rivals.commit ⟨2⟩).2.commit ⟨1⟩).1 = .error (.containerExists freshCid) ∧
    ((rivals.commit ⟨1⟩).2.commit ⟨2⟩).1 = .ok 1 ∧
    ((rivals.commit ⟨1⟩).2.commit ⟨2⟩).2 = ((rivals.commit ⟨2⟩).2.commit ⟨1⟩).2 := by
  have different : takenCid ≠ freshCid := by decide
  have apart : Change.Apart [.create freshCid, .create freshCid]
      [.put takenCid .read ⟨[⟨7⟩]⟩] := by
    rintro cid ⟨named, named'⟩
    simp only [Change.Names, Change.cid, List.mem_cons, List.not_mem_nil, or_false, or_self,
      exists_eq_left] at named named'
    exact different (named'.trans named.symm)
  have opened : rivals.staged[(⟨1⟩ : TxnRef)]? = some [.create freshCid, .create freshCid] := by
    simp [rivals, Std.ExtHashMap.getElem_insert]
  have opened' : rivals.staged[(⟨2⟩ : TxnRef)]? = some [.put takenCid .read ⟨[⟨7⟩]⟩] := by
    simp [rivals]
  obtain ⟨first, second, same⟩ :=
    commits_commute rivals ⟨1⟩ ⟨2⟩ _ _ (by decide) opened opened' apart
  refine ⟨apart, first.trans ?_, second.trans ?_, same⟩
  · rw [commit_of_opened opened]
    simp [rivals, Change.applyAll, Change.apply, different, Except.map]
  · rw [commit_of_opened opened']
    simp [rivals, Change.applyAll, Change.apply, Except.map]

end Store

end CapabilityGuard
