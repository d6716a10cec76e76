import CapabilityGuard.Proofs.Store.Serial

/-! A commit carries out all of its changes or none, and its error is that of the first change that
fails. Whatever else a store refuses leaves it as it was. -/
namespace CapabilityGuard

namespace Change

/-- The changes succeed one after the other and lead from the first state to the last. -/
inductive Leads : Containers → List Change → Containers → Prop
  | done (containers : Containers) : Leads containers [] containers
  | next {containers middle after : Containers} {change : Change} {rest : List Change}
      (applied : change.apply containers = .ok middle) (later : Leads middle rest after) :
      Leads containers (change :: rest) after

/-- The first change that fails, in the state to which those before it lead, fails with this
error. -/
def FailsFirst (containers : Containers) (changes : List Change) (cause : StoreError) : Prop :=
  ∃ before change rest middle, changes = before ++ change :: rest ∧
    Leads containers before middle ∧ change.apply middle = .error cause

variable {containers after : Containers} {changes : List Change} {cause : StoreError}

theorem applyAll_eq_ok_iff :
    applyAll containers changes = .ok after ↔ Leads containers changes after := by
  constructor
  · intro applied
    induction changes generalizing containers with
    | nil =>
      obtain rfl := Except.ok.inj applied
      exact .done containers
    | cons change rest ih =>
      cases first : change.apply containers with
      | error cause => simp [applyAll, first] at applied
      | ok middle => exact .next first (ih (by simpa [applyAll, first] using applied))
  · intro leads
    induction leads with
    | done containers => rfl
    | next applied _ ih => simpa [applyAll, applied] using ih

theorem applyAll_eq_error_iff :
    applyAll containers changes = .error cause ↔ FailsFirst containers changes cause := by
  constructor
  · intro failed
    induction changes generalizing containers with
    | nil => cases failed
    | cons change rest ih =>
      cases first : change.apply containers with
      | error early =>
        obtain rfl : early = cause := by simpa [applyAll, first] using failed
        exact ⟨[], change, rest, containers, rfl, .done containers, first⟩
      | ok middle =>
        obtain ⟨before, later, tail, reached, rfl, leads, failed⟩ :=
          ih (by simpa [applyAll, first] using failed)
        exact ⟨change :: before, later, tail, reached, rfl, .next first leads, failed⟩
  · rintro ⟨before, change, rest, middle, rfl, leads, failed⟩
    rw [applyAll_append (applyAll_eq_ok_iff.mpr leads), applyAll, failed]

theorem leads_or_failsFirst (containers : Containers) (changes : List Change) :
    (∃ after, Leads containers changes after) ∨ ∃ cause, FailsFirst containers changes cause := by
  cases applied : applyAll containers changes with
  | ok after => exact .inl ⟨after, applyAll_eq_ok_iff.mp applied⟩
  | error cause => exact .inr ⟨cause, applyAll_eq_error_iff.mp applied⟩

/-- What is committed once the changes have been tried together. -/
def together (containers : Containers) (changes : List Change) : Containers :=
  match applyAll containers changes with
  | .ok after => after
  | .error _ => containers

end Change

namespace Store

variable {s : Store} {txn : TxnRef} {changes : List Change}

theorem commit_of_opened (opened : s.staged[txn]? = some changes) :
    s.commit txn = ((Change.applyAll s.containers changes).map fun _ => changes.length,
      { s.close txn with containers := Change.together s.containers changes }) := by
  unfold Change.together
  rcases s.commit_cases txn with ⟨closed, _⟩ | ⟨_, _, found, applied, result⟩ |
    ⟨_, _, found, applied, result⟩
  · rw [closed] at opened
    cases opened
  · obtain rfl := Option.some.inj (found.symm.trans opened)
    rw [result, applied]
    rfl
  · obtain rfl := Option.some.inj (found.symm.trans opened)
    rw [result, applied]
    rfl

/-- What a store refuses leaves it alone, but a commit that fails closes its transaction. -/
theorem perform_error {action : Action} {cause : StoreError}
    (failed : (s.perform action).1 = .error cause) :
    (s.perform action).2 = s ∨
      ∃ txn, action = .commit txn ∧ txn ∈ s.staged ∧ (s.perform action).2 = s.close txn := by
  cases action with
  | begin | hasContainer => cases failed
  | commit txn =>
    rcases s.commit_cases txn with ⟨_, result⟩ | ⟨changes, _, opened, _, result⟩ |
      ⟨_, _, _, _, result⟩
    · exact .inl (congrArg Prod.snd result)
    · refine .inr ⟨txn, rfl, ?_, congrArg Prod.snd result⟩
      simp [Std.ExtHashMap.mem_iff_isSome_getElem?, opened]
    · simp [perform, result, Except.map] at failed
  | abort txn =>
    rcases s.abort_cases txn with ⟨_, result⟩ | ⟨_, _, result⟩
    · exact .inl (congrArg Prod.snd result)
    · simp [perform, result, Except.map] at failed
  | change txn? change =>
    rcases s.change_cases txn? change with ⟨_, _, _, result⟩ | ⟨_, _, _, _, result⟩ |
      ⟨_, _, _, result⟩ | ⟨_, _, _, result⟩
    case inl | inr.inr.inl => exact .inl (congrArg Prod.snd result)
    all_goals simp [perform, result, Except.map] at failed
  | acl cid op => exact .inl rfl

/-- A commit leads to where its changes lead, or fails with the first of them that fails and then
changes nothing. Either way its transaction is closed and the others are left alone. Everything else
that is refused leaves the store as it was. -/
theorem commit_all_or_nothing (s : Store) :
    (∀ (txn : TxnRef) (changes : List Change), s.staged[txn]? = some changes →
      ((∃ after, Change.Leads s.containers changes after) ∨
        ∃ cause, Change.FailsFirst s.containers changes cause) ∧
      (∀ after, Change.Leads s.containers changes after →
        (s.commit txn).1 = .ok changes.length ∧ (s.commit txn).2.containers = after) ∧
      (∀ cause, Change.FailsFirst s.containers changes cause →
        (s.commit txn).1 = .error cause ∧ (s.commit txn).2.containers = s.containers) ∧
      txn ∉ (s.commit txn).2.staged ∧
      (∀ other, other ≠ txn → (s.commit txn).2.staged[other]? = s.staged[other]?) ∧
      (s.commit txn).2.lastTxn = s.lastTxn) ∧
    ∀ action cause, (s.perform action).1 = .error cause →
      (s.perform action).2 = s ∨
        ∃ txn, action = .commit txn ∧ txn ∈ s.staged ∧
          (s.perform action).2 = { s with staged := s.staged.erase txn } := by
  refine ⟨fun txn changes opened => ?_, fun action cause => perform_error⟩
  rw [commit_of_opened opened]
  refine ⟨Change.leads_or_failsFirst s.containers changes, ?_, ?_, ?_, ?_, rfl⟩
  · intro after leads
    simp [Change.together, Change.applyAll_eq_ok_iff.mpr leads, Except.map]
  · intro cause failed
    simp [Change.together, Change.applyAll_eq_error_iff.mpr failed, Except.map]
  · simp [close]
  · intro other different
    simp [close, Std.ExtHashMap.getElem?_erase, different.symm]

def takenCid : ContainerId := ⟨.zero 16⟩

def freshCid : ContainerId := ⟨⟨List.replicate 16 2, rfl⟩⟩

def overreach : List Change := [.create freshCid, .create takenCid, .remove takenCid]

/-- The second of the staged changes will fail, for its container is there already. -/
def doomed : Store :=
  { containers := (∅ : Containers).insert takenCid ∅
    staged := (∅ : Std.ExtHashMap TxnRef (List Change)).insert ⟨1⟩ overreach
    lastTxn := 1 }

theorem failsFirst_doomed :
    Change.FailsFirst doomed.containers overreach (.containerExists takenCid) := by
  have different : takenCid ≠ freshCid := by decide
  have created : (Change.create freshCid).apply doomed.containers =
      .ok (doomed.containers.insert freshCid ∅) := by
    simp [Change.apply, doomed, different]
  refine ⟨[_], _, [_], _, rfl, .next created (.done _), ?_⟩
  simp [Change.apply, doomed, different.symm]

theorem commit_all_or_nothing_doomed :
    doomed.staged[(⟨1⟩ : TxnRef)]? = some overreach ∧
    (doomed.commit ⟨1⟩).1 = .error (.containerExists takenCid) ∧
    (doomed.commit ⟨1⟩).2.containers = doomed.containers ∧
    ⟨1⟩ ∉ (doomed.commit ⟨1⟩).2.staged := by
  have opened : doomed.staged[(⟨1⟩ : TxnRef)]? = some overreach := by simp [doomed]
  obtain ⟨_, _, fails, closed, _⟩ := (commit_all_or_nothing doomed).1 ⟨1⟩ overreach opened
  obtain ⟨told, kept⟩ := fails _ failsFirst_doomed
  exact ⟨opened, told, kept, closed⟩

end Store

end CapabilityGuard
