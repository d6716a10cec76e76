import CapabilityGuard.Store.Basic

/-! What an operation on a store leaves alone. A change touches the container that it names and no
other, a commit those that its changes name, and what is staged stays so until its transaction is
closed. -/
namespace CapabilityGuard

theorem found_of_insert {α β : Type} [DecidableEq α] [Hashable α] {map : Std.ExtHashMap α β}
    {key other : α} {value found : β} (read : (map.insert key value)[other]? = some found) :
    key = other ∧ value = found ∨ key ≠ other ∧ map[other]? = some found := by
  rw [Std.ExtHashMap.getElem?_insert] at read
  split at read
  next same => exact .inl ⟨by simpa using same, Option.some.inj read⟩
  next different => exact .inr ⟨by simpa using different, read⟩

namespace Change

/-- All that a change can do when it succeeds. -/
theorem apply_cases {change : Change} {containers next : Containers}
    (applied : change.apply containers = .ok next) :
    (∃ cid, change = .create cid ∧ containers[cid]? = none ∧ next = containers.insert cid ∅) ∨
    (∃ cid acls, change = .remove cid ∧ containers[cid]? = some acls ∧
      next = containers.erase cid) ∨
    (∃ cid op uids acls, change = .put cid op uids ∧ containers[cid]? = some acls ∧
      next = containers.insert cid (acls.insert op uids)) ∨
    ∃ cid op set unset acls uids, change = .amend cid op set unset ∧
      containers[cid]? = some acls ∧ acls[op]? = some uids ∧
      next = containers.insert cid (acls.insert op (uids.amend set unset).dedup) := by
  cases change with
  | create cid =>
    cases found : containers[cid]? with
    | some acls => simp [apply, found] at applied
    | none =>
      simp only [apply, found, Except.ok.injEq] at applied
      exact .inl ⟨cid, rfl, found, applied.symm⟩
  | remove cid =>
    cases found : containers[cid]? with
    | none => simp [apply, found] at applied
    | some acls =>
      simp only [apply, found, Except.ok.injEq] at applied
      exact .inr (.inl ⟨cid, acls, rfl, found, applied.symm⟩)
  | put cid op uids =>
    cases found : containers[cid]? with
    | none => simp [apply, found] at applied
    | some acls =>
      simp only [apply, found, Except.ok.injEq] at applied
      exact .inr (.inr (.inl ⟨cid, op, uids, acls, rfl, found, applied.symm⟩))
  | amend cid op set unset =>
    cases found : containers[cid]? with
    | none => simp [apply, found] at applied
    | some acls =>
      cases listed : acls[op]? with
      | none => simp [apply, found, listed] at applied
      | some uids =>
        simp only [apply, found, listed, Except.ok.injEq] at applied
        exact .inr (.inr (.inr ⟨cid, op, set, unset, acls, uids, rfl, found, listed,
          applied.symm⟩))

theorem apply_insert_or_erase {change : Change} {containers next : Containers}
    (applied : change.apply containers = .ok next) :
    (∃ acls, next = containers.insert change.cid acls) ∨
      next = containers.erase change.cid := by
  rcases apply_cases applied with ⟨cid, rfl, _, rfl⟩ | ⟨cid, _, rfl, _, rfl⟩ |
    ⟨cid, op, uids, _, rfl, _, rfl⟩ | ⟨cid, op, set, unset, _, _, rfl, _, _, rfl⟩
  · exact .inl ⟨_, rfl⟩
  · exact .inr rfl
  · exact .inl ⟨_, rfl⟩
  · exact .inl ⟨_, rfl⟩

theorem apply_frame {change : Change} {containers next : Containers} {cid : ContainerId}
    (other : change.cid ≠ cid) (applied : change.apply containers = .ok next) :
    next[cid]? = containers[cid]? := by
  rcases apply_insert_or_erase applied with ⟨acls, rfl⟩ | rfl
  · rw [Std.ExtHashMap.getElem?_insert, if_neg (by simpa using other)]
  · rw [Std.ExtHashMap.getElem?_erase, if_neg (by simpa using other)]

theorem applyAll_frame {changes : List Change} {containers next : Containers} {cid : ContainerId}
    (others : ∀ change ∈ changes, change.cid ≠ cid)
    (applied : applyAll containers changes = .ok next) : next[cid]? = containers[cid]? := by
  induction changes generalizing containers with
  | nil =>
    obtain rfl := Except.ok.inj applied
    rfl
  | cons change changes ih =>
    cases first : change.apply containers with
    | error cause => simp [applyAll, first] at applied
    | ok middle =>
      have rest : applyAll middle changes = .ok next := by simpa [applyAll, first] using applied
      rw [ih (fun later member => others later (by simp [member])) rest]
      exact apply_frame (others change (by simp)) first

end Change

namespace Store

/-- Every staged change has a property. -/
def EachStaged (property : Change → Prop) (s : Store) : Prop :=
  ∀ (txn : TxnRef) (changes : List Change),
    s.staged[txn]? = some changes → ∀ change ∈ changes, property change

/-- The store without a transaction. -/
def close (s : Store) (txn : TxnRef) : Store := { s with staged := s.staged.erase txn }

@[simp] theorem close_containers (s : Store) (txn : TxnRef) :
    (s.close txn).containers = s.containers := rfl

@[simp] theorem close_lastTxn (s : Store) (txn : TxnRef) :
    (s.close txn).lastTxn = s.lastTxn := rfl

theorem opened_of_close {s : Store} {txn other : TxnRef} {changes : List Change}
    (opened : (s.close txn).staged[other]? = some changes) :
    txn ≠ other ∧ s.staged[other]? = some changes := by
  simpa [close, Std.ExtHashMap.getElem?_erase] using opened

theorem change_cases (s : Store) (txn? : Option TxnRef) (change : Change) :
    (∃ txn, txn? = some txn ∧ s.staged[txn]? = none ∧
      s.change txn? change = (.error (.unknownTxn txn), s)) ∨
    (∃ txn earlier, txn? = some txn ∧ s.staged[txn]? = some earlier ∧
      s.change txn? change =
        (.ok (), { s with staged := s.staged.insert txn (earlier ++ [change]) })) ∨
    (∃ cause, txn? = none ∧ change.apply s.containers = .error cause ∧
      s.change txn? change = (.error cause, s)) ∨
    ∃ containers, txn? = none ∧ change.apply s.containers = .ok containers ∧
      s.change txn? change = (.ok (), { s with containers }) := by
  cases txn? with
  | some txn =>
    cases opened : s.staged[txn]? with
    | none => exact .inl ⟨txn, rfl, opened, by simp [Store.change, opened]⟩
    | some earlier =>
      exact .inr (.inl ⟨txn, earlier, rfl, opened, by simp [Store.change, opened]⟩)
  | none =>
    cases applied : change.apply s.containers with
    | error cause =>
      exact .inr (.inr (.inl ⟨cause, rfl, rfl, by simp [Store.change, applied]⟩))
    | ok containers =>
      exact .inr (.inr (.inr ⟨containers, rfl, rfl, by simp [Store.change, applied]⟩))

theorem commit_cases (s : Store) (txn : TxnRef) :
    (s.staged[txn]? = none ∧ s.commit txn = (.error (.unknownTxn txn), s)) ∨
    (∃ changes cause, s.staged[txn]? = some changes ∧
      Change.applyAll s.containers changes = .error cause ∧
      s.commit txn = (.error cause, s.close txn)) ∨
    ∃ changes containers, s.staged[txn]? = some changes ∧
      Change.applyAll s.containers changes = .ok containers ∧
      s.commit txn = (.ok changes.length, { s.close txn with containers }) := by
  cases opened : s.staged[txn]? with
  | none => exact .inl ⟨rfl, by simp [Store.commit, opened]⟩
  | some changes =>
    cases applied : Change.applyAll s.containers changes with
    | error cause =>
      exact .inr (.inl ⟨changes, cause, rfl, applied, by
        simp [Store.commit, opened, applied, close]⟩)
    | ok containers =>
      exact .inr (.inr ⟨changes, containers, rfl, applied, by
        simp [Store.commit, opened, applied, close]⟩)

theorem abort_cases (s : Store) (txn : TxnRef) :
    (s.staged[txn]? = none ∧ s.abort txn = (.error (.unknownTxn txn), s)) ∨
    ∃ changes, s.staged[txn]? = some changes ∧ s.abort txn = (.ok (), s.close txn) := by
  cases opened : s.staged[txn]? with
  | none => exact .inl ⟨rfl, by simp [Store.abort, opened]⟩
  | some changes => exact .inr ⟨changes, rfl, by simp [Store.abort, opened, close]⟩

variable {s : Store}

theorem change_frame {cid : ContainerId} {change : Change} (other : change.cid ≠ cid)
    (txn? : Option TxnRef) :
    (s.change txn? change).2.containers[cid]? = s.containers[cid]? := by
  rcases s.change_cases txn? change with ⟨_, _, _, result⟩ | ⟨_, _, _, _, result⟩ |
    ⟨_, _, _, result⟩ | ⟨containers, _, applied, result⟩
  case inr.inr.inr =>
    rw [result]
    exact Change.apply_frame other applied
  all_goals rw [result]

theorem commit_frame {cid : ContainerId} (others : s.EachStaged fun change => change.cid ≠ cid)
    (txn : TxnRef) : (s.commit txn).2.containers[cid]? = s.containers[cid]? := by
  rcases s.commit_cases txn with ⟨_, result⟩ | ⟨_, _, _, _, result⟩ |
    ⟨changes, containers, opened, applied, result⟩
  · rw [result]
  · rw [result, close_containers]
  · rw [result]
    exact Change.applyAll_frame (others txn changes opened) applied

theorem abort_frame (txn : TxnRef) : (s.abort txn).2.containers = s.containers := by
  rcases s.abort_cases txn with ⟨_, result⟩ | ⟨_, _, result⟩ <;> simp [result]

theorem lastTxn_begin (room : s.lastTxn.toNat + 1 < UInt64.size) :
    s.begin.2.lastTxn.toNat = s.lastTxn.toNat + 1 := by
  simp only [Store.begin, UInt64.toNat_add]
  exact Nat.mod_eq_of_lt room

theorem lastTxn_commit (txn : TxnRef) : (s.commit txn).2.lastTxn = s.lastTxn := by
  rcases s.commit_cases txn with ⟨_, result⟩ | ⟨_, _, _, _, result⟩ | ⟨_, _, _, _, result⟩ <;>
    simp [result]

theorem lastTxn_abort (txn : TxnRef) : (s.abort txn).2.lastTxn = s.lastTxn := by
  rcases s.abort_cases txn with ⟨_, result⟩ | ⟨_, _, result⟩ <;> simp [result]

theorem lastTxn_change (txn? : Option TxnRef) (change : Change) :
    (s.change txn? change).2.lastTxn = s.lastTxn := by
  rcases s.change_cases txn? change with ⟨_, _, _, result⟩ | ⟨_, _, _, _, result⟩ |
    ⟨_, _, _, result⟩ | ⟨_, _, _, result⟩ <;> simp [result]

namespace EachStaged

variable {property : Change → Prop}

theorem insert (each : s.EachStaged property) {txn : TxnRef} {changes : List Change}
    (all : ∀ change ∈ changes, property change) (lastTxn : UInt64) :
    EachStaged property { s with staged := s.staged.insert txn changes, lastTxn } := by
  intro other found opened
  rcases found_of_insert opened with ⟨_, rfl⟩ | ⟨_, opened⟩
  · exact all
  · exact each other found opened

theorem begin (each : s.EachStaged property) : s.begin.2.EachStaged property :=
  each.insert (by simp) _

theorem close (each : s.EachStaged property) (txn : TxnRef) :
    (s.close txn).EachStaged property := by
  intro other changes opened
  exact each other changes (opened_of_close opened).2

theorem change (each : s.EachStaged property) {change : Change} (holds : property change)
    (txn? : Option TxnRef) : (s.change txn? change).2.EachStaged property := by
  rcases s.change_cases txn? change with ⟨_, _, _, result⟩ | ⟨txn, earlier, _, opened, result⟩ |
    ⟨_, _, _, result⟩ | ⟨_, _, _, result⟩
  · rwa [result]
  · rw [result]
    apply each.insert
    simpa [or_imp, forall_and] using ⟨each txn earlier opened, holds⟩
  · rwa [result]
  · rw [result]
    exact each

theorem commit (each : s.EachStaged property) (txn : TxnRef) :
    (s.commit txn).2.EachStaged property := by
  rcases s.commit_cases txn with ⟨_, result⟩ | ⟨_, _, _, _, result⟩ | ⟨_, _, _, _, result⟩
  · rwa [result]
  · rw [result]
    exact each.close txn
  · rw [result]
    exact each.close txn

theorem abort (each : s.EachStaged property) (txn : TxnRef) :
    (s.abort txn).2.EachStaged property := by
  rcases s.abort_cases txn with ⟨_, result⟩ | ⟨_, _, result⟩
  · rwa [result]
  · rw [result]
    exact each.close txn

end EachStaged

end Store

end CapabilityGuard
