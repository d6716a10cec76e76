import CapabilityGuard.Proofs.Store.Frame
import CapabilityGuard.Store.Action
import Mathlib.Data.List.Pairwise

/-! Runs of a store as histories of actions and answers. A transaction is closed by the first commit
or abort that finds it open, and as long as numbers do not repeat it stays closed. -/
namespace CapabilityGuard

theorem concat_eq_iff {α : Type} {log earlier later : List α} {last entry : α} :
    log ++ [last] = earlier ++ entry :: later ↔
      (later = [] ∧ log = earlier ∧ last = entry) ∨
      ∃ before, later = before ++ [last] ∧ log = earlier ++ entry :: before := by
  rcases List.eq_nil_or_concat later with rfl | ⟨before, other, rfl⟩
  · simp
  · rw [List.concat_eq_append, ← List.cons_append, ← List.append_assoc, List.append_singleton_inj]
    constructor
    · rintro ⟨rfl, rfl⟩
      exact .inr ⟨before, rfl, rfl⟩
    · rintro (⟨empty, _⟩ | ⟨front, same, rfl⟩)
      · simp at empty
      · obtain ⟨rfl, rfl⟩ := List.append_singleton_inj.mp same
        exact ⟨rfl, rfl⟩

namespace Store

/-- An action and what it was answered. -/
abbrev Entry := Action × Except StoreError Answer

def history (s : Store) (actions : List Action) : List Entry := actions.zip (s.run actions).1

theorem history_cons (s : Store) (action : Action) (rest : List Action) :
    s.history (action :: rest) =
      (action, (s.perform action).1) :: (s.perform action).2.history rest := rfl

theorem run_cons (s : Store) (action : Action) (rest : List Action) :
    (s.run (action :: rest)).2 = ((s.perform action).2.run rest).2 := rfl

theorem history_append (s : Store) (earlier later : List Action) :
    s.history (earlier ++ later) = s.history earlier ++ (s.run earlier).2.history later := by
  induction earlier generalizing s with
  | nil => rfl
  | cons action earlier ih => rw [List.cons_append, history_cons, ih, history_cons, run_cons]; rfl

theorem history_split {s : Store} {actions : List Action} {earlier later : List Entry}
    {action : Action} {answer : Except StoreError Answer}
    (split : s.history actions = earlier ++ (action, answer) :: later) :
    ∃ before, earlier = s.history before ∧ answer = ((s.run before).2.perform action).1 ∧
      before ++ [action] <+: actions := by
  induction earlier generalizing s actions with
  | nil =>
    cases actions with
    | nil => cases split
    | cons first rest =>
      rw [history_cons] at split
      obtain ⟨same, _⟩ := List.cons.inj split
      obtain ⟨rfl, rfl⟩ := Prod.mk.inj same
      exact ⟨[], rfl, rfl, rest, rfl⟩
  | cons entry earlier ih =>
    cases actions with
    | nil => cases split
    | cons first rest =>
      rw [history_cons] at split
      obtain ⟨rfl, tail⟩ := List.cons.inj split
      obtain ⟨before, rfl, rfl, below⟩ := ih tail
      exact ⟨first :: before, rfl, rfl, List.cons_prefix_cons.mpr ⟨rfl, below⟩⟩

theorem lastTxn_perform {s : Store} {action : Action}
    (room : s.lastTxn.toNat + [action].count .begin < UInt64.size) :
    (s.perform action).2.lastTxn.toNat = s.lastTxn.toNat + [action].count .begin := by
  cases action with
  | begin => exact lastTxn_begin room
  | commit txn => exact congrArg UInt64.toNat (lastTxn_commit txn)
  | abort txn => exact congrArg UInt64.toNat (lastTxn_abort txn)
  | change txn? change => exact congrArg UInt64.toNat (lastTxn_change txn? change)
  | acl cid op => rfl
  | hasContainer cid => rfl

theorem count_begin_cons (action : Action) (rest : List Action) :
    (action :: rest).count .begin = [action].count .begin + rest.count .begin := by
  rw [← List.count_append, List.singleton_append]

theorem room_cons {s : Store} {action : Action} {rest : List Action}
    (room : s.lastTxn.toNat + (action :: rest).count .begin < UInt64.size) :
    s.lastTxn.toNat + [action].count .begin < UInt64.size ∧
      (s.perform action).2.lastTxn.toNat + rest.count .begin < UInt64.size := by
  rw [count_begin_cons] at room
  have now : s.lastTxn.toNat + [action].count .begin < UInt64.size := by omega
  refine ⟨now, ?_⟩
  rw [lastTxn_perform now]
  omega

theorem lastTxn_run {s : Store} {actions : List Action}
    (room : s.lastTxn.toNat + actions.count .begin < UInt64.size) :
    (s.run actions).2.lastTxn.toNat = s.lastTxn.toNat + actions.count .begin := by
  induction actions generalizing s with
  | nil => rfl
  | cons action rest ih =>
    obtain ⟨now, later⟩ := room_cons room
    rw [run_cons, ih later, lastTxn_perform now, count_begin_cons action rest, Nat.add_assoc]

/-- What every action preserves holds after a run, as long as numbers do not repeat. -/
theorem run_invariant {holds : List Entry → Store → Prop}
    (step : ∀ history s, holds history s → ∀ action,
      s.lastTxn.toNat + [action].count .begin < UInt64.size →
        holds (history ++ [(action, (s.perform action).1)]) (s.perform action).2)
    {history : List Entry} {s : Store} (before : holds history s) {actions : List Action}
    (room : s.lastTxn.toNat + actions.count .begin < UInt64.size) :
    holds (history ++ s.history actions) (s.run actions).2 := by
  induction actions generalizing history s with
  | nil => simpa [Store.history, Store.run] using before
  | cons action rest ih =>
    obtain ⟨now, later⟩ := room_cons room
    rw [history_cons, run_cons]
    simpa using ih (step history s before action now) later

/-- Whether an entry closes the transaction and drops its changes. A commit that fails does, unless
it did not find the transaction open. -/
def discards (txn : TxnRef) : Entry → Bool
  | (.abort under, .ok _) => under = txn
  | (.commit under, .error cause) => under = txn && cause ≠ .unknownTxn txn
  | _ => false

def finishes (txn : TxnRef) : Entry → Bool
  | (.commit under, .ok _) => under = txn
  | _ => false

def closes (txn : TxnRef) (entry : Entry) : Bool := discards txn entry || finishes txn entry

/-- Open transactions have not been closed, none has been closed twice, and the numbers of all of
them have been given out. -/
structure Settled (history : List Entry) (s : Store) : Prop where
  opened : ∀ (txn : TxnRef) (changes : List Change), s.staged[txn]? = some changes →
    txn.number.toNat ≤ s.lastTxn.toNat ∧ ∀ entry ∈ history, closes txn entry = false
  numbered : ∀ txn, ∀ entry ∈ history, closes txn entry = true →
    txn.number.toNat ≤ s.lastTxn.toNat
  once : ∀ txn, history.Pairwise fun first second =>
    ¬ (closes txn first = true ∧ closes txn second = true)

theorem settled_empty : Settled [] {} := ⟨by simp, by simp, by simp⟩

namespace Settled

variable {history : List Entry} {s : Store}

theorem silent (settled : Settled history s) {entry : Entry}
    (neutral : ∀ txn, closes txn entry = false) : Settled (history ++ [entry]) s where
  opened txn changes opened := by
    obtain ⟨bound, fresh⟩ := settled.opened txn changes opened
    exact ⟨bound, List.forall_mem_append.mpr ⟨fresh, by simp [neutral]⟩⟩
  numbered txn := List.forall_mem_append.mpr ⟨settled.numbered txn, by simp [neutral]⟩
  once txn := List.pairwise_append.mpr ⟨settled.once txn, by simp, by simp [neutral]⟩

theorem close (settled : Settled history s) {txn : TxnRef} {changes : List Change}
    (found : s.staged[txn]? = some changes) {entry : Entry}
    (only : ∀ other, closes other entry = true → txn = other) :
    Settled (history ++ [entry]) (s.close txn) where
  opened other later opened := by
    obtain ⟨different, opened⟩ := opened_of_close opened
    obtain ⟨bound, fresh⟩ := settled.opened other later opened
    have kept : closes other entry = false :=
      Bool.eq_false_iff.mpr fun closed => different (only other closed)
    exact ⟨bound, List.forall_mem_append.mpr ⟨fresh, by simpa using kept⟩⟩
  numbered other := by
    refine List.forall_mem_append.mpr ⟨settled.numbered other, ?_⟩
    rw [List.forall_mem_singleton]
    intro closed
    rw [← only other closed]
    exact (settled.opened txn changes found).1
  once other := by
    refine List.pairwise_append.mpr ⟨settled.once other, by simp, ?_⟩
    intro earlier before last member both
    rw [List.mem_singleton.mp member] at both
    have fresh := (settled.opened txn changes found).2 earlier before
    rw [only other both.2, both.1] at fresh
    cases fresh

theorem begin (settled : Settled history s) (room : s.lastTxn.toNat + 1 < UInt64.size) :
    Settled history s.begin.2 := by
  have next := lastTxn_begin room
  have grown (txn : TxnRef) (bound : txn.number.toNat ≤ s.lastTxn.toNat) :
      txn.number.toNat ≤ s.begin.2.lastTxn.toNat := by
    omega
  refine ⟨?_, fun txn entry member closed => grown txn (settled.numbered txn entry member closed),
    settled.once⟩
  intro txn changes opened
  rcases found_of_insert opened with ⟨rfl, _⟩ | ⟨_, opened⟩
  · refine ⟨Nat.le_refl _, fun entry member => Bool.eq_false_iff.mpr fun closed => ?_⟩
    -- the number has not been given out before
    have given : s.begin.2.lastTxn.toNat ≤ s.lastTxn.toNat :=
      settled.numbered _ entry member closed
    omega
  · obtain ⟨bound, fresh⟩ := settled.opened txn changes opened
    exact ⟨grown txn bound, fresh⟩

theorem commit (settled : Settled history s) (txn : TxnRef) :
    Settled (history ++ [(.commit txn, (s.commit txn).1.map .applied)]) (s.commit txn).2 := by
  rcases s.commit_cases txn with ⟨_, result⟩ | ⟨changes, cause, opened, _, result⟩ |
    ⟨changes, containers, opened, _, result⟩
  · rw [result]
    apply settled.silent
    simp +contextual [Except.map, closes, discards, finishes]
  · rw [result]
    apply settled.close opened
    intro other closed
    have parts : txn = other ∧ cause ≠ .unknownTxn other := by
      simpa [Except.map, closes, discards, finishes] using closed
    exact parts.1
  · rw [result]
    have closed : Settled (history ++ [(.commit txn, .ok (.applied changes.length))])
        (s.close txn) := by
      apply settled.close opened
      simp [closes, discards, finishes]
    exact ⟨closed.opened, closed.numbered, closed.once⟩

theorem abort (settled : Settled history s) (txn : TxnRef) :
    Settled (history ++ [(.abort txn, (s.abort txn).1.map fun _ => .done)]) (s.abort txn).2 := by
  rcases s.abort_cases txn with ⟨_, result⟩ | ⟨changes, opened, result⟩
  · rw [result]
    exact settled.silent fun _ => rfl
  · rw [result]
    apply settled.close opened
    simp [Except.map, closes, discards, finishes]

theorem change (settled : Settled history s) (txn? : Option TxnRef) (change : Change) :
    Settled history (s.change txn? change).2 := by
  rcases s.change_cases txn? change with ⟨_, _, _, result⟩ | ⟨txn, earlier, _, found, result⟩ |
    ⟨_, _, _, result⟩ | ⟨_, _, _, result⟩
  · rwa [result]
  · rw [result]
    refine ⟨fun other changes opened => ?_, settled.numbered, settled.once⟩
    rcases found_of_insert opened with ⟨rfl, _⟩ | ⟨_, opened⟩
    · exact settled.opened txn earlier found
    · exact settled.opened other changes opened
  · rwa [result]
  · rw [result]
    exact ⟨settled.opened, settled.numbered, settled.once⟩

theorem perform (settled : Settled history s) (action : Action)
    (room : s.lastTxn.toNat + [action].count .begin < UInt64.size) :
    Settled (history ++ [(action, (s.perform action).1)]) (s.perform action).2 := by
  cases action with
  | begin => exact (settled.begin room).silent fun _ => rfl
  | commit txn => exact settled.commit txn
  | abort txn => exact settled.abort txn
  | change txn? change => exact (settled.change txn? change).silent fun _ => rfl
  | acl cid op => exact settled.silent fun _ => rfl
  | hasContainer cid => exact settled.silent fun _ => rfl

end Settled

/-- Unless numbers repeat, a transaction whose changes were dropped is never committed. -/
theorem discarded_never_finished {actions : List Action} (room : actions.count .begin < UInt64.size)
    {txn : TxnRef} {entry : Entry} (member : entry ∈ history {} actions)
    (discarded : discards txn entry = true) (answer : Answer) :
    (.commit txn, .ok answer) ∉ history {} actions := by
  intro finished
  have settled : Settled (history {} actions) (run {} actions).2 :=
    run_invariant (fun _ _ settled => settled.perform) settled_empty (by simpa using room)
  have symmetric : Std.Symm fun first second : Entry =>
      ¬ (closes txn first = true ∧ closes txn second = true) :=
    ⟨fun _ _ apart both => apart both.symm⟩
  have different : entry ≠ (.commit txn, .ok answer) := by
    intro same
    rw [same] at discarded
    cases discarded
  exact (settled.once txn).forall member finished different
    ⟨by simp [closes, discarded], by simp [closes, finishes]⟩

end Store

end CapabilityGuard
