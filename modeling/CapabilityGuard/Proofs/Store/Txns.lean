import CapabilityGuard.Proofs.Store.History

/-! Transactions are used once. Their numbers do not repeat within a run, so that a transaction that
was closed stays closed, and whatever still names it is refused and changes nothing. -/
namespace CapabilityGuard

namespace Store

def Action.txn? : Action → Option TxnRef
  | commit txn | abort txn => some txn
  | change txn? _ => txn?
  | begin | acl _ _ | hasContainer _ => none

def opening (txn : TxnRef) : Entry := (.begin, .ok (.opened txn))

/-- An entry asks to commit or to abort the transaction, whatever comes of it. -/
def Ends (txn : TxnRef) (entry : Entry) : Prop := entry.1 = .commit txn ∨ entry.1 = .abort txn

/-- The transaction was opened, and nothing has asked to end it since. -/
def Open (history : List Entry) (txn : TxnRef) : Prop :=
  ∃ before after, history = before ++ opening txn :: after ∧ ∀ entry ∈ after, ¬ Ends txn entry

theorem open_concat_iff {history : List Entry} {entry : Entry} {txn : TxnRef} :
    Open (history ++ [entry]) txn ↔
      entry = opening txn ∨ Open history txn ∧ ¬ Ends txn entry := by
  constructor
  · rintro ⟨before, after, split, unended⟩
    rcases concat_eq_iff.mp split with ⟨_, _, same⟩ | ⟨middle, rfl, rfl⟩
    · exact .inl same
    · exact .inr ⟨⟨before, middle, rfl, fun next member => unended next (by simp [member])⟩,
        unended entry (by simp)⟩
  · rintro (rfl | ⟨⟨before, after, rfl, unended⟩, kept⟩)
    · exact ⟨history, [], rfl, by simp⟩
    · refine ⟨before, after ++ [entry], by simp, ?_⟩
      exact List.forall_mem_append.mpr ⟨unended, by simpa using kept⟩

variable {s : Store} {txn under : TxnRef}

theorem mem_staged_begin : txn ∈ s.begin.2.staged ↔ s.begin.1 = txn ∨ txn ∈ s.staged := by
  simp [Store.begin]

theorem mem_staged_close : txn ∈ (s.close under).staged ↔ txn ∈ s.staged ∧ under ≠ txn := by
  simp [close, and_comm]

theorem mem_staged_of_closed (closed : s.staged[under]? = none) :
    txn ∈ s.staged ↔ txn ∈ s.staged ∧ under ≠ txn := by
  refine ⟨fun member => ⟨member, ?_⟩, And.left⟩
  rintro rfl
  exact (getElem?_eq_none_iff _ _).mp closed member

theorem mem_staged_commit : txn ∈ (s.commit under).2.staged ↔ txn ∈ s.staged ∧ under ≠ txn := by
  rcases s.commit_cases under with ⟨closed, result⟩ | ⟨_, _, _, _, result⟩ |
    ⟨_, _, _, _, result⟩
  · rw [result]
    exact mem_staged_of_closed closed
  · rw [result]
    exact mem_staged_close
  · rw [result]
    exact mem_staged_close

theorem mem_staged_abort : txn ∈ (s.abort under).2.staged ↔ txn ∈ s.staged ∧ under ≠ txn := by
  rcases s.abort_cases under with ⟨closed, result⟩ | ⟨_, _, result⟩
  · rw [result]
    exact mem_staged_of_closed closed
  · rw [result]
    exact mem_staged_close

theorem mem_staged_change {txn? : Option TxnRef} {change : Change} :
    txn ∈ (s.change txn? change).2.staged ↔ txn ∈ s.staged := by
  rcases s.change_cases txn? change with ⟨_, _, _, result⟩ | ⟨under, earlier, _, found, result⟩ |
    ⟨_, _, _, result⟩ | ⟨_, _, _, result⟩
  case inr.inl =>
    -- what a change is staged under was open already
    have opened : under ∈ s.staged := by simp [Std.ExtHashMap.mem_iff_isSome_getElem?, found]
    rw [result]
    simp only [Std.ExtHashMap.mem_insert, beq_iff_eq, or_iff_right_iff_imp]
    rintro rfl
    exact opened
  all_goals rw [result]

theorem perform_closed {action : Action} (named : action.txn? = some txn)
    (closed : txn ∉ s.staged) : s.perform action = (.error (.unknownTxn txn), s) := by
  have missing : s.staged[txn]? = none := Std.ExtHashMap.getElem?_eq_none closed
  cases action with
  | begin => cases named
  | commit under =>
    cases named
    simp [perform, Store.commit, missing, Except.map]
  | abort under =>
    cases named
    simp [perform, Store.abort, missing, Except.map]
  | change txn? change =>
    obtain rfl : txn? = some txn := named
    simp [perform, Store.change, missing, Except.map]
  | acl cid op => cases named
  | hasContainer cid => cases named

/-- The history tells which transactions are open, and those that it has opened are numbered up to
the last one. -/
structure Tracked (history : List Entry) (s : Store) : Prop where
  open_iff : ∀ txn, txn ∈ s.staged ↔ Open history txn
  numbered : ∀ txn, opening txn ∈ history → txn.number.toNat ≤ s.lastTxn.toNat

theorem tracked_empty : Tracked [] {} := ⟨by simp [Open], by simp⟩

namespace Tracked

variable {history : List Entry} {after : Store}

theorem later (tracked : Tracked history s) {entry : Entry}
    (opens : ∀ txn, entry ≠ opening txn) (same : after.lastTxn = s.lastTxn)
    (kept : ∀ txn, txn ∈ after.staged ↔ txn ∈ s.staged ∧ ¬ Ends txn entry) :
    Tracked (history ++ [entry]) after where
  open_iff txn := by
    rw [kept, tracked.open_iff, open_concat_iff]
    simp [opens]
  numbered txn member := by
    rw [List.mem_append, List.mem_singleton] at member
    rcases member with member | rfl
    · rw [same]
      exact tracked.numbered txn member
    · exact absurd rfl (opens txn)

theorem begin (tracked : Tracked history s) (room : s.lastTxn.toNat + 1 < UInt64.size) :
    Tracked (history ++ [opening s.begin.1]) s.begin.2 where
  open_iff txn := by
    rw [mem_staged_begin, tracked.open_iff, open_concat_iff]
    simp [opening, Ends]
  numbered txn member := by
    have next := lastTxn_begin room
    rw [List.mem_append, List.mem_singleton] at member
    rcases member with member | same
    · have := tracked.numbered txn member
      omega
    · obtain rfl : txn = s.begin.1 := by simpa [opening] using same
      exact Nat.le_refl _

theorem perform (tracked : Tracked history s) (action : Action)
    (room : s.lastTxn.toNat + [action].count .begin < UInt64.size) :
    Tracked (history ++ [(action, (s.perform action).1)]) (s.perform action).2 := by
  cases action with
  | begin => exact tracked.begin room
  | commit under =>
    refine tracked.later (by simp [opening]) (lastTxn_commit under) fun txn => ?_
    simpa [Ends, Store.perform] using mem_staged_commit
  | abort under =>
    refine tracked.later (by simp [opening]) (lastTxn_abort under) fun txn => ?_
    simpa [Ends, Store.perform] using mem_staged_abort
  | change txn? change =>
    refine tracked.later (by simp [opening]) (lastTxn_change txn? change) fun txn => ?_
    simpa [Ends, Store.perform] using mem_staged_change
  | acl cid op => exact tracked.later (by simp [opening]) rfl (by simp [Ends, Store.perform])
  | hasContainer cid =>
    exact tracked.later (by simp [opening]) rfl (by simp [Ends, Store.perform])

end Tracked

theorem tracked_history {actions : List Action} (room : actions.count .begin < UInt64.size) :
    Tracked (history {} actions) (run {} actions).2 :=
  run_invariant (fun _ _ tracked => tracked.perform) tracked_empty (by simpa using room)

theorem opening_fresh {actions : List Action} (room : actions.count .begin < UInt64.size)
    {earlier later : List Entry} {answer : Except StoreError Answer}
    (split : history {} actions = earlier ++ (.begin, answer) :: later) :
    ∃ txn, answer = .ok (.opened txn) ∧ opening txn ∉ earlier := by
  obtain ⟨before, rfl, rfl, below⟩ := history_split split
  have counted : (before ++ [Action.begin]).count .begin ≤ actions.count .begin :=
    below.sublist.count_le _
  rw [List.count_append, List.count_singleton_self] at counted
  have last : (run {} before).2.lastTxn.toNat = 0 + before.count .begin :=
    lastTxn_run (s := {}) (by simpa using by omega)
  have next : (run {} before).2.begin.2.lastTxn.toNat = (run {} before).2.lastTxn.toNat + 1 :=
    lastTxn_begin (by omega)
  refine ⟨(run {} before).2.begin.1, rfl, fun member => ?_⟩
  have given : (run {} before).2.begin.2.lastTxn.toNat ≤ (run {} before).2.lastTxn.toNat :=
    (tracked_history (by omega)).numbered _ member
  omega

theorem closed_append {earlier later : List Action}
    (room : (earlier ++ later).count .begin < UInt64.size) {txn : TxnRef}
    (opened : opening txn ∈ history {} earlier) (closed : ¬ Open (history {} earlier) txn) :
    ¬ Open (history {} (earlier ++ later)) txn := by
  rintro ⟨before, after, split, unended⟩
  obtain ⟨other, same, fresh⟩ := opening_fresh room split
  obtain rfl : txn = other := by simpa using same
  rw [history_append] at split
  -- nothing behind `earlier` can open the transaction, for it was opened before
  rcases List.append_eq_append_iff.mp split with ⟨middle, rfl, _⟩ | ⟨middle, first, second⟩
  · exact fresh (List.mem_append_left _ opened)
  · rcases List.cons_eq_append_iff.mp second with ⟨rfl, _⟩ | ⟨rest, rfl, rfl⟩
    · rw [List.append_nil] at first
      exact fresh (first ▸ opened)
    · exact closed ⟨before, rest, first, fun entry member => unended entry (by simp [member])⟩

/-- Transactions are numbered anew, are open until they are committed or aborted, however that ends,
and are not opened again. What names one that is not open is refused and changes nothing. -/
theorem txns_single_use {actions : List Action} (room : actions.count .begin < UInt64.size) :
    (∀ earlier answer later, history {} actions = earlier ++ (.begin, answer) :: later →
      ∃ txn, answer = .ok (.opened txn) ∧ opening txn ∉ earlier) ∧
    ∀ earlier, earlier <+: actions →
      let past := history {} earlier
      let s := (run {} earlier).2
      (∀ txn, txn ∈ s.staged ↔ Open past txn) ∧
      (∀ action txn, action.txn? = some txn → ¬ Open past txn →
        s.perform action = (.error (.unknownTxn txn), s)) ∧
      ∀ txn, opening txn ∈ past → ¬ Open past txn →
        ∀ later, earlier ++ later <+: actions → ¬ Open (history {} (earlier ++ later)) txn := by
  refine ⟨fun earlier answer later => opening_fresh room, fun earlier below => ?_⟩
  intro past s
  have tracked : Tracked past s :=
    tracked_history (Nat.lt_of_le_of_lt (below.sublist.count_le _) room)
  refine ⟨tracked.open_iff, fun action txn named closed => ?_, ?_⟩
  · exact perform_closed named (mt (tracked.open_iff txn).mp closed)
  · intro txn opened closed later within
    exact closed_append (Nat.lt_of_le_of_lt (within.sublist.count_le _) room) opened closed

/-- The commit fails, for there is no container to remove. -/
def spent : List Action :=
  [.begin, .change (some ⟨1⟩) (.remove ⟨.zero 16⟩), .commit ⟨1⟩, .begin]

theorem staged_spent (txn : TxnRef) : txn ∈ (run {} spent).2.staged ↔ ⟨2⟩ = txn := by
  simp [spent, run, perform, Store.begin, Store.change, Store.commit, Change.applyAll, Change.apply]

theorem txns_single_use_spent :
    spent.count .begin < UInt64.size ∧ ⟨2⟩ ∈ (run {} spent).2.staged ∧
    (run {} spent).2.perform (.commit ⟨1⟩) = (.error (.unknownTxn ⟨1⟩), (run {} spent).2) := by
  have room : spent.count .begin < UInt64.size := by decide
  have closed : (⟨1⟩ : TxnRef) ∉ (run {} spent).2.staged := by simp [staged_spent]
  obtain ⟨open_iff, refused, _⟩ := (txns_single_use room).2 spent (List.prefix_refl _)
  exact ⟨room, (staged_spent _).mpr rfl,
    refused (.commit ⟨1⟩) ⟨1⟩ rfl (mt (open_iff ⟨1⟩).mpr closed)⟩

end Store

end CapabilityGuard
