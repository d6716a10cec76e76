import CapabilityGuard.Proofs.Store.History

/-! Runs of a store are serial. Whatever transactions are open at once, the committed state is that
of a log with each immediate change at its own place and the changes of each transaction at the
place of its commit, and readers see the log as far as it goes. -/
namespace CapabilityGuard

theorem Change.applyAll_append {containers next : Containers} {first second : List Change}
    (applied : applyAll containers first = .ok next) :
    applyAll containers (first ++ second) = applyAll next second := by
  induction first generalizing containers with
  | nil =>
    obtain rfl := Except.ok.inj applied
    rfl
  | cons change first ih =>
    cases front : change.apply containers with
    | error cause => simp [applyAll, front] at applied
    | ok middle =>
      have rest : applyAll middle first = .ok next := by simpa [applyAll, front] using applied
      simp [applyAll, front, ih rest]

namespace Store

def accept (txn : TxnRef) (changes : List Change) : Entry → List Change
  | (.begin, .ok (.opened opened)) => if opened = txn then [] else changes
  | (.change (some under) change, .ok _) => if under = txn then changes ++ [change] else changes
  | _ => changes

/-- The changes accepted under a transaction since it was opened, in order. -/
def accepted (txn : TxnRef) (history : List Entry) : List Change := history.foldl (accept txn) []

/-- What an entry behind `earlier` adds to the serial log. -/
def contribution (earlier : List Entry) : Entry → List Change
  | (.change none change, .ok _) => [change]
  | (.commit txn, .ok _) => accepted txn earlier
  | _ => []

def logBehind (earlier : List Entry) : List Entry → List Change
  | [] => []
  | entry :: rest => contribution earlier entry ++ logBehind (earlier ++ [entry]) rest

def serialLog (history : List Entry) : List Change := logBehind [] history

@[simp] theorem accepted_concat (txn : TxnRef) (history : List Entry) (entry : Entry) :
    accepted txn (history ++ [entry]) = accept txn (accepted txn history) entry := by
  simp [accepted]

@[simp] theorem serialLog_concat (history : List Entry) (entry : Entry) :
    serialLog (history ++ [entry]) = serialLog history ++ contribution history entry := by
  have behind (earlier rest : List Entry) : logBehind earlier (rest ++ [entry]) =
      logBehind earlier rest ++ contribution (earlier ++ rest) entry := by
    induction rest generalizing earlier with
    | nil => simp [logBehind]
    | cons first rest ih => simp [logBehind, ih]
  simpa [serialLog] using behind [] history

/-- The history accounts for all that a store holds. -/
structure Explained (history : List Entry) (s : Store) : Prop where
  committed : Change.applyAll ∅ (serialLog history) = .ok s.containers
  staged : ∀ (txn : TxnRef) (changes : List Change),
    s.staged[txn]? = some changes → accepted txn history = changes

namespace Explained

variable {history : List Entry} {s : Store}

theorem silent (explained : Explained history s) {entry : Entry}
    (neutral : ∀ txn changes, accept txn changes entry = changes)
    (empty : contribution history entry = []) : Explained (history ++ [entry]) s where
  committed := by simpa [empty] using explained.committed
  staged txn changes opened := by simpa [neutral] using explained.staged txn changes opened

theorem close (explained : Explained history s) (txn : TxnRef) :
    Explained history (s.close txn) where
  committed := explained.committed
  staged other changes opened := explained.staged other changes (opened_of_close opened).2

theorem begin (explained : Explained history s) :
    Explained (history ++ [(.begin, .ok (.opened s.begin.1))]) s.begin.2 where
  committed := by simpa [contribution, Store.begin] using explained.committed
  staged txn changes opened := by
    rcases found_of_insert opened with ⟨rfl, rfl⟩ | ⟨different, opened⟩
    · simp [accept, Store.begin]
    · simpa [accept, Store.begin, different] using explained.staged txn changes opened

theorem commit (explained : Explained history s) (txn : TxnRef) :
    Explained (history ++ [(.commit txn, (s.commit txn).1.map .applied)]) (s.commit txn).2 := by
  rcases s.commit_cases txn with ⟨_, result⟩ | ⟨_, _, _, _, result⟩ |
    ⟨changes, containers, opened, applied, result⟩
  · rw [result]
    exact explained.silent (fun _ _ => rfl) rfl
  · rw [result]
    exact (explained.close txn).silent (fun _ _ => rfl) rfl
  · rw [result]
    have added : contribution history (.commit txn, .ok (.applied changes.length)) = changes :=
      explained.staged txn changes opened
    refine ⟨?_, fun other found member => ?_⟩
    · rw [Except.map, serialLog_concat, added, Change.applyAll_append explained.committed]
      exact applied
    · simpa [Except.map, accept] using (explained.close txn).staged other found member

theorem count_of_commit (explained : Explained history s) {txn : TxnRef} {count : Nat}
    (counted : (s.perform (.commit txn)).1 = .ok (.applied count)) :
    count = (accepted txn history).length := by
  change (s.commit txn).1.map Answer.applied = .ok (.applied count) at counted
  rcases s.commit_cases txn with ⟨_, result⟩ | ⟨_, _, _, _, result⟩ |
    ⟨changes, _, opened, _, result⟩
  · rw [result] at counted
    cases counted
  · rw [result] at counted
    cases counted
  · rw [result] at counted
    cases counted
    rw [explained.staged txn changes opened]

theorem abort (explained : Explained history s) (txn : TxnRef) :
    Explained (history ++ [(.abort txn, (s.abort txn).1.map fun _ => .done)]) (s.abort txn).2 := by
  rcases s.abort_cases txn with ⟨_, result⟩ | ⟨_, _, result⟩
  · rw [result]
    exact explained.silent (fun _ _ => rfl) rfl
  · rw [result]
    exact (explained.close txn).silent (fun _ _ => rfl) rfl

theorem change (explained : Explained history s) (txn? : Option TxnRef) (change : Change) :
    Explained (history ++ [(.change txn? change, (s.change txn? change).1.map fun _ => .done)])
      (s.change txn? change).2 := by
  rcases s.change_cases txn? change with ⟨_, rfl, _, result⟩ | ⟨txn, earlier, rfl, found, result⟩ |
    ⟨_, rfl, _, result⟩ | ⟨containers, rfl, applied, result⟩
  · rw [result]
    exact explained.silent (fun _ _ => rfl) rfl
  · rw [result]
    refine ⟨by simpa [Except.map, contribution] using explained.committed, ?_⟩
    intro other changes opened
    rcases found_of_insert opened with ⟨rfl, rfl⟩ | ⟨different, opened⟩
    · simp [Except.map, accept, explained.staged txn earlier found]
    · simpa [Except.map, accept, different] using explained.staged other changes opened
  · rw [result]
    exact explained.silent (fun _ _ => rfl) rfl
  · rw [result]
    have single : Change.applyAll s.containers [change] = .ok containers := by
      simp [Change.applyAll, applied]
    refine ⟨?_, fun txn changes opened => ?_⟩
    · simpa [Except.map, contribution, Change.applyAll_append explained.committed] using single
    · simpa [Except.map, accept] using explained.staged txn changes opened

theorem perform (explained : Explained history s) (action : Action) :
    Explained (history ++ [(action, (s.perform action).1)]) (s.perform action).2 := by
  cases action with
  | begin => exact explained.begin
  | commit txn => exact explained.commit txn
  | abort txn => exact explained.abort txn
  | change txn? change => exact explained.change txn? change
  | acl cid op => exact explained.silent (fun _ _ => rfl) rfl
  | hasContainer cid => exact explained.silent (fun _ _ => rfl) rfl

theorem run (explained : Explained history s) (actions : List Action) :
    Explained (history ++ s.history actions) (s.run actions).2 := by
  induction actions generalizing history s with
  | nil => simpa [Store.history, Store.run] using explained
  | cons action rest ih =>
    rw [history_cons, run_cons]
    simpa using ih (explained.perform action)

end Explained

theorem explained_empty : Explained [] {} := ⟨rfl, by simp⟩

/-- Whether an entry asks to stage a change under the transaction. -/
def stages (txn : TxnRef) : Entry → Bool
  | (.change (some under) _, _) => under = txn
  | _ => false

variable {txn : TxnRef} {entry : Entry}

theorem accept_of_stages (staged : stages txn entry = true) {other : TxnRef} (different : other ≠ txn)
    (changes : List Change) : accept other changes entry = changes := by
  obtain ⟨action, answer⟩ := entry
  cases action with
  | change under? change =>
    cases under? with
    | none => cases staged
    | some under =>
      obtain rfl : under = txn := by simpa [stages] using staged
      cases answer <;> simp [accept, different.symm]
  | _ => cases staged

theorem contribution_of_stages (staged : stages txn entry = true) (earlier : List Entry) :
    contribution earlier entry = [] := by
  obtain ⟨action, answer⟩ := entry
  cases action with
  | change under? change =>
    cases under? with
    | none => cases staged
    | some under => rfl
  | _ => cases staged

theorem accepted_filter {other : TxnRef} (different : other ≠ txn) (history : List Entry) :
    accepted other (history.filter fun entry => !stages txn entry) = accepted other history := by
  have kept (changes : List Change) (entry : Entry) :
      (if (!stages txn entry) = true then accept other changes entry else changes) =
        accept other changes entry := by
    split
    next => rfl
    next staged => rw [accept_of_stages (by simpa using staged) different]
  unfold accepted
  rw [List.foldl_filter]
  exact congrArg (fun step => history.foldl step []) (funext fun changes => funext (kept changes))

theorem contribution_filter (unfinished : ∀ answer, (.commit txn, .ok answer) ≠ entry)
    (earlier : List Entry) :
    contribution (earlier.filter fun entry => !stages txn entry) entry =
      contribution earlier entry := by
  obtain ⟨action, answer⟩ := entry
  cases action with
  | commit closing =>
    cases answer with
    | error cause => rfl
    | ok answer => exact accepted_filter (fun same => unfinished answer (by rw [same])) earlier
  | change txn? change => cases txn? <;> cases answer <;> rfl
  | _ => rfl

theorem logBehind_filter (earlier rest : List Entry)
    (unfinished : ∀ answer, (.commit txn, .ok answer) ∉ rest) :
    logBehind (earlier.filter fun entry => !stages txn entry)
      (rest.filter fun entry => !stages txn entry) = logBehind earlier rest := by
  induction rest generalizing earlier with
  | nil => rfl
  | cons entry rest ih =>
    have tail := ih (earlier ++ [entry]) fun answer member => unfinished answer (by simp [member])
    rw [List.filter_append] at tail
    cases staged : stages txn entry with
    | true =>
      have nothing := contribution_of_stages staged earlier
      simpa [logBehind, staged, nothing] using tail
    | false =>
      have same := @contribution_filter txn entry
        (fun answer equal => unfinished answer (by simp [equal])) earlier
      simpa [logBehind, staged, same] using tail

/-- The serial log replays to the committed state, readers see the log as it was before them, a
commit counts what it adds to the log, and a transaction that is never committed adds nothing. One
whose changes were dropped is never committed. -/
theorem serial_equivalence (actions : List Action) :
    Change.applyAll ∅ (serialLog (history {} actions)) = .ok (run {} actions).2.containers ∧
    (∀ earlier action answer later, history {} actions = earlier ++ (action, answer) :: later →
      ∃ containers, Change.applyAll ∅ (serialLog earlier) = .ok containers ∧
        (∀ cid op, action = .acl cid op →
          answer = (acl { containers } cid op).map .acl) ∧
        (∀ cid, action = .hasContainer cid →
          answer = .ok (.found (hasContainer { containers } cid))) ∧
        ∀ txn count, action = .commit txn → answer = .ok (.applied count) →
          count = (accepted txn earlier).length) ∧
    (∀ txn, (∀ answer, (.commit txn, .ok answer) ∉ history {} actions) →
      serialLog ((history {} actions).filter fun entry => !stages txn entry) =
        serialLog (history {} actions)) ∧
    (actions.count .begin < UInt64.size →
      ∀ txn entry, entry ∈ history {} actions → discards txn entry = true →
        ∀ answer, (.commit txn, .ok answer) ∉ history {} actions) := by
  refine ⟨(explained_empty.run actions).committed, ?_, ?_, ?_⟩
  · intro earlier action answer later split
    obtain ⟨before, rfl, rfl, _⟩ := history_split split
    have explained := explained_empty.run before
    refine ⟨_, explained.committed, ?_, ?_, ?_⟩
    · intro cid op asked
      rw [asked]
      rfl
    · intro cid asked
      rw [asked]
      rfl
    · intro txn count asked counted
      subst asked
      exact explained.count_of_commit counted
  · intro txn unfinished
    exact logBehind_filter [] _ unfinished
  · intro room txn entry member discarded
    exact discarded_never_finished room member discarded

end Store

end CapabilityGuard
