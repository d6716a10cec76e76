import CapabilityGuard.Proofs.Store.Lookup
import CapabilityGuard.Proofs.Store.Serial
import CapabilityGuard.Proofs.UidSet.Members

/-! What is stored, told from what has been done. A container is there when its creation was the last
thing to succeed of its creations and removals. Its ACLs are those that were put since, and on an ACL
is whoever was added since and not dropped afterwards. -/
namespace CapabilityGuard

namespace Change

/-- The uid is on the ACL after the change, whoever was on it before. -/
def Adds (cid : ContainerId) (op : Operation) (uid : Uid) : Change → Prop
  | put named changed uids => named = cid ∧ changed = op ∧ uid ∈ uids.members
  | amend named changed set unset =>
    named = cid ∧ changed = op ∧ uid ∈ set.members ∧ uid ∉ unset.members
  | create _ | remove _ => False

/-- The uid is not on the ACL after the change, whoever was on it before. -/
def Drops (cid : ContainerId) (op : Operation) (uid : Uid) : Change → Prop
  | put named changed uids => named = cid ∧ changed = op ∧ uid ∉ uids.members
  | amend named changed _ unset => named = cid ∧ changed = op ∧ uid ∈ unset.members
  | create _ | remove _ => False

/-- What a change does inside a container that was there and still is. -/
structure Within (change : Change) (cid : ContainerId) (op : Operation) (uid : Uid)
    (acls after : Acls) : Prop where
  exists_iff : op ∈ after ↔ (∃ uids, change = put cid op uids) ∨ op ∈ acls
  lists_iff : Acls.Lists after op uid ↔
    Adds cid op uid change ∨ Acls.Lists acls op uid ∧ ¬ Drops cid op uid change

variable {change : Change} {containers next : Containers} {cid : ContainerId} {op : Operation}
  {uid : Uid} {acls : Acls}

theorem within_of_other (other : change.cid ≠ cid) : Within change cid op uid acls acls := by
  cases change with
  | create named | remove named => exact ⟨by simp, by simp [Adds, Drops]⟩
  | put named changed uids =>
    have different : named ≠ cid := other
    exact ⟨by simp [different], by simp [Adds, Drops, different]⟩
  | amend named changed set unset =>
    have different : named ≠ cid := other
    exact ⟨by simp, by simp [Adds, Drops, different]⟩

theorem within_put (uids : UidSet) (changed : Operation) :
    Within (put cid changed uids) cid op uid acls (acls.insert changed uids) where
  exists_iff := by simp
  lists_iff := by
    rw [Acls.lists_insert]
    by_cases same : changed = op <;> simp [Adds, Drops, same]

theorem within_amend {uids : UidSet} {changed : Operation} (listed : acls[changed]? = some uids)
    (set unset : UidSet) :
    Within (amend cid changed set unset) cid op uid acls
      (acls.insert changed (uids.amend set unset).dedup) where
  exists_iff := by
    have present : changed ∈ acls := Std.ExtHashMap.mem_iff_isSome_getElem?.mpr (by simp [listed])
    rw [Std.ExtHashMap.mem_insert, beq_iff_eq]
    constructor
    · rintro (rfl | member)
      · exact .inr present
      · exact .inr member
    · rintro (put | member)
      · obtain ⟨_, impossible⟩ := put
        cases impossible
      · exact .inr member
  lists_iff := by
    rw [Acls.lists_insert]
    by_cases same : changed = op
    · subst same
      have before : Acls.Lists acls changed uid ↔ uid ∈ uids.members := by
        simp [Acls.Lists, listed]
      by_cases dropped : uid ∈ unset.members <;> simp [Adds, Drops, before, dropped, or_comm]
    · simp [Adds, Drops, same]

/-- A container that is neither created nor removed is there after a change if it was before. -/
theorem apply_within (applied : change.apply containers = .ok next) (uncreated : change ≠ create cid)
    (kept : change ≠ remove cid) (op : Operation) (uid : Uid) :
    (containers[cid]? = none ∧ next[cid]? = none) ∨
      ∃ acls after, containers[cid]? = some acls ∧ next[cid]? = some after ∧
        Within change cid op uid acls after := by
  by_cases other : change.cid ≠ cid
  · rw [apply_frame other applied]
    cases containers[cid]? with
    | none => exact .inl ⟨rfl, rfl⟩
    | some acls => exact .inr ⟨acls, acls, rfl, rfl, within_of_other other⟩
  · have same : change.cid = cid := not_not.mp other
    rcases apply_cases applied with ⟨named, rfl, _, _⟩ | ⟨named, _, rfl, _, _⟩ |
      ⟨named, changed, uids, acls, rfl, found, rfl⟩ |
      ⟨named, changed, set, unset, acls, uids, rfl, found, listed, rfl⟩
    · exact absurd (congrArg create same) uncreated
    · exact absurd (congrArg remove same) kept
    · obtain rfl : named = cid := same
      exact .inr ⟨acls, _, found, Std.ExtHashMap.getElem?_insert_self, within_put uids changed⟩
    · obtain rfl : named = cid := same
      exact .inr ⟨acls, _, found, Std.ExtHashMap.getElem?_insert_self,
        within_amend listed set unset⟩

theorem found_of_create (applied : (create cid).apply containers = .ok next) :
    next[cid]? = some ∅ := by
  rcases apply_cases applied with ⟨_, same, _, rfl⟩ | ⟨_, _, other, _⟩ | ⟨_, _, _, _, other, _⟩ |
    ⟨_, _, _, _, _, _, other, _⟩
  · cases same
    exact Std.ExtHashMap.getElem?_insert_self
  all_goals cases other

theorem found_of_remove (applied : (remove cid).apply containers = .ok next) :
    next[cid]? = none := by
  rcases apply_cases applied with ⟨_, other, _⟩ | ⟨_, _, same, _, rfl⟩ | ⟨_, _, _, _, other, _⟩ |
    ⟨_, _, _, _, _, _, other, _⟩
  case inr.inl =>
    cases same
    exact Std.ExtHashMap.getElem?_erase_self
  all_goals cases other

/-- The container was last created before `later` and has not been created or removed since. -/
def Since (cid : ContainerId) (log later : List Change) : Prop :=
  ∃ earlier, log = earlier ++ create cid :: later ∧ create cid ∉ later ∧ remove cid ∉ later

/-- The uid was added and has not been dropped afterwards. -/
def Granted (cid : ContainerId) (op : Operation) (uid : Uid) (later : List Change) : Prop :=
  ∃ before change after, later = before ++ change :: after ∧ Adds cid op uid change ∧
    ∀ next ∈ after, ¬ Drops cid op uid next

theorem since_concat_iff {log later : List Change} :
    Since cid (log ++ [change]) later ↔
      (change = create cid ∧ later = []) ∨
      change ≠ create cid ∧ change ≠ remove cid ∧
        ∃ before, later = before ++ [change] ∧ Since cid log before := by
  constructor
  · intro since
    obtain ⟨earlier, split, uncreated, kept⟩ := since
    rcases concat_eq_iff.mp split with ⟨rfl, _, rfl⟩ | ⟨before, rfl, rfl⟩
    · exact .inl ⟨rfl, rfl⟩
    · simp only [List.mem_append, List.mem_singleton, not_or] at uncreated kept
      exact .inr ⟨Ne.symm uncreated.2, Ne.symm kept.2, before, rfl, earlier, rfl, uncreated.1,
        kept.1⟩
  · intro parts
    rcases parts with ⟨rfl, rfl⟩ | ⟨uncreated, kept, before, rfl, earlier, rfl, fresh, there⟩
    · exact ⟨log, by simp⟩
    · exact ⟨earlier, by simp, by simp [fresh, Ne.symm uncreated], by simp [there, Ne.symm kept]⟩

theorem since_create_iff {log later : List Change} :
    Since cid (log ++ [create cid]) later ↔ later = [] := by
  simp [since_concat_iff]

theorem not_since_remove {log later : List Change} : ¬ Since cid (log ++ [remove cid]) later := by
  simp [since_concat_iff]

theorem since_within_iff {log later : List Change} (uncreated : change ≠ create cid)
    (kept : change ≠ remove cid) :
    Since cid (log ++ [change]) later ↔
      ∃ before, later = before ++ [change] ∧ Since cid log before := by
  simp [since_concat_iff, uncreated, kept]

theorem exists_since_within_iff {log : List Change} (uncreated : change ≠ create cid)
    (kept : change ≠ remove cid) :
    (∃ later, Since cid (log ++ [change]) later) ↔ ∃ later, Since cid log later := by
  constructor
  · intro created
    obtain ⟨later, since⟩ := created
    obtain ⟨before, _, been⟩ := (since_within_iff uncreated kept).mp since
    exact ⟨before, been⟩
  · intro created
    obtain ⟨before, been⟩ := created
    exact ⟨before ++ [change], (since_within_iff uncreated kept).mpr ⟨before, rfl, been⟩⟩

theorem granted_concat_iff {later : List Change} :
    Granted cid op uid (later ++ [change]) ↔
      Adds cid op uid change ∨ Granted cid op uid later ∧ ¬ Drops cid op uid change := by
  constructor
  · intro granted
    obtain ⟨before, adding, after, split, adds, spared⟩ := granted
    rcases concat_eq_iff.mp split with ⟨rfl, _, rfl⟩ | ⟨middle, rfl, rfl⟩
    · exact .inl adds
    · have earlier : Granted cid op uid (before ++ adding :: middle) :=
        ⟨before, adding, middle, rfl, adds, fun next member => spared next (by simp [member])⟩
      exact .inr ⟨earlier, spared change (by simp)⟩
  · intro parts
    rcases parts with adds | ⟨⟨before, adding, after, rfl, adds, spared⟩, spares⟩
    · exact ⟨later, change, [], rfl, adds, by simp⟩
    · refine ⟨before, adding, after ++ [change], by simp, adds, ?_⟩
      exact List.forall_mem_append.mpr ⟨spared, by simpa using spares⟩

/-- The log tells whether the container is there, and what stands on one of its ACLs. -/
structure Recorded (cid : ContainerId) (op : Operation) (uid : Uid) (log : List Change)
    (containers : Containers) : Prop where
  created_iff : (∃ acls : Acls, containers[cid]? = some acls) ↔ ∃ later, Since cid log later
  exists_iff : ∀ (later : List Change) (acls : Acls), Since cid log later →
    containers[cid]? = some acls → (op ∈ acls ↔ ∃ uids, put cid op uids ∈ later)
  lists_iff : ∀ (later : List Change) (acls : Acls), Since cid log later →
    containers[cid]? = some acls → (Acls.Lists acls op uid ↔ Granted cid op uid later)

namespace Recorded

variable {log : List Change}

theorem empty (cid : ContainerId) (op : Operation) (uid : Uid) : Recorded cid op uid [] ∅ where
  created_iff := by simp [Since]
  exists_iff later acls since found := by simp at found
  lists_iff later acls since found := by simp at found

theorem create (applied : (Change.create cid).apply containers = .ok next) :
    Recorded cid op uid (log ++ [Change.create cid]) next where
  created_iff := by simp [found_of_create applied, since_create_iff]
  exists_iff later acls since found := by
    obtain rfl := since_create_iff.mp since
    obtain rfl : ∅ = acls := Option.some.inj ((found_of_create applied).symm.trans found)
    simp
  lists_iff later acls since found := by
    obtain rfl := since_create_iff.mp since
    obtain rfl : ∅ = acls := Option.some.inj ((found_of_create applied).symm.trans found)
    simp [Acls.Lists, Granted]

theorem remove (applied : (Change.remove cid).apply containers = .ok next) :
    Recorded cid op uid (log ++ [Change.remove cid]) next where
  created_iff := by simp [found_of_remove applied, not_since_remove]
  exists_iff later acls since found := absurd since not_since_remove
  lists_iff later acls since found := absurd since not_since_remove

theorem absent (recorded : Recorded cid op uid log containers) (uncreated : change ≠ .create cid)
    (kept : change ≠ .remove cid) (before : containers[cid]? = none) (after : next[cid]? = none) :
    Recorded cid op uid (log ++ [change]) next where
  created_iff := by
    rw [exists_since_within_iff uncreated kept, ← recorded.created_iff, before, after]
  exists_iff later acls since found := by simp [after] at found
  lists_iff later acls since found := by simp [after] at found

theorem present (recorded : Recorded cid op uid log containers) (uncreated : change ≠ .create cid)
    (kept : change ≠ .remove cid) {after : Acls} (before : containers[cid]? = some acls)
    (now : next[cid]? = some after) (within : Within change cid op uid acls after) :
    Recorded cid op uid (log ++ [change]) next where
  created_iff := by
    rw [exists_since_within_iff uncreated kept, ← recorded.created_iff, before, now]
    simp
  exists_iff later stored since found := by
    obtain ⟨earlier, rfl, been⟩ := (since_within_iff uncreated kept).mp since
    obtain rfl : after = stored := Option.some.inj (now.symm.trans found)
    rw [within.exists_iff, recorded.exists_iff earlier acls been before]
    simp [or_comm, exists_or, eq_comm]
  lists_iff later stored since found := by
    obtain ⟨earlier, rfl, been⟩ := (since_within_iff uncreated kept).mp since
    obtain rfl : after = stored := Option.some.inj (now.symm.trans found)
    rw [within.lists_iff, recorded.lists_iff earlier acls been before, granted_concat_iff]

theorem apply (recorded : Recorded cid op uid log containers)
    (applied : change.apply containers = .ok next) :
    Recorded cid op uid (log ++ [change]) next := by
  by_cases creates : change = .create cid
  · subst creates
    exact create applied
  by_cases removes : change = .remove cid
  · subst removes
    exact remove applied
  -- Any other change finds no container and leaves none, or works inside the one there is.
  rcases apply_within applied creates removes op uid with ⟨before, after⟩ |
    ⟨acls, after, before, now, within⟩
  · exact recorded.absent creates removes before after
  · exact recorded.present creates removes before now within

theorem applyAll {later : List Change} (recorded : Recorded cid op uid log containers)
    (applied : Change.applyAll containers later = .ok next) :
    Recorded cid op uid (log ++ later) next := by
  -- Each change moves from the list ahead to the log behind, which is therefore general.
  induction later generalizing log containers with
  | nil =>
    obtain rfl := Except.ok.inj applied
    simpa using recorded
  | cons change later ih =>
    cases first : change.apply containers with
    | error cause => simp [Change.applyAll, first] at applied
    | ok middle =>
      have rest : Change.applyAll middle later = .ok next := by
        simpa [Change.applyAll, first] using applied
      simpa using ih (recorded.apply first) rest

theorem found_iff (recorded : Recorded cid op uid log containers) {stored : Acls → Prop}
    {told : List Change → Prop}
    (agree : ∀ later acls, Since cid log later → containers[cid]? = some acls →
      (stored acls ↔ told later)) :
    (∃ acls, containers[cid]? = some acls ∧ stored acls) ↔
      ∃ later, Since cid log later ∧ told later := by
  constructor
  · intro parts
    obtain ⟨acls, found, holds⟩ := parts
    obtain ⟨later, since⟩ := recorded.created_iff.mp ⟨acls, found⟩
    exact ⟨later, since, (agree later acls since found).mp holds⟩
  · intro parts
    obtain ⟨later, since, holds⟩ := parts
    obtain ⟨acls, found⟩ := recorded.created_iff.mpr ⟨later, since⟩
    exact ⟨acls, found, (agree later acls since found).mpr holds⟩

end Recorded

theorem not_adds_of_drops (drops : Drops cid op uid change) : ¬ Adds cid op uid change := by
  cases change with
  | put named changed uids => exact fun adds => drops.2.2 adds.2.2
  | amend named changed set unset => exact fun adds => adds.2.2.2 drops.2.2
  | create | remove => exact id

/-- Of two places in a list, one is the other or comes after it. -/
theorem split_cases {front back front' back' : List Change} {other : Change}
    (same : front ++ change :: back = front' ++ other :: back') :
    change = other ∨ other ∈ back ∨ change ∈ back' := by
  rcases List.append_eq_append_iff.mp same with ⟨between, _, rest⟩ | ⟨between, _, rest⟩
  · cases between with
    | nil => exact .inl (List.cons.inj rest).1
    | cons head tail =>
      obtain ⟨_, rfl⟩ := List.cons.inj rest
      exact .inr (.inl (by simp))
  · cases between with
    | nil => exact .inl (List.cons.inj rest).1.symm
    | cons head tail =>
      obtain ⟨_, rfl⟩ := List.cons.inj rest
      exact .inr (.inr (by simp))

/-- A uid that was lost stays lost until a change adds it. -/
theorem not_granted_of_lost {earlier later current : List Change}
    (since : Since cid (earlier ++ change :: later) current)
    (lost : change = remove cid ∨ Drops cid op uid change)
    (unadded : ∀ next ∈ later, ¬ Adds cid op uid next) : ¬ Granted cid op uid current := by
  rintro ⟨before, adding, after, rfl, adds, spared⟩
  obtain ⟨founding, split, _, kept⟩ := since
  rw [← List.cons_append, ← List.append_assoc] at split
  -- The addition that counts is the loss itself, comes after the loss or comes before it.
  rcases split_cases split with rfl | again | follows
  · rcases lost with rfl | drops
    · exact adds
    · exact not_adds_of_drops drops adds
  · exact unadded adding again adds
  · rcases lost with rfl | drops
    · exact kept (by simp [follows])
    · exact spared change follows drops

end Change

namespace Store

/-- The change of an entry that made it at once. -/
def made? : Entry → Option Change
  | (.change none change, .ok _) => some change
  | _ => none

/-- The changes that succeed when they are made at once, one after the other. -/
def succeeded (changes : List Change) : List Change :=
  (history {} (changes.map (.change none))).filterMap made?

theorem logBehind_immediate (s : Store) (changes : List Change) (earlier : List Entry) :
    logBehind earlier (s.history (changes.map (.change none))) =
      (s.history (changes.map (.change none))).filterMap made? := by
  induction changes generalizing s earlier with
  | nil => rfl
  | cons change changes ih =>
    rw [List.map_cons, history_cons, logBehind, ih]
    cases (s.perform (.change none change)).1 <;> rfl

theorem recorded_run (changes : List Change) (cid : ContainerId) (op : Operation) (uid : Uid) :
    Change.Recorded cid op uid (succeeded changes)
      (run {} (changes.map (.change none))).2.containers := by
  have explained := explained_empty.run (changes.map (.change none))
  have replayed : Change.applyAll ∅ (succeeded changes) =
      .ok (run {} (changes.map (.change none))).2.containers := by
    rw [succeeded, ← logBehind_immediate {} changes []]
    exact explained.committed
  exact (Change.Recorded.empty cid op uid).applyAll replayed

/-- Of changes made at once, those that succeed tell what is stored: which containers there are,
which ACLs and who is on them. Whoever is dropped, overwritten or lost with a container is off the
ACL until something adds them again. -/
theorem content_by_history (changes : List Change) (cid : ContainerId) (op : Operation)
    (uid : Uid) :
    let s := (run {} (changes.map (.change none))).2
    let log := succeeded changes
    (s.hasContainer cid = true ↔ ∃ later, Change.Since cid log later) ∧
    ((∃ uids, s.acl cid op = .ok uids) ↔
      ∃ later, Change.Since cid log later ∧ ∃ uids, .put cid op uids ∈ later) ∧
    (s.Lists cid op uid ↔
      ∃ later, Change.Since cid log later ∧ Change.Granted cid op uid later) ∧
    ∀ earlier change later, log = earlier ++ change :: later →
      change = .remove cid ∨ Change.Drops cid op uid change →
      (∀ next ∈ later, ¬ Change.Adds cid op uid next) → ¬ s.Lists cid op uid := by
  intro s log
  have recorded : Change.Recorded cid op uid log s.containers := recorded_run changes cid op uid
  have listed : s.Lists cid op uid ↔
      ∃ later, Change.Since cid log later ∧ Change.Granted cid op uid later :=
    recorded.found_iff recorded.lists_iff
  refine ⟨hasContainer_iff.trans recorded.created_iff,
    exists_acl_iff.trans (recorded.found_iff recorded.exists_iff), listed, ?_⟩
  intro earlier change later split lost unadded member
  obtain ⟨current, since, granted⟩ := listed.mp member
  rw [split] at since
  exact Change.not_granted_of_lost since lost unadded granted

end Store

end CapabilityGuard
