import CapabilityGuard.Proofs.Guard.Exchange
import CapabilityGuard.Proofs.Store.Frame
import CapabilityGuard.Proofs.UidSet.Order
import CapabilityGuard.Server.Event

/-! No ACL lists a uid twice, as long as changes come in through servers. Requests may repeat uids as
they like: a new ACL is collapsed before it is handed to the store, and an edit when it is applied,
be that at once or at a commit on top of what was staged before it. -/
namespace CapabilityGuard

def Acls.Distinct (acls : Acls) : Prop :=
  ∀ (op : Operation) (uids : UidSet), acls[op]? = some uids → uids.members.Nodup

def Containers.Distinct (containers : Containers) : Prop :=
  ∀ (cid : ContainerId) (acls : Acls), containers[cid]? = some acls → Acls.Distinct acls

/-- An ACL to be put in place lists no uid twice. -/
def Change.Distinct : Change → Prop
  | .put _ _ uids => uids.members.Nodup
  | .create _ | .remove _ | .amend _ _ _ _ => True

theorem Acls.Distinct.insert {acls : Acls} (distinct : Acls.Distinct acls) (op : Operation)
    {uids : UidSet} (once : uids.members.Nodup) : Acls.Distinct (acls.insert op uids) := by
  intro other listed found
  rcases found_of_insert found with ⟨_, rfl⟩ | ⟨_, found⟩
  · exact once
  · exact distinct other listed found

theorem Containers.Distinct.insert {containers : Containers}
    (distinct : Containers.Distinct containers) (cid : ContainerId) {acls : Acls}
    (inner : Acls.Distinct acls) : Containers.Distinct (containers.insert cid acls) := by
  intro other stored found
  rcases found_of_insert found with ⟨_, rfl⟩ | ⟨_, found⟩
  · exact inner
  · exact distinct other stored found

theorem Containers.Distinct.erase {containers : Containers}
    (distinct : Containers.Distinct containers) (cid : ContainerId) :
    Containers.Distinct (containers.erase cid) := by
  intro other stored found
  rw [Std.ExtHashMap.getElem?_erase] at found
  split at found
  next => cases found
  next => exact distinct other stored found

namespace Change

variable {containers next : Containers}

theorem Distinct.apply {change : Change} (once : change.Distinct)
    (distinct : Containers.Distinct containers) (applied : change.apply containers = .ok next) :
    Containers.Distinct next := by
  rcases apply_cases applied with ⟨cid, rfl, _, rfl⟩ | ⟨cid, _, rfl, _, rfl⟩ |
    ⟨cid, op, uids, acls, rfl, found, rfl⟩ |
    ⟨cid, op, set, unset, acls, uids, rfl, found, _, rfl⟩
  · exact distinct.insert cid fun op uids found => by simp at found
  · exact distinct.erase cid
  · exact distinct.insert cid ((distinct cid acls found).insert op once)
  · exact distinct.insert cid ((distinct cid acls found).insert op (UidSet.nodup_dedup _))

theorem distinct_applyAll {changes : List Change} (once : ∀ change ∈ changes, change.Distinct)
    (distinct : Containers.Distinct containers) (applied : applyAll containers changes = .ok next) :
    Containers.Distinct next := by
  induction changes generalizing containers with
  | nil =>
    obtain rfl := Except.ok.inj applied
    exact distinct
  | cons change changes ih =>
    obtain ⟨now, later⟩ := List.forall_mem_cons.mp once
    cases first : change.apply containers with
    | error cause => simp [applyAll, first] at applied
    | ok middle =>
      have rest : applyAll middle changes = .ok next := by simpa [applyAll, first] using applied
      exact ih later (now.apply distinct first) rest

end Change

/-- Neither what is committed nor what is staged lists a uid twice on an ACL. -/
structure Store.Distinct (s : Store) : Prop where
  committed : Containers.Distinct s.containers
  staged : s.EachStaged Change.Distinct

theorem Store.distinct_empty : Store.Distinct {} where
  committed cid acls found := by simp at found
  staged txn changes opened := by simp at opened

namespace Store.Distinct

variable {s : Store}

theorem change (distinct : s.Distinct) {change : Change} (once : change.Distinct)
    (txn? : Option TxnRef) : (s.change txn? change).2.Distinct := by
  refine ⟨?_, distinct.staged.change once txn?⟩
  rcases s.change_cases txn? change with ⟨_, _, _, result⟩ | ⟨_, _, _, _, result⟩ |
    ⟨_, _, _, result⟩ | ⟨containers, _, applied, result⟩
  case inr.inr.inr =>
    rw [result]
    exact once.apply distinct.committed applied
  all_goals
    rw [result]
    exact distinct.committed

theorem commit (distinct : s.Distinct) (txn : TxnRef) : (s.commit txn).2.Distinct := by
  refine ⟨?_, distinct.staged.commit txn⟩
  rcases s.commit_cases txn with ⟨_, result⟩ | ⟨_, _, _, _, result⟩ |
    ⟨changes, containers, opened, applied, result⟩
  · rw [result]
    exact distinct.committed
  · rw [result]
    exact distinct.committed
  · rw [result]
    exact Change.distinct_applyAll (distinct.staged txn changes opened) distinct.committed applied

theorem abort (distinct : s.Distinct) (txn : TxnRef) : (s.abort txn).2.Distinct := by
  refine ⟨?_, distinct.staged.abort txn⟩
  rw [abort_frame]
  exact distinct.committed

theorem acl (distinct : s.Distinct) {cid : ContainerId} {op : Operation} {uids : UidSet}
    (read : s.acl cid op = .ok uids) : uids.members.Nodup := by
  obtain ⟨acls, found, listed⟩ := acl_eq_ok_iff.mp read
  exact distinct.committed cid acls found op uids listed

end Store.Distinct

theorem Request.distinct_of_demand {request : Request} {demand : Demand}
    (asked : request.demand? = some demand) : demand.change.Distinct := by
  cases request with
  | createAcl args =>
    cases asked
    exact UidSet.nodup_dedup args.uids
  | createContainer | removeContainer | modAcl =>
    cases asked
    trivial
  | getAcl | getCap | verifyCaps => cases asked

namespace Server

/-- The store after events at servers that share it. -/
def jointRun (s : Store) (steps : List (Server × Event)) : Store :=
  steps.foldl (fun s step => step.1.step s step.2) s

theorem distinct_step {s : Store} (distinct : s.Distinct) (server : Server) (event : Event) :
    (server.step s event).Distinct := by
  cases event with
  | request bytes =>
    rcases server.serve_cases bytes s with kept | ⟨request, demand, _, asked, _, served⟩
    · rwa [step, kept]
    · rw [step, served]
      exact distinct.change (Request.distinct_of_demand asked) demand.txn
  | begin => exact ⟨distinct.committed, distinct.staged.begin⟩
  | commit txn => exact distinct.commit txn
  | abort txn => exact distinct.abort txn

theorem distinct_jointRun {s : Store} (distinct : s.Distinct) (steps : List (Server × Event)) :
    (jointRun s steps).Distinct := by
  induction steps generalizing s with
  | nil => exact distinct
  | cons step steps ih => exact ih (distinct_step distinct step.1 step.2)

theorem acl_of_answer {server : Server} {bytes : List UInt8} {s : Store} {uids : UidSet}
    (answered : (server.answer bytes s).1 = .ok (.acl uids)) :
    ∃ cid op, s.acl cid op = .ok uids := by
  rcases server.answer_cases bytes s with malformed | ⟨request, _, told⟩
  · rw [malformed] at answered
    cases answered
  · rw [told, Reply.ofOutcome_eq_ok] at answered
    obtain ⟨args, _, read⟩ := Guard.query_of_acl answered
    exact ⟨args.cid, args.op, read⟩

/-- After any events at servers over a store that was empty, no committed ACL lists a uid twice,
nor does one that is staged to be put in place, one that is read from the store or one that a
server replies with. -/
theorem listed_once (steps : List (Server × Event)) :
    let s := jointRun {} steps
    (∀ (cid : ContainerId) (op : Operation) (acls : Acls) (uids : UidSet),
      s.containers[cid]? = some acls → acls[op]? = some uids → uids.members.Nodup) ∧
    (∀ (txn : TxnRef) (changes : List Change) (cid : ContainerId) (op : Operation) (uids : UidSet),
      s.staged[txn]? = some changes → .put cid op uids ∈ changes → uids.members.Nodup) ∧
    (∀ cid op uids, s.acl cid op = .ok uids → uids.members.Nodup) ∧
    ∀ (server : Server) (bytes : List UInt8) (uids : UidSet),
      (server.answer bytes s).1 = .ok (.acl uids) → uids.members.Nodup := by
  intro s
  have distinct : s.Distinct := distinct_jointRun Store.distinct_empty steps
  refine ⟨?_, ?_, fun cid op uids => distinct.acl, ?_⟩
  · intro cid op acls uids found listed
    exact distinct.committed cid acls found op uids listed
  · intro txn changes cid op uids opened put
    exact distinct.staged txn changes opened (.put cid op uids) put
  · intro server bytes uids answered
    obtain ⟨cid, op, read⟩ := acl_of_answer answered
    exact distinct.acl read

end Server

end CapabilityGuard
