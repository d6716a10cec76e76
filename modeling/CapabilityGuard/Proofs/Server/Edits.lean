import CapabilityGuard.Proofs.Guard.Exchange
import CapabilityGuard.Proofs.Server.Decision
import CapabilityGuard.Proofs.Server.Isolation
import CapabilityGuard.Proofs.Store.Edit
import CapabilityGuard.Proofs.UidSet.Members

/-! Edits of one ACL that are made at once are not lost. When no edit drops what another one adds,
each succeeds in whatever order they arrive and whatever is asked about other containers between
them, and in the end everybody is on the ACL who was there or was added and was not dropped. -/
namespace CapabilityGuard

namespace Request.AclEdit

def revise (uids : UidSet) (edit : AclEdit) : UidSet := (uids.amend edit.set edit.unset).dedup

/-- Neither edit drops a uid that the other one adds. -/
def Apart (edit other : AclEdit) : Prop :=
  edit.set.members.Disjoint other.unset.members ∧ other.set.members.Disjoint edit.unset.members

theorem Apart.symm {edit other : AclEdit} (apart : edit.Apart other) : other.Apart edit :=
  And.symm apart

@[simp] theorem mem_revise (uids : UidSet) (edit : AclEdit) (uid : Uid) :
    uid ∈ (revise uids edit).members ↔
      (uid ∈ uids.members ∨ uid ∈ edit.set.members) ∧ uid ∉ edit.unset.members := by
  rw [revise, UidSet.mem_dedup, UidSet.mem_amend]

theorem mem_foldl_revise {edits : List AclEdit} (apart : edits.Pairwise Apart) (uids : UidSet)
    (uid : Uid) :
    uid ∈ (edits.foldl revise uids).members ↔
      (uid ∈ uids.members ∨ ∃ edit ∈ edits, uid ∈ edit.set.members) ∧
        ∀ edit ∈ edits, uid ∉ edit.unset.members := by
  induction edits generalizing uids with
  | nil => simp
  | cons edit edits ih =>
    obtain ⟨first, rest⟩ := List.pairwise_cons.mp apart
    rw [List.foldl_cons, ih rest, mem_revise]
    simp only [List.mem_cons, exists_eq_or_imp, forall_eq_or_imp]
    by_cases dropped : uid ∈ edit.unset.members
    · -- What this edit drops is not added again by a later one.
      have lost : ¬ ∃ other ∈ edits, uid ∈ other.set.members := by
        rintro ⟨other, later, added⟩
        exact (first other later).2 added dropped
      simp [dropped, lost]
    · simp [dropped, or_assoc]

end Request.AclEdit

namespace Server

open Request (AclEdit)

/-- An edit of the ACL that is to be made at once, under an admin capability for the container that
verifies under the key. -/
structure Edits (key : Key) (cid : ContainerId) (op : Operation) (edit : AclEdit) : Prop where
  container : edit.cid = cid
  operation : edit.op = op
  immediate : edit.txn = none
  entitled : ∃ cap, edit.cap = some cap ∧ cap.mac = .compute key cap.data.payload.toList ∧
    cap.data.cid = cid ∧ cap.data.op = .admin

/-- A server reads the edits in this order, and between them nothing that names the container. -/
inductive Interleaves (server : Server) (cid : ContainerId) :
    List AclEdit → List (List UInt8) → Prop
  | done : Interleaves server cid [] []
  | edit {edit : AclEdit} {edits : List AclEdit} {bytes : List UInt8} {queue : List (List UInt8)}
      (received : server.Receives bytes (.modAcl edit)) (rest : Interleaves server cid edits queue) :
      Interleaves server cid (edit :: edits) (bytes :: queue)
  | other {edits : List AclEdit} {bytes : List UInt8} {queue : List (List UInt8)}
      (elsewhere : ∀ request, server.Receives bytes request → request.cid? ≠ some cid)
      (rest : Interleaves server cid edits queue) :
      Interleaves server cid edits (bytes :: queue)

variable {server : Server} {cid : ContainerId} {op : Operation} {s : Store} {uids : UidSet}
  {bytes : List UInt8}

theorem answer_edit {edit : AclEdit} (received : server.Receives bytes (.modAcl edit))
    (edits : Edits server.guard.key cid op edit) (stored : s.acl cid op = .ok uids) :
    (server.answer bytes s).1 = .ok .none ∧
      (server.answer bytes s).2.acl cid op = .ok (edit.revise uids) := by
  obtain ⟨rfl, rfl, immediate, entitled⟩ := edits
  have admitted : server.guard.admits edit.cap edit.cid Guard.isAdmin = true :=
    Guard.admits_iff.mpr (by simpa [Guard.isAdmin] using entitled)
  obtain ⟨acls, found, edited⟩ := Store.amend_of_acl stored edit.set edit.unset
  rw [← immediate] at edited
  rw [answer_of_admits received rfl admitted, edited]
  exact ⟨rfl, by rw [Store.acl_insert found]; simp [AclEdit.revise]⟩

theorem answer_elsewhere
    (elsewhere : ∀ request, server.Receives bytes request → request.cid? ≠ some cid) (s : Store) :
    (server.answer bytes s).2.acl cid op = s.acl cid op := by
  apply Store.acl_congr
  rcases server.serve_cases bytes s with kept | ⟨request, demand, received, asked, _, served⟩
  · exact congrArg (fun after => after.containers[cid]?) kept
  · have other : demand.change.cid ≠ cid := by
      intro named
      rw [← named] at elsewhere
      exact elsewhere request received (Request.cid?_of_demand asked)
    exact (congrArg (fun after => after.containers[cid]?) served).trans
      (Store.change_frame other demand.txn)

theorem Interleaves.run {edits : List AclEdit} {queue : List (List UInt8)}
    (interleaved : Interleaves server cid edits queue)
    (valid : ∀ edit ∈ edits, Edits server.guard.key cid op edit)
    (stored : s.acl cid op = .ok uids) :
    (server.run s (queue.map .request)).acl cid op = .ok (edits.foldl AclEdit.revise uids) := by
  induction interleaved generalizing s uids with
  | done => exact stored
  | edit received rest ih =>
    obtain ⟨now, later⟩ := List.forall_mem_cons.mp valid
    exact ih later (answer_edit received now stored).2
  | other elsewhere rest ih =>
    exact ih valid ((answer_elsewhere elsewhere s).trans stored)

theorem Interleaves.split {edits : List AclEdit} {earlier later : List (List UInt8)}
    (interleaved : Interleaves server cid edits (earlier ++ bytes :: later)) :
    ∃ before after, edits = before ++ after ∧ Interleaves server cid before earlier ∧
      ∀ edit, server.Receives bytes (.modAcl edit) → edit.cid = cid → edit ∈ after := by
  induction earlier generalizing edits with
  | nil =>
    refine ⟨[], edits, rfl, .done, ?_⟩
    intro edit received named
    cases interleaved with
    | edit found rest =>
      have same := Except.ok.inj (received.read.symm.trans found.read)
      cases same
      exact List.mem_cons_self
    | other elsewhere rest => exact absurd (congrArg some named) (elsewhere _ received)
  | cons head earlier ih =>
    cases interleaved with
    | @edit first _ _ _ received rest =>
      obtain ⟨before, after, rfl, front, found⟩ := ih rest
      exact ⟨first :: before, after, rfl, .edit received front, found⟩
    | other elsewhere rest =>
      obtain ⟨before, after, rfl, front, found⟩ := ih rest
      exact ⟨before, after, rfl, .other elsewhere front, found⟩

/-- Whatever the order in which the edits arrive and whatever is asked elsewhere between them, each
of them succeeds and the ACL ends up with the same members. -/
theorem no_edit_lost (server : Server) (s : Store) (cid : ContainerId) (op : Operation)
    (uids : UidSet) (edits : List AclEdit) (stored : s.acl cid op = .ok uids)
    (valid : ∀ edit ∈ edits, Edits server.guard.key cid op edit)
    (apart : edits.Pairwise AclEdit.Apart) :
    ∀ arrived queue, arrived.Perm edits → Interleaves server cid arrived queue →
      (∀ earlier bytes later edit, queue = earlier ++ bytes :: later →
        server.Receives bytes (.modAcl edit) → edit.cid = cid →
        (server.answer bytes (server.run s (earlier.map .request))).1 = .ok .none) ∧
      ∃ final, (server.run s (queue.map .request)).acl cid op = .ok final ∧
        ∀ uid, uid ∈ final.members ↔
          (uid ∈ uids.members ∨ ∃ edit ∈ edits, uid ∈ edit.set.members) ∧
            ∀ edit ∈ edits, uid ∉ edit.unset.members := by
  intro arrived queue order interleaved
  have valid : ∀ edit ∈ arrived, Edits server.guard.key cid op edit :=
    fun edit member => valid edit (order.subset member)
  have apart : arrived.Pairwise AclEdit.Apart :=
    (order.pairwise_iff fun apart => apart.symm).mpr apart
  constructor
  · rintro earlier bytes later edit rfl received named
    obtain ⟨before, after, rfl, front, found⟩ := interleaved.split
    have reached := front.run (fun edit member => valid edit (by simp [member])) stored
    have due : edit ∈ before ++ after := by simp [found edit received named]
    exact (answer_edit received (valid edit due) reached).1
  · refine ⟨arrived.foldl AclEdit.revise uids, interleaved.run valid stored, ?_⟩
    intro uid
    simp only [AclEdit.mem_foldl_revise apart, order.mem_iff]

theorem elsewhere_write {request : Request} (countable : request.Countable)
    (apart : request.cid? ≠ some cid) :
    ∀ other, server.Receives (Request.format.write request) other → other.cid? ≠ some cid := by
  intro other received
  have written := Request.readAll_write countable
  obtain rfl : request = other := Except.ok.inj (written.symm.trans received.read)
  exact apart

def repetitive : Store :=
  { containers := (∅ : Containers).insert zeroCid ((∅ : Acls).insert .read ⟨[⟨7⟩, ⟨8⟩, ⟨7⟩]⟩) }

theorem acl_repetitive : repetitive.acl zeroCid .read = .ok ⟨[⟨7⟩, ⟨8⟩, ⟨7⟩]⟩ := by
  simp [repetitive, Store.acl]

def owner : Capability := .issue zeroKey ⟨zeroCid, .admin, ⟨7⟩⟩

def handover : AclEdit := ⟨none, zeroCid, .read, ⟨[⟨9⟩]⟩, ⟨[⟨7⟩]⟩, some owner⟩

/-- Adds two uids, of which it drops one. -/
def correction : AclEdit := ⟨none, zeroCid, .read, ⟨[⟨10⟩, ⟨8⟩]⟩, ⟨[⟨8⟩]⟩, some owner⟩

theorem edits_handover : Edits zeroKey zeroCid .read handover :=
  ⟨rfl, rfl, rfl, owner, rfl, rfl, rfl, rfl⟩

theorem edits_correction : Edits zeroKey zeroCid .read correction :=
  ⟨rfl, rfl, rfl, owner, rfl, rfl, rfl, rfl⟩

/-- The correction overtakes the handover. Between them stand bytes that are no request and a
request for another container. -/
def crossing : List (List UInt8) :=
  [Request.format.write (.modAcl correction), [0, 0, 0, 2],
    Request.format.write (.removeContainer ⟨none, otherCid, some owner⟩),
    Request.format.write (.modAcl handover)]

theorem no_edit_lost_crossing :
    (∀ edit ∈ [handover, correction], Edits zeroKey zeroCid .read edit) ∧
    [handover, correction].Pairwise AclEdit.Apart ∧
    Interleaves zeroServer zeroCid [correction, handover] crossing ∧
    (zeroServer.answer (Request.format.write (.modAcl handover))
      (zeroServer.run repetitive ((crossing.take 3).map .request))).1 = .ok .none ∧
    ∃ final, (zeroServer.run repetitive (crossing.map .request)).acl zeroCid .read = .ok final ∧
      ∀ uid, uid ∈ final.members ↔ uid = ⟨9⟩ ∨ uid = ⟨10⟩ := by
  have valid : ∀ edit ∈ [handover, correction], Edits zeroKey zeroCid .read edit := by
    simp [edits_handover, edits_correction]
  have apart : [handover, correction].Pairwise AclEdit.Apart := by
    simp [AclEdit.Apart, handover, correction]
  have last : zeroServer.Receives (Request.format.write (.modAcl handover)) (.modAcl handover) :=
    receives_write (by decide) (by decide +kernel)
  have interleaved : Interleaves zeroServer zeroCid [correction, handover] crossing := by
    refine .edit (receives_write (by decide) (by decide +kernel)) (.other ?_ (.other ?_
      (.edit last .done)))
    · intro request received
      cases received.read
    · exact elsewhere_write (by decide) (by decide)
  obtain ⟨told, final, stored, members⟩ := no_edit_lost zeroServer repetitive zeroCid .read _
    [handover, correction] acl_repetitive valid apart _ crossing (.swap _ _ _) interleaved
  refine ⟨valid, apart, interleaved, ?_, final, stored, ?_⟩
  · exact told (crossing.take 3) _ [] handover rfl last rfl
  · intro uid
    rw [members uid]
    constructor
    · simp only [handover, correction, List.mem_cons, List.not_mem_nil, or_false,
        exists_eq_or_imp, exists_eq_left, forall_eq_or_imp, forall_eq]
      tauto
    · rintro (rfl | rfl) <;> simp [handover, correction]

end Server

end CapabilityGuard
