import CapabilityGuard.Proofs.Guard.Exchange
import CapabilityGuard.Proofs.Store.Frame

/-! What a reply tells of the store. A request that failed or only asked has left it as it was. One
that asked for a change and succeeded has made a staged list longer by that change, or has applied
it to the container that it names, and everything else is as before. -/
namespace CapabilityGuard

/-- The change stands at the end of its open transaction or has been applied, and that is all. -/
inductive Demand.Done (demand : Demand) (s after : Store) : Prop
  | staged (txn : TxnRef) (earlier : List Change) (under : demand.txn = some txn)
      (opened : s.staged[txn]? = some earlier)
      (longer : after.staged[txn]? = some (earlier ++ [demand.change]))
      (others : ∀ other, other ≠ txn → after.staged[other]? = s.staged[other]?)
      (committed : after.containers = s.containers) (numbered : after.lastTxn = s.lastTxn)
  | applied (immediate : demand.txn = none)
      (changed : demand.change.apply s.containers = .ok after.containers)
      (others : ∀ cid, cid ≠ demand.change.cid → after.containers[cid]? = s.containers[cid]?)
      (staged : after.staged = s.staged) (numbered : after.lastTxn = s.lastTxn)

theorem Demand.done_or_failed (demand : Demand) (s : Store) :
    (∃ cause, s.change demand.txn demand.change = (.error cause, s)) ∨
    ∃ after, s.change demand.txn demand.change = (.ok (), after) ∧ demand.Done s after := by
  rcases s.change_cases demand.txn demand.change with ⟨txn, _, _, result⟩ |
    ⟨txn, earlier, under, opened, result⟩ | ⟨cause, _, _, result⟩ |
    ⟨containers, immediate, changed, result⟩
  · exact .inl ⟨_, result⟩
  · refine .inr ⟨_, result, .staged txn earlier under opened ?_ ?_ rfl rfl⟩
    · exact Std.ExtHashMap.getElem?_insert_self
    · intro other different
      rw [Std.ExtHashMap.getElem?_insert, if_neg (by simpa using different.symm)]
  · exact .inl ⟨_, result⟩
  · refine .inr ⟨_, result, .applied immediate changed ?_ rfl rfl⟩
    intro cid different
    exact Change.apply_frame different.symm changed

namespace Guard

variable {guard : Guard} {s : Store}

theorem change_result (guard : Guard) (demand : Demand) (s : Store) :
    (∃ refusal, guard.change demand.cap demand.txn demand.change s = (.error refusal, s)) ∨
    ∃ after, guard.change demand.cap demand.txn demand.change s = (.ok .none, after) ∧
      demand.Done s after := by
  cases admitted : guard.admits demand.cap demand.change.cid isAdmin with
  | false => exact .inl ⟨.unauthorized, change_refused admitted demand.txn s⟩
  | true =>
    rw [change_of_admits admitted]
    rcases demand.done_or_failed s with ⟨cause, result⟩ | ⟨after, result, done⟩
    · exact .inl ⟨.store cause, by rw [result]; rfl⟩
    · exact .inr ⟨after, by rw [result]; rfl, done⟩

theorem batch_of_none {request : Request} (silent : request.demand? = none)
    (succeeded : (guard.answer request s).1 = .ok .none) : ∃ caps, request = .verifyCaps caps := by
  rcases answer_ok succeeded with ⟨_, demand, asked⟩ | ⟨_, batch⟩ | ⟨_, _, _, _, other⟩ |
    ⟨_, _, _, other⟩
  · rw [silent] at asked
    cases asked
  · exact batch
  · cases other
  · cases other

end Guard

namespace Server

/-- Unless it is an empty success the reply comes with the store unchanged, and so does the answer
to a batch. Any other empty success answers a demand, which has been done to the container that the
request names. -/
theorem answer_effect (server : Server) (bytes : List UInt8) (s : Store) :
    let reply := (server.answer bytes s).1
    let after := (server.serve bytes s).2
    (reply ≠ .ok .none → after = s) ∧
    (∀ caps, Request.format.readAll bytes = .ok (.verifyCaps caps) → after = s) ∧
    (reply = .ok .none → (∀ caps, Request.format.readAll bytes ≠ .ok (.verifyCaps caps)) →
      ∃ request demand, Request.format.readAll bytes = .ok request ∧
        request.demand? = some demand ∧ request.cid? = some demand.change.cid ∧
        demand.Done s after) := by
  intro reply after
  have told : server.answer bytes s = (reply, after) := rfl
  rcases server.answer_cases bytes s with malformed | ⟨request, received, answered⟩
  · obtain ⟨replied, kept⟩ := Prod.mk.inj (told.symm.trans malformed)
    simp [replied, kept]
  · obtain ⟨replied, left⟩ := Prod.mk.inj (told.symm.trans answered)
    rw [replied, left, received.read]
    simp only [ne_eq, Reply.ofOutcome_eq_ok, Except.ok.injEq]
    cases asked : request.demand? with
    | none =>
      have kept : (server.guard.answer request s).2 = s := Guard.answer_keeps asked s
      refine ⟨fun _ => kept, fun _ _ => kept, fun succeeded single => ?_⟩
      obtain ⟨caps, batch⟩ := Guard.batch_of_none asked succeeded
      exact absurd batch (single caps)
    | some demand =>
      rw [Guard.answer_of_demand asked]
      have single : ∀ caps, request ≠ .verifyCaps caps := by
        intro caps same
        rw [same] at asked
        cases asked
      rcases server.guard.change_result demand s with ⟨refusal, result⟩ | ⟨after, result, done⟩
      · rw [result]
        simp
      · rw [result]
        refine ⟨by simp, fun caps same => absurd same (single caps), fun _ _ => ?_⟩
        exact ⟨request, demand, rfl, asked, Request.cid?_of_demand asked, done⟩

end Server

end CapabilityGuard
