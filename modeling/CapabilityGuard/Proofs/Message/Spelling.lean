import CapabilityGuard.Proofs.Message.Fields
import CapabilityGuard.Message.Request

/-! Requests and byte strings determine each other. Every request whose lists can be counted is read
back from its bytes whatever follows them, and whatever is read as a request is the writing of that
request. -/
namespace CapabilityGuard

open Wire

namespace Procedure

theorem ofCode?_code (procedure : Procedure) : ofCode? procedure.code = some procedure := by
  cases procedure <;> rfl

theorem code_of_ofCode? {code : UInt32} {procedure : Procedure}
    (known : ofCode? code = some procedure) : procedure.code = code := by
  unfold ofCode? at known
  split at known
  case h_8 => cases known
  all_goals obtain rfl := Option.some.inj known; rfl

theorem code_injective : Function.Injective code := by
  intro first second equal
  apply Option.some.inj
  rw [← ofCode?_code first, equal, ofCode?_code]

end Procedure

namespace Request

/-- Each list of a request has at most as many elements as a count word can announce. -/
def Countable : Request → Prop
  | createAcl args => args.uids.size ≤ maxCount
  | modAcl args => args.set.size ≤ maxCount ∧ args.unset.size ≤ maxCount
  | verifyCaps caps => caps.length ≤ maxCount
  | createContainer _ | removeContainer _ | getAcl _ | getCap _ => True

instance : DecidablePred Countable := fun request => by
  cases request <;> unfold Countable <;> infer_instance

theorem optionalTxn_exact : optionalTxn.Exact fun _ => True :=
  TxnRef.format_exact.toExact.optional.congr (by simp)

theorem optionalCap_exact : optionalCap.Exact fun _ => True :=
  Capability.format_exact.toExact.optional.congr (by simp)

theorem Container.format_exact : Container.format.Exact fun _ => True :=
  ((optionalTxn_exact.pair (ContainerId.format_exact.toExact.pair optionalCap_exact)).map
    (fun _ => rfl) fun _ => rfl).congr (by simp)

theorem AclPut.format_exact : AclPut.format.Exact fun args => args.uids.size ≤ maxCount :=
  ((optionalTxn_exact.pair (ContainerId.format_exact.toExact.pair
    (Operation.format_exact.toExact.pair (UidSet.format_exact.pair optionalCap_exact)))).map
    (fun _ => rfl) fun _ => rfl).congr (by simp)

theorem AclQuery.format_exact : AclQuery.format.Exact fun _ => True :=
  ((ContainerId.format_exact.toExact.pair (Operation.format_exact.toExact.pair
    optionalCap_exact)).map (fun _ => rfl) fun _ => rfl).congr (by simp)

theorem AclEdit.format_exact :
    AclEdit.format.Exact fun args => args.set.size ≤ maxCount ∧ args.unset.size ≤ maxCount :=
  ((optionalTxn_exact.pair (ContainerId.format_exact.toExact.pair
    (Operation.format_exact.toExact.pair (UidSet.format_exact.pair
      (UidSet.format_exact.pair optionalCap_exact))))).map
    (fun _ => rfl) fun _ => rfl).congr (by simp)

theorem Exchange.format_exact : Exchange.format.Exact fun _ => True :=
  ((ContainerId.format_exact.toExact.pair (Operation.format_exact.toExact.pair
    (Credential.format_exact.toExact.pair optionalCap_exact))).map
    (fun _ => rfl) fun _ => rfl).congr (by simp)

theorem batch_exact : batch.Exact fun caps => caps.length ≤ maxCount :=
  Capability.format_exact.sequence

theorem arguments_exact (procedure : Procedure) : (arguments procedure).Exact fun request =>
    request.procedure = procedure ∧ request.Countable := by
  cases procedure with
  | createContainer =>
    refine Container.format_exact.alternative (fun _ => rfl) ?_
    intro request
    cases request <;> simp [Request.procedure, Countable]
  | removeContainer =>
    refine Container.format_exact.alternative (fun _ => rfl) ?_
    intro request
    cases request <;> simp [Request.procedure, Countable]
  | createAcl =>
    refine AclPut.format_exact.alternative (fun _ => rfl) ?_
    intro request
    cases request <;> simp [Request.procedure, Countable]
  | getAcl =>
    refine AclQuery.format_exact.alternative (fun _ => rfl) ?_
    intro request
    cases request <;> simp [Request.procedure, Countable]
  | modAcl =>
    refine AclEdit.format_exact.alternative (fun _ => rfl) ?_
    intro request
    cases request <;> simp [Request.procedure, Countable]
  | getCap =>
    refine Exchange.format_exact.alternative (fun _ => rfl) ?_
    intro request
    cases request <;> simp [Request.procedure, Countable]
  | verifyCaps =>
    refine batch_exact.alternative (fun _ => rfl) ?_
    intro request
    cases request <;> simp [Request.procedure, Countable]

theorem format_exact : format.Exact Countable := by
  apply Format.Exact.tagged
  · intro code branch selected
    obtain ⟨procedure, known, rfl⟩ := Option.map_eq_some_iff.mp selected
    obtain rfl := Procedure.code_of_ofCode? known
    apply (arguments_exact procedure).congr
    simp [Procedure.code_injective.eq_iff]
  · intro request _
    simp [Procedure.ofCode?_code]

theorem readAll_write {request : Request} (countable : request.Countable) :
    format.readAll (format.write request) = .ok request :=
  (format_exact.readAll_eq_ok_iff _ _).mpr ⟨countable, rfl⟩

/-- A request is read back from its bytes with everything behind them left, and no other request
has the same bytes. -/
theorem reads_back (request : Request) (countable : request.Countable) (rest : List UInt8) :
    format.read (format.write request ++ rest) = .ok (request, rest) ∧
      format.readAll (format.write request) = .ok request ∧
      ∀ other : Request, other.Countable →
        format.write other = format.write request → other = request := by
  refine ⟨format_exact.read_write request rest countable, ?_, ?_⟩
  · exact (format_exact.readAll_eq_ok_iff _ _).mpr ⟨countable, rfl⟩
  · intro other countable' equal
    exact format_exact.write_injective countable' countable equal

/-- An edit with every optional field present. -/
def fullEdit : Request := .modAcl
  { txn := some ⟨99⟩, cid := ⟨.zero 16⟩, op := ⟨42⟩, set := ⟨[⟨4⟩, ⟨5⟩]⟩, unset := ⟨[]⟩
    cap := some ⟨⟨⟨.zero 16⟩, .admin, ⟨1⟩⟩, ⟨.zero 32⟩⟩ }

theorem reads_back_fullEdit : fullEdit.Countable ∧
    format.read (format.write fullEdit ++ [0, 255]) = .ok (fullEdit, [0, 255]) :=
  ⟨by decide, (reads_back fullEdit (by decide) [0, 255]).1⟩

/-- Whatever is read as a request is its writing, so no request is read from two byte strings, and
those that are read are the writings of the requests whose lists can be counted. -/
theorem accepted_is_written (bytes : List UInt8) :
    (∀ request rest, format.read bytes = .ok (request, rest) →
      request.Countable ∧ bytes = format.write request ++ rest) ∧
    (∀ request, format.readAll bytes = .ok request → format.write request = bytes ∧
      ∀ other, format.readAll other = .ok request → other = bytes) ∧
    ((∃ request, format.readAll bytes = .ok request) ↔
      ∃ request : Request, request.Countable ∧ format.write request = bytes) := by
  have complete (other : List UInt8) (request : Request) :
      format.readAll other = .ok request ↔
        request.Countable ∧ format.write request = other := by
    rw [format_exact.readAll_eq_ok_iff, @eq_comm _ other]
  refine ⟨fun request rest => format_exact.write_read bytes request rest, ?_, ?_⟩
  · intro request read
    obtain ⟨_, rfl⟩ := (complete _ _).mp read
    refine ⟨rfl, ?_⟩
    intro other again
    exact ((complete _ _).mp again).2.symm
  · exact exists_congr fun request => complete bytes request

example : format.write (.createContainer ⟨some ⟨2⟩, ⟨.zero 16⟩, none⟩) =
    [0, 0, 0, 1] ++ [0, 0, 0, 1, 0, 0, 0, 0, 0, 0, 0, 2] ++ List.replicate 16 0 ++
      [0, 0, 0, 0] := by
  decide

end Request

end CapabilityGuard
