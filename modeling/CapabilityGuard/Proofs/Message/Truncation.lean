import CapabilityGuard.Message.Reply
import CapabilityGuard.Proofs.Message.Elements
import CapabilityGuard.Proofs.Message.Spelling

/-! Requests and replies that end too early. They are told from whole ones, since a longer input is read
as the same record or refused for the same cause unless the shorter one was too short, and the numbers
of the report are those of the piece that was reached, wherever it stands. -/
namespace CapabilityGuard

open Wire

section

variable (counted : UInt32 → Nat)

theorem hyper_advances : Advances (fun _ => counted) hyper.read := (octets_advances 8 _).map _ _

theorem ContainerId.format_advances : Advances (fun _ => counted) ContainerId.format.read :=
  (octets_advances 16 _).map _ _

theorem Operation.format_advances : Advances (fun _ => counted) Operation.format.read :=
  (word_advances _).map _ _

theorem Uid.format_advances : Advances (fun _ => counted) Uid.format.read :=
  (hyper_advances counted).map _ _

theorem TxnRef.format_advances : Advances (fun _ => counted) TxnRef.format.read :=
  (hyper_advances counted).map _ _

theorem Mac.format_advances : Advances (fun _ => counted) Mac.format.read :=
  (octets_advances 32 _).map _ _

theorem Credential.format_advances : Advances (fun _ => counted) Credential.format.read :=
  (((octets_advances (8 + 24) _).map _ _).pair (Mac.format_advances counted)).map _ _

theorem Capability.format_advances : Advances (fun _ => counted) Capability.format.read :=
  (((octets_advances (16 + (4 + 8)) _).map _ _).pair (Mac.format_advances counted)).map _ _

theorem Request.optionalTxn_advances : Advances (fun _ => counted) Request.optionalTxn.read :=
  (TxnRef.format_advances counted).optional

theorem Request.optionalCap_advances : Advances (fun _ => counted) Request.optionalCap.read :=
  (Capability.format_advances counted).optional

end

/-- A uid takes eight bytes. -/
theorem UidSet.format_advances :
    Advances (fun _ count => count.toNat * 8) UidSet.format.read :=
  (Uid.format_reads.sequence_advances (Uid.format_advances fun _ => 0).stable).map _ _

/-- The bytes that a count announces in a record, which may depend on the record's first word. -/
def announced (behind : UInt32 → UInt32 → Nat) (bytes : List UInt8) (count : UInt32) : Nat :=
  match word.read bytes with
  | .ok (code, _) => behind code count
  | .error _ => 0

theorem announced_of_read (behind : UInt32 → UInt32 → Nat) (bytes : List UInt8) (code : UInt32)
    (rest : List UInt8) (found : word.read bytes = .ok (code, rest)) :
    announced behind bytes = behind code := by
  funext count
  simp only [announced, found]

namespace Request

/-- A verification counts capabilities, each of sixty bytes, and an ACL counts uids. -/
def counted (code count : UInt32) : Nat :=
  if code = Procedure.verifyCaps.code then count.toNat * 60 else count.toNat * 8

theorem arguments_advances (procedure : Procedure) :
    Advances (fun _ => counted procedure.code) (arguments procedure).read := by
  have txn := optionalTxn_advances fun count => count.toNat * 8
  have cid := ContainerId.format_advances fun count => count.toNat * 8
  have op := Operation.format_advances fun count => count.toNat * 8
  have uids := UidSet.format_advances
  have cred := Credential.format_advances fun count => count.toNat * 8
  have cap := optionalCap_advances fun count => count.toNat * 8
  cases procedure with
  | createContainer | removeContainer =>
    exact ((txn.pair (cid.pair cap)).map _ _).alternative _ _
  | createAcl => exact ((txn.pair (cid.pair (op.pair (uids.pair cap)))).map _ _).alternative _ _
  | getAcl => exact ((cid.pair (op.pair cap)).map _ _).alternative _ _
  | modAcl =>
    exact ((txn.pair (cid.pair (op.pair (uids.pair (uids.pair cap))))).map _ _).alternative _ _
  | getCap => exact ((cid.pair (op.pair (cred.pair cap))).map _ _).alternative _ _
  | verifyCaps =>
    exact (Capability.format_reads.sequence_advances
      (Capability.format_advances fun _ => 0).stable).alternative _ _

theorem format_advances : Advances (announced counted) format.read := by
  refine .tagged counted (announced_of_read counted) (fun _ => nofun) ?_
  intro code branch selected
  obtain ⟨procedure, known, rfl⟩ := Option.map_eq_some_iff.mp selected
  obtain rfl := Procedure.code_of_ofCode? known
  exact arguments_advances procedure

theorem format_stable : Stable format.read := format_advances.stable

end Request

namespace Reply

theorem Body.format_advances :
    Advances (fun _ count => count.toNat * 8) Body.format.read := by
  refine .tagged (fun _ count => count.toNat * 8) (fun _ _ _ _ => rfl) (fun _ => nofun) ?_
  intro code branch selected
  split at selected
  · obtain rfl := Option.some.inj selected
    exact .done Body.none
  · obtain rfl := Option.some.inj selected
    exact UidSet.format_advances.alternative _ _
  · obtain rfl := Option.some.inj selected
    exact (Capability.format_advances _).alternative _ _
  · cases selected

/-- A store's error counts the bytes of its text, which is filled up to a multiple of four, and an ACL
counts uids. -/
def counted (status count : UInt32) : Nat :=
  if status = 3 then (count.toNat + 3) / 4 * 4 else count.toNat * 8

theorem format_advances : Advances (announced counted) format.read := by
  refine .tagged counted (announced_of_read counted) (fun _ => nofun) ?_
  intro code branch selected
  split at selected
  · obtain rfl := Option.some.inj selected
    exact Body.format_advances.alternative _ _
  · obtain rfl := Option.some.inj selected
    exact .done unauthorized
  · obtain rfl := Option.some.inj selected
    exact .done malformed
  · obtain rfl := Option.some.inj selected
    have filled : counted 3 = fun count => count.toNat + padding count.toNat := by
      funext count
      rw [add_padding, counted, if_pos rfl]
    rw [filled]
    exact text_advances.alternative _ _
  · cases selected

theorem format_stable : Stable format.read := format_advances.stable

end Reply

/-- Whatever follows an input, it is read as the same record with more left, or refused for the same
cause, unless it was refused as too short. A record that was cut is always refused as too short. -/
theorem truncation_detected : Request.format.CutSafe ∧ Reply.format.CutSafe :=
  ⟨Request.format_stable.cutSafe, Reply.format_stable.cutSafe⟩

/-- A request or a reply that ends too early is told what it lacks. With less than that behind it the
same piece is reported, with what is left by then, and with at least that much behind it the reading
ends later or is refused for what it read. -/
theorem shortfall_exact :
    (∀ bytes report needed left, Shortfall (announced Request.counted bytes) report needed →
      Request.format.read bytes = .error (report left) →
      Lacks Request.format.read bytes report needed left) ∧
    ∀ bytes report needed left, Shortfall (announced Reply.counted bytes) report needed →
      Reply.format.read bytes = .error (report left) →
      Lacks Reply.format.read bytes report needed left :=
  ⟨Request.format_advances.lacks, Reply.format_advances.lacks⟩

/-- A text of five bytes takes eight with its padding, and three of them are there. -/
theorem shortfall_exact_text :
    Lacks Reply.format.read [0, 0, 0, 3, 0, 0, 0, 5, 104, 101, 108] (.malformedLength 5) 8 3 :=
  shortfall_exact.2 _ _ _ _ (.malformedLength 5) (by rfl)

end CapabilityGuard
