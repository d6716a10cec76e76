import CapabilityGuard.Proofs.Message.Reply
import CapabilityGuard.Proofs.Message.Spelling

/-! How long messages are. A message takes what its parts take together, and each part fills up whole
words, so that no byte string of another length is ever read as a message. -/
namespace CapabilityGuard

namespace Wire

variable {α β : Type}

theorem Format.length_map (format : Format α) (make : α → β) (view : β → α) (value : β) :
    ((format.map make view).write value).length = (format.write (view value)).length := rfl

theorem Format.length_pair (first : Format α) (second : Format β) (value : α × β) :
    ((first.pair second).write value).length =
      (first.write value.1).length + (second.write value.2).length :=
  List.length_append

theorem Fixed.Exact.length_optional {format : Fixed α} (exact : format.Exact) (value? : Option α) :
    (format.toFormat.optional.write value?).length = 4 + value?.elim 0 fun _ => format.size := by
  cases value? with
  | none => rfl
  | some value =>
    change (word.write 1 ++ format.write value).length = 4 + format.size
    rw [List.length_append, length_word, exact.length_write]

theorem length_text {value : String} (fits : value.utf8ByteSize ≤ maxCount) :
    (text.write value).length = 4 + (value.utf8ByteSize + 3) / 4 * 4 := by
  rw [write_text value fits, List.length_append, List.length_append, length_word, length_toUTF8,
    List.length_replicate, Nat.add_assoc, add_padding]

end Wire

open Wire

/-- A count and eight bytes for each uid. -/
def UidSet.width (s : UidSet) : Nat := 4 + 8 * s.size

theorem UidSet.length_write {s : UidSet} (countable : s.size ≤ maxCount) :
    (format.write s).length = s.width := by
  have list : (format.write s).length = 4 + s.members.length * 8 :=
    Uid.format_exact.length_sequence countable
  rw [list, width, size, Nat.mul_comm]

namespace Request

def txnWidth : Option TxnRef → Nat
  | none => 4
  | some _ => 12

def capWidth : Option Capability → Nat
  | none => 4
  | some _ => 64

/-- The bytes of a request, part by part and in the order of the parts. -/
def width : Request → Nat
  | createContainer args | removeContainer args => 4 + txnWidth args.txn + 16 + capWidth args.cap
  | createAcl args => 4 + txnWidth args.txn + 16 + 4 + args.uids.width + capWidth args.cap
  | getAcl args => 4 + 16 + 4 + capWidth args.cap
  | modAcl args =>
    4 + txnWidth args.txn + 16 + 4 + args.set.width + args.unset.width + capWidth args.cap
  | getCap args => 4 + 16 + 4 + 64 + capWidth args.cap
  | verifyCaps caps => 4 + (4 + 60 * caps.length)

theorem length_txn (txn? : Option TxnRef) : (optionalTxn.write txn?).length = txnWidth txn? := by
  rw [optionalTxn, TxnRef.format_exact.length_optional]
  cases txn? <;> rfl

theorem length_cap (cap? : Option Capability) : (optionalCap.write cap?).length = capWidth cap? := by
  rw [optionalCap, Capability.format_exact.length_optional]
  cases cap? <;> rfl

theorem length_cid (cid : ContainerId) : (ContainerId.format.write cid).length = 16 :=
  ContainerId.format_exact.length_write cid

theorem length_op (op : Operation) : (Operation.format.write op).length = 4 :=
  Operation.format_exact.length_write op

theorem length_cred (cred : Credential) : (Credential.format.write cred).length = 64 :=
  Credential.format_exact.length_write cred

theorem Container.length_write (args : Container) :
    (Container.format.write args).length = txnWidth args.txn + 16 + capWidth args.cap := by
  simp only [Container.format, Format.length_map, Format.length_pair, length_txn, length_cid, length_cap,
    Nat.add_assoc]

theorem AclPut.length_write {args : AclPut} (countable : args.uids.size ≤ maxCount) :
    (AclPut.format.write args).length =
      txnWidth args.txn + 16 + 4 + args.uids.width + capWidth args.cap := by
  simp only [AclPut.format, Format.length_map, Format.length_pair, length_txn, length_cid, length_op,
    UidSet.length_write countable, length_cap, Nat.add_assoc]

theorem AclQuery.length_write (args : AclQuery) :
    (AclQuery.format.write args).length = 16 + 4 + capWidth args.cap := by
  simp only [AclQuery.format, Format.length_map, Format.length_pair, length_cid, length_op, length_cap,
    Nat.add_assoc]

theorem AclEdit.length_write {args : AclEdit} (countable : args.set.size ≤ maxCount)
    (countable' : args.unset.size ≤ maxCount) : (AclEdit.format.write args).length =
      txnWidth args.txn + 16 + 4 + args.set.width + args.unset.width + capWidth args.cap := by
  simp only [AclEdit.format, Format.length_map, Format.length_pair, length_txn, length_cid, length_op,
    UidSet.length_write countable, UidSet.length_write countable', length_cap, Nat.add_assoc]

theorem Exchange.length_write (args : Exchange) :
    (Exchange.format.write args).length = 16 + 4 + 64 + capWidth args.cap := by
  simp only [Exchange.format, Format.length_map, Format.length_pair, length_cid, length_op, length_cred,
    length_cap, Nat.add_assoc]

theorem write_eq (request : Request) : format.write request =
    word.write request.procedure.code ++ (arguments request.procedure).write request := by
  simp [format, Format.tagged, Procedure.ofCode?_code]

theorem length_write {request : Request} (countable : request.Countable) :
    (format.write request).length = request.width := by
  rw [write_eq, List.length_append, length_word]
  cases request with
  | createContainer args | removeContainer args =>
    change 4 + (Container.format.write args).length = _
    rw [Container.length_write, width]
    omega
  | createAcl args =>
    change 4 + (AclPut.format.write args).length = _
    rw [AclPut.length_write countable, width]
    omega
  | getAcl args =>
    change 4 + (AclQuery.format.write args).length = _
    rw [AclQuery.length_write, width]
    omega
  | modAcl args =>
    change 4 + (AclEdit.format.write args).length = _
    rw [AclEdit.length_write countable.1 countable.2, width]
    omega
  | getCap args =>
    change 4 + (Exchange.format.write args).length = _
    rw [Exchange.length_write, width]
    omega
  | verifyCaps caps =>
    have list : (batch.write caps).length = 4 + caps.length * 60 :=
      Capability.format_exact.length_sequence countable
    change 4 + (batch.write caps).length = _
    rw [list, width, Nat.mul_comm]

theorem four_dvd_txnWidth (txn? : Option TxnRef) : 4 ∣ txnWidth txn? := by
  cases txn? with
  | none => exact ⟨1, rfl⟩
  | some txn => exact ⟨3, rfl⟩

theorem four_dvd_capWidth (cap? : Option Capability) : 4 ∣ capWidth cap? := by
  cases cap? with
  | none => exact ⟨1, rfl⟩
  | some cap => exact ⟨16, rfl⟩

theorem four_dvd_width (request : Request) : 4 ∣ request.width := by
  cases request with
  | createContainer args | removeContainer args =>
    have txn := four_dvd_txnWidth args.txn
    have cap := four_dvd_capWidth args.cap
    rw [width]
    omega
  | createAcl args =>
    have txn := four_dvd_txnWidth args.txn
    have cap := four_dvd_capWidth args.cap
    rw [width, UidSet.width]
    omega
  | getAcl args =>
    have cap := four_dvd_capWidth args.cap
    rw [width]
    omega
  | modAcl args =>
    have txn := four_dvd_txnWidth args.txn
    have cap := four_dvd_capWidth args.cap
    rw [width, UidSet.width, UidSet.width]
    omega
  | getCap args =>
    have cap := four_dvd_capWidth args.cap
    rw [width]
    omega
  | verifyCaps caps =>
    rw [width]
    omega

end Request

namespace Reply

/-- The bytes of a reply, part by part. A text is filled up to a multiple of four. -/
def width : Reply → Nat
  | ok .none => 4 + 4
  | ok (.acl uids) => 4 + 4 + uids.width
  | ok (.cap _) => 4 + 4 + 60
  | unauthorized | malformed => 4
  | store message => 4 + (4 + (message.utf8ByteSize + 3) / 4 * 4)

theorem length_write {reply : Reply} (countable : reply.Countable) :
    (format.write reply).length = reply.width := by
  cases reply with
  | ok body =>
    cases body with
    | none => rfl
    | acl uids =>
      change (word.write 0 ++ (word.write 1 ++ UidSet.format.write uids)).length = _
      rw [List.length_append, List.length_append, length_word, length_word,
        UidSet.length_write countable, width, Nat.add_assoc]
    | cap cap =>
      change (word.write 0 ++ (word.write 2 ++ Capability.format.write cap)).length = 4 + 4 + 60
      rw [List.length_append, List.length_append, length_word, length_word,
        Capability.format_exact.length_write]
      rfl
  | unauthorized | malformed => rfl
  | store message =>
    change (word.write 3 ++ text.write message).length = _
    rw [List.length_append, length_word, length_text countable, width]

theorem four_dvd_width (reply : Reply) : 4 ∣ reply.width := by
  cases reply with
  | ok body =>
    cases body with
    | none => exact ⟨2, rfl⟩
    | acl uids =>
      rw [width, UidSet.width]
      omega
    | cap cap => exact ⟨17, rfl⟩
  | unauthorized | malformed => exact ⟨1, rfl⟩
  | store message =>
    rw [width]
    omega

end Reply

/-- Requests and replies take as many bytes as their parts, a multiple of four, and so does whatever is
read as a request or a reply. -/
theorem messages_aligned :
    (∀ request : Request, request.Countable →
      (Request.format.write request).length = request.width ∧
        4 ∣ (Request.format.write request).length) ∧
    (∀ reply : Reply, reply.Countable →
      (Reply.format.write reply).length = reply.width ∧
        4 ∣ (Reply.format.write reply).length) ∧
    (∀ bytes request, Request.format.readAll bytes = .ok request → 4 ∣ bytes.length) ∧
    ∀ bytes reply, Reply.format.readAll bytes = .ok reply → 4 ∣ bytes.length := by
  have requests {request : Request} (countable : request.Countable) :
      4 ∣ (Request.format.write request).length :=
    Request.length_write countable ▸ request.four_dvd_width
  have replies {reply : Reply} (countable : reply.Countable) :
      4 ∣ (Reply.format.write reply).length :=
    Reply.length_write countable ▸ reply.four_dvd_width
  refine ⟨fun request countable => ⟨Request.length_write countable, requests countable⟩,
    fun reply countable => ⟨Reply.length_write countable, replies countable⟩, ?_, ?_⟩
  · intro bytes request read
    obtain ⟨countable, rfl⟩ := (Request.format_exact.readAll_eq_ok_iff _ _).mp read
    exact requests countable
  · intro bytes reply read
    obtain ⟨countable, rfl⟩ := (Reply.format_exact.readAll_eq_ok_iff _ _).mp read
    exact replies countable

/-- An edit with every field present, a text whose bytes are not as many as its characters, and the
shortest request and reply. -/
theorem messages_aligned_fullEdit :
    (Request.format.write Request.fullEdit).length = 124 ∧
      (Reply.format.write (.store "é!")).length = 12 ∧
      4 ∣ ([0, 0, 0, 7, 0, 0, 0, 0] : List UInt8).length ∧ 4 ∣ ([0, 0, 0, 1] : List UInt8).length :=
  ⟨(messages_aligned.1 Request.fullEdit (by decide)).1,
    (messages_aligned.2.1 (.store "é!") (by decide : (3 : Nat) ≤ maxCount)).1,
    messages_aligned.2.2.1 [0, 0, 0, 7, 0, 0, 0, 0] (.verifyCaps []) rfl,
    messages_aligned.2.2.2 [0, 0, 0, 1] .unauthorized rfl⟩

end CapabilityGuard
