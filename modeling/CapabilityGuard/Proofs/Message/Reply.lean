import CapabilityGuard.Proofs.Message.Fields
import CapabilityGuard.Proofs.Wire.Text
import CapabilityGuard.Message.Reply

/-! Replies and byte strings determine each other. Behind the status word stands nothing, a body of
one of three kinds, or a text, and each of these has one spelling. -/
namespace CapabilityGuard

open Wire

namespace Reply

namespace Body

def Countable : Body → Prop
  | acl uids => uids.size ≤ maxCount
  | none | cap _ => True

theorem format_exact : format.Exact Countable := by
  apply Format.Exact.tagged
  · intro code branch selected
    split at selected
    · obtain rfl := Option.some.inj selected
      apply (Format.Exact.constant none).congr
      intro body
      cases body <;> simp [Body.code, Countable]
    · obtain rfl := Option.some.inj selected
      refine UidSet.format_exact.alternative (fun _ => rfl) ?_
      intro body
      cases body <;> simp [Body.code, Countable]
    · obtain rfl := Option.some.inj selected
      refine Capability.format_exact.toExact.alternative (fun _ => rfl) ?_
      intro body
      cases body <;> simp [Body.code, Countable]
    · cases selected
  · intro body _
    cases body <;> rfl

end Body

/-- The lists and texts of a reply have at most as many elements as a count word can announce. -/
def Countable : Reply → Prop
  | ok body => body.Countable
  | store message => message.utf8ByteSize ≤ maxCount
  | unauthorized | malformed => True

theorem format_exact : format.Exact Countable := by
  apply Format.Exact.tagged
  · intro code branch selected
    split at selected
    · obtain rfl := Option.some.inj selected
      refine Body.format_exact.alternative (fun _ => rfl) ?_
      intro reply
      cases reply <;> simp [status, Countable]
    · obtain rfl := Option.some.inj selected
      apply (Format.Exact.constant unauthorized).congr
      intro reply
      cases reply <;> simp [status, Countable]
    · obtain rfl := Option.some.inj selected
      apply (Format.Exact.constant malformed).congr
      intro reply
      cases reply <;> simp [status, Countable]
    · obtain rfl := Option.some.inj selected
      refine text_exact.alternative (fun _ => rfl) ?_
      intro reply
      cases reply <;> simp [status, Countable]
    · cases selected
  · intro reply _
    cases reply <;> rfl

/-- The words and bytes of a reply, one piece after the other. -/
def spelling : Reply → List UInt8
  | ok .none => word.write 0 ++ word.write 0
  | ok (.acl uids) => word.write 0 ++ word.write 1 ++ word.write uids.size.toUInt32 ++
      uids.members.flatMap fun uid => hyper.write uid.value
  | ok (.cap cap) => word.write 0 ++ word.write 2 ++ cap.data.payload.toList ++
      cap.mac.octets.toList
  | unauthorized => word.write 1
  | malformed => word.write 2
  | store message => word.write 3 ++ word.write message.utf8ByteSize.toUInt32 ++
      message.toUTF8.data.toList ++ List.replicate (padding message.utf8ByteSize) 0

theorem write_eq_spelling {reply : Reply} (countable : reply.Countable) :
    format.write reply = reply.spelling := by
  cases reply with
  | ok body =>
    cases body with
    | none => rfl
    | acl uids =>
      have whole : uids.members.take maxCount = uids.members := List.take_of_length_le countable
      have list : UidSet.format.write uids = word.write uids.size.toUInt32 ++
          uids.members.flatMap fun uid => hyper.write uid.value := by
        change word.write (uids.members.take maxCount).length.toUInt32 ++
          (uids.members.take maxCount).flatMap Uid.format.write = _
        rw [whole]
        rfl
      change word.write 0 ++ (word.write 1 ++ UidSet.format.write uids) = _
      simp only [list, spelling, List.append_assoc]
    | cap cap =>
      change word.write 0 ++
        (word.write 2 ++ (cap.data.payload.toList ++ cap.mac.octets.toList)) = _
      simp only [spelling, List.append_assoc]
  | unauthorized => rfl
  | malformed => rfl
  | store message =>
    change word.write 3 ++ text.write message = _
    simp only [write_text message countable, spelling, List.append_assoc]

/-- A reply with some bytes left is read exactly from the writing of that reply with those bytes
behind it, and the writing is the spelling, piece by piece. -/
theorem read_iff_written (bytes rest : List UInt8) (reply : Reply) :
    (format.read bytes = .ok (reply, rest) ↔
      reply.Countable ∧ bytes = format.write reply ++ rest) ∧
    (reply.Countable → format.write reply = reply.spelling) :=
  ⟨format_exact.read_eq_ok_iff bytes reply rest, write_eq_spelling⟩

example : format.write (.store "ab") = [0, 0, 0, 3] ++ [0, 0, 0, 2] ++ [97, 98] ++ [0, 0] := by
  decide

end Reply

end CapabilityGuard
