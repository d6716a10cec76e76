import CapabilityGuard.Token.Capability
import CapabilityGuard.UidSet
import CapabilityGuard.Wire.Text

/-! What comes back. A reply is a status word, and behind it the body of a success or the text
of a store's error. -/
namespace CapabilityGuard

namespace Reply

inductive Body
  | none
  | acl (uids : UidSet)
  | cap (cap : Capability)
deriving DecidableEq

namespace Body

def code : Body → UInt32
  | none => 0
  | acl _ => 1
  | cap _ => 2

def format : Wire.Format Body :=
  .tagged code .unknownBody fun
    | 0 => some (.constant none)
    | 1 => some (UidSet.format.alternative acl fun | acl uids => some uids | _ => Option.none)
    | 2 => some (Capability.format.alternative cap fun | cap c => some c | _ => Option.none)
    | _ => Option.none

end Body

end Reply

inductive Reply
  | ok (body : Reply.Body)
  | unauthorized
  | malformed
  | store (message : String)
deriving DecidableEq

namespace Reply

def status : Reply → UInt32
  | ok _ => 0
  | unauthorized => 1
  | malformed => 2
  | store _ => 3

def format : Wire.Format Reply :=
  .tagged status .unknownStatus fun
    | 0 => some (Body.format.alternative ok fun | ok body => some body | _ => none)
    | 1 => some (.constant unauthorized)
    | 2 => some (.constant malformed)
    | 3 => some (Wire.text.alternative store fun | store message => some message | _ => none)
    | _ => none

end Reply

end CapabilityGuard
