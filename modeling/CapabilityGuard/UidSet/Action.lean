import CapabilityGuard.UidSet

/-! Everything that can be done with a list of uids, as data, and what it answers. Edits and collapsing
answer nothing. -/
namespace CapabilityGuard

namespace UidSet

inductive Action
  | insert (uid : Uid)
  | erase (uid : Uid)
  | contains (uid : Uid)
  | amend (set unset : UidSet)
  | dedup
deriving DecidableEq

def perform (s : UidSet) : Action → Option Bool × UidSet
  | .insert uid => let (new, s) := s.insert uid; (some new, s)
  | .erase uid => let (found, s) := s.erase uid; (some found, s)
  | .contains uid => (some (s.contains uid), s)
  | .amend set unset => (none, s.amend set unset)
  | .dedup => (none, s.dedup)

def run (s : UidSet) : List Action → List (Option Bool) × UidSet
  | [] => ([], s)
  | action :: rest =>
    let (answer, s) := s.perform action
    let (answers, s) := s.run rest
    (answer :: answers, s)

end UidSet

end CapabilityGuard
