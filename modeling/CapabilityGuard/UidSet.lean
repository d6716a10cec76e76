import CapabilityGuard.Identifiers
import Std.Data.HashSet

/-! Lists of principals. The order is kept and repeats are allowed until they are collapsed.
Membership follows the finite set of the members through every operation. -/
namespace CapabilityGuard

structure UidSet where
  members : List Uid := []
deriving DecidableEq

namespace UidSet

def size (s : UidSet) : Nat := s.members.length

def isEmpty (s : UidSet) : Bool := s.members.isEmpty

def contains (s : UidSet) (uid : Uid) : Bool := s.members.contains uid

/-- Puts a new member at the end, and says whether it was new. -/
def insert (s : UidSet) (uid : Uid) : Bool × UidSet :=
  if s.contains uid then (false, s) else (true, ⟨s.members ++ [uid]⟩)

/-- Drops every occurrence, and says whether there was one. -/
def erase (s : UidSet) (uid : Uid) : Bool × UidSet :=
  (s.contains uid, ⟨s.members.filter (· ≠ uid)⟩)

/-- Keeps a uid that was not seen before. -/
def keepNew (state : Std.HashSet Uid × Array Uid) (uid : Uid) : Std.HashSet Uid × Array Uid :=
  if state.1.contains uid then state else (state.1.insert uid, state.2.push uid)

/-- The first occurrence of each member. -/
def dedup (s : UidSet) : UidSet := ⟨(s.members.foldl keepNew (∅, #[])).2.toList⟩

/-- Adds every uid of `set` and then drops every uid of `unset`. -/
def amend (s set unset : UidSet) : UidSet :=
  let added := set.members.foldl (fun s uid => (s.insert uid).2) s
  unset.members.foldl (fun s uid => (s.erase uid).2) added

def format : Wire.Format UidSet := Uid.format.sequence.map mk members

end UidSet

end CapabilityGuard
