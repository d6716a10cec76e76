/-! Byte strings of a stated length. Two of them are equal when their bytes are, and the order
is the order of the bytes, first difference first. -/
namespace CapabilityGuard

structure Octets (n : Nat) where
  toList : List UInt8
  length_toList : toList.length = n
deriving DecidableEq

namespace Octets

variable {m n : Nat}

@[ext] theorem ext {a b : Octets n} (same : a.toList = b.toList) : a = b := by
  cases a; cases b; simp_all

instance : Hashable (Octets n) := ⟨fun o => hash o.toList⟩

instance : Ord (Octets n) := ⟨fun a b => compare a.toList b.toList⟩

def ofList? (n : Nat) (bytes : List UInt8) : Option (Octets n) :=
  if exact : bytes.length = n then some ⟨bytes, exact⟩ else none

def zero (n : Nat) : Octets n := ⟨List.replicate n 0, List.length_replicate⟩

instance : HAppend (Octets m) (Octets n) (Octets (m + n)) where
  hAppend a b := ⟨a.toList ++ b.toList, by simp [a.length_toList, b.length_toList]⟩

/-- The first `m` bytes. -/
def front (o : Octets (m + n)) : Octets m :=
  ⟨o.toList.take m, by simp [o.length_toList]⟩

/-- What follows the first `m` bytes. -/
def back (o : Octets (m + n)) : Octets n :=
  ⟨o.toList.drop m, by simp [o.length_toList]⟩

@[simp] theorem toList_append (a : Octets m) (b : Octets n) :
    (a ++ b).toList = a.toList ++ b.toList := rfl

@[simp] theorem front_append (a : Octets m) (b : Octets n) : (a ++ b).front = a := by
  ext1; simp [front, a.length_toList]

@[simp] theorem back_append (a : Octets m) (b : Octets n) : (a ++ b).back = b := by
  ext1; simp [back, a.length_toList]

@[simp] theorem front_append_back (o : Octets (m + n)) : o.front ++ o.back = o := by
  ext1; simp [front, back]

end Octets

end CapabilityGuard
