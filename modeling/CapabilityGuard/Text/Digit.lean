/-! Digits as characters. Letters of either case are the digits above nine. -/
namespace CapabilityGuard.Digit

def isDecimal (c : Char) : Bool := '0' ≤ c && c ≤ '9'

/-- The value of a digit of base sixteen. -/
def value? (c : Char) : Option Nat :=
  if '0' ≤ c ∧ c ≤ '9' then some (c.toNat - 48)
  else if 'a' ≤ c ∧ c ≤ 'f' then some (c.toNat - 87)
  else if 'A' ≤ c ∧ c ≤ 'F' then some (c.toNat - 55)
  else none

/-- The digit of a value below sixteen, in lower case. -/
def ofValue (value : Nat) : Char :=
  if value < 10 then Char.ofNat (48 + value) else Char.ofNat (87 + value)

/-- The number that digits spell, the first being the most significant. -/
def numeral (base : Nat) (digits : List Char) : Nat :=
  digits.foldl (fun number c => base * number + (value? c).getD 0) 0

end CapabilityGuard.Digit
