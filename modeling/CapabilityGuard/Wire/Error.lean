/-! Why bytes are not a record. Each cause keeps the numbers that were compared: what a piece
needed and what was left when it was reached. -/
namespace CapabilityGuard.Wire

inductive Error
  | truncated (needed remaining : Nat)
  | malformedLength (count : UInt32) (remaining : Nat)
  | invalidPresenceTag (tag : UInt32)
  | unknownProcedure (code : UInt32)
  | unknownStatus (code : UInt32)
  | unknownBody (code : UInt32)
  | invalidString
  | nonZeroPadding
  | trailingBytes (count : Nat)
deriving DecidableEq

def Error.message : Error → String
  | .truncated needed remaining =>
    s!"truncated record: needed {needed} bytes, {remaining} remaining"
  | .malformedLength count remaining =>
    s!"malformed length: {count} elements overrun {remaining} remaining bytes"
  | .invalidPresenceTag tag => s!"invalid presence tag {tag}"
  | .unknownProcedure code => s!"unknown procedure {code}"
  | .unknownStatus code => s!"unknown reply status {code}"
  | .unknownBody code => s!"unknown reply body {code}"
  | .invalidString => "string field is not valid utf-8"
  | .nonZeroPadding => "non-zero padding"
  | .trailingBytes count => s!"{count} trailing bytes after record"

end CapabilityGuard.Wire
