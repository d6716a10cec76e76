import CapabilityGuard.Transport.Basic

/-! A transport that records what is submitted and then fails or answers as it was told. -/
namespace CapabilityGuard.Transport

structure Script where
  submitFailure : Option String := none
  waitFailure : Option String := none
  reply : List UInt8 := []

/-- The state holds what was submitted, in order. -/
def scripted (script : Script) : Transport (List (List UInt8)) Unit where
  submit request sent :=
    match script.submitFailure with
    | some message => (.error message, sent ++ [request])
    | none => (.ok (), sent ++ [request])
  wait _ sent :=
    match script.waitFailure with
    | some message => (.error message, sent)
    | none => (.ok script.reply, sent)

end CapabilityGuard.Transport
