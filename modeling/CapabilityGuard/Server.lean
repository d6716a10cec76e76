import CapabilityGuard.Guard

/-! The server turns the bytes of a request into those of one reply. Bytes that are too many or
are no request are answered before any token is looked at or the store is touched. -/
namespace CapabilityGuard

structure Server where
  guard : Guard
  maxRequestSize : Nat

namespace Server

variable {σ : Type} [Backend σ]

def defaultMaxRequestSize : Nat := 1048576

def answer (server : Server) (bytes : List UInt8) (s : σ) : Reply × σ :=
  if server.maxRequestSize < bytes.length then (.malformed, s)
  else match Request.format.readAll bytes with
    | .error _ => (.malformed, s)
    | .ok request =>
      match server.guard.answer request s with
      | (.ok body, s) => (.ok body, s)
      | (.error .unauthorized, s) => (.unauthorized, s)
      | (.error (.store cause), s) => (.store cause.message, s)

def serve (server : Server) (bytes : List UInt8) (s : σ) : List UInt8 × σ :=
  let (reply, s) := server.answer bytes s
  (Reply.format.write reply, s)

end Server

end CapabilityGuard
