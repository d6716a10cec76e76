import CapabilityGuard.Server
import CapabilityGuard.Transport.Basic

/-! Transports to a server in the same process. -/
namespace CapabilityGuard.Transport

/-- The server works while the request is submitted; the ticket is its reply. -/
def direct {σ : Type} [Backend σ] (server : Server) : Transport σ (List UInt8) where
  submit request s :=
    let (reply, s) := server.serve request s
    (.ok reply, s)
  wait reply s := (.ok reply, s)

/-- Like `direct`, but a request whose work crashed in the store gets no reply. -/
def supervised (server : Server) : Transport Unreliable (Option (List UInt8)) where
  submit request s :=
    let (reply, s) := server.serve request s
    (.ok (if s.crashed then none else some reply), { s with crashed := false })
  wait
    | some reply, s => (.ok reply, s)
    | none, s => (.error "request task failed", s)

end CapabilityGuard.Transport
