import CapabilityGuard.Server

/-! What happens at a server over a store, as data. Requests come in as bytes, and transactions are
opened and closed beside them, in any order. -/
namespace CapabilityGuard

namespace Server

inductive Event
  | request (bytes : List UInt8)
  | begin
  | commit (txn : TxnRef)
  | abort (txn : TxnRef)
deriving DecidableEq

/-- The store after an event. -/
def step (server : Server) (s : Store) : Event → Store
  | .request bytes => (server.serve bytes s).2
  | .begin => s.begin.2
  | .commit txn => (s.commit txn).2
  | .abort txn => (s.abort txn).2

def run (server : Server) (s : Store) (events : List Event) : Store :=
  events.foldl server.step s

end Server

end CapabilityGuard
