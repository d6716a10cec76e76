import CapabilityGuard.Server.Event

/-! A server and the operator who runs it. The operator issues tokens beside the protocol and the
server issues capabilities in its replies; the tokens handed out are kept with the store. -/
namespace CapabilityGuard

namespace Request

def credential? : Request → Option Credential
  | getCap a => some a.cred
  | _ => none

/-- The capabilities that a request carries. -/
def capabilities : Request → List Capability
  | createContainer a | removeContainer a => a.cap.toList
  | createAcl a => a.cap.toList
  | getAcl a => a.cap.toList
  | modAcl a => a.cap.toList
  | getCap a => a.cap.toList
  | verifyCaps caps => caps

end Request

def Reply.capability? : Reply → Option Capability
  | ok (.cap cap) => some cap
  | _ => none

namespace Server

inductive Act
  | event (event : Event)
  | enrol (data : CredentialData)
  | empower (data : CapabilityData)
deriving DecidableEq

/-- A store and the tokens handed out so far. -/
structure Realm where
  store : Store := {}
  credentials : List Credential := []
  capabilities : List Capability := []

/-- The capabilities handed out in reply to an event. -/
def given (server : Server) (s : Store) : Event → List Capability
  | .request bytes => (server.answer bytes s).1.capability?.toList
  | .begin | .commit _ | .abort _ => []

def act (server : Server) (realm : Realm) : Act → Realm
  | .event event =>
    { realm with
      store := server.step realm.store event
      capabilities := realm.capabilities ++ server.given realm.store event }
  | .enrol data =>
    { realm with credentials := realm.credentials ++ [.issue server.guard.key data] }
  | .empower data =>
    { realm with capabilities := realm.capabilities ++ [.issue server.guard.key data] }

def govern (server : Server) (realm : Realm) (acts : List Act) : Realm := acts.foldl server.act realm

end Server

end CapabilityGuard
