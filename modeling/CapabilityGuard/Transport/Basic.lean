import CapabilityGuard.Message.Reply
import CapabilityGuard.Message.Request

/-! Calls over a transport. A call sends one request and accepts one spelling of success: an OK
reply whose body is of the kind that the procedure answers with. -/
namespace CapabilityGuard

/-- Carries a request away and brings the reply to it back. Both steps may fail with a text. -/
structure Transport (σ τ : Type) where
  submit : List UInt8 → σ → Except String τ × σ
  wait : τ → σ → Except String (List UInt8) × σ

namespace Transport

inductive Failure
  | unauthorized
  | malformed
  | store (message : String)
  | unexpectedReply (procedure : Procedure)
  | transport (message : String)
  | undecodable (cause : Wire.Error)
deriving DecidableEq

def Failure.message : Failure → String
  | .unauthorized => "unauthorized"
  | .malformed => "server rejected the request as malformed"
  | .store message => "store error: " ++ message
  | .unexpectedReply procedure => "unexpected reply body for " ++ procedure.name
  | .transport message => "transport error: " ++ message
  | .undecodable cause => "undecodable reply: " ++ cause.message

/-- Whether a body is of the kind that a procedure answers with. -/
def expects : Procedure → Reply.Body → Bool
  | .getAcl, .acl _ => true
  | .getAcl, _ => false
  | .getCap, .cap _ => true
  | .getCap, _ => false
  | _, .none => true
  | _, _ => false

/-- What a reply with these bytes means to the caller of a procedure. -/
def outcome (procedure : Procedure) (bytes : List UInt8) : Except Failure Reply.Body :=
  match Reply.format.readAll bytes with
  | .error cause => .error (.undecodable cause)
  | .ok .unauthorized => .error .unauthorized
  | .ok .malformed => .error .malformed
  | .ok (.store message) => .error (.store message)
  | .ok (.ok body) =>
    if expects procedure body then .ok body else .error (.unexpectedReply procedure)

def call {σ τ : Type} (transport : Transport σ τ) (request : Request) (s : σ) :
    Except Failure Reply.Body × σ :=
  match transport.submit (Request.format.write request) s with
  | (.error message, s) => (.error (.transport message), s)
  | (.ok ticket, s) =>
    match transport.wait ticket s with
    | (.error message, s) => (.error (.transport message), s)
    | (.ok bytes, s) => (outcome request.procedure bytes, s)

end Transport

end CapabilityGuard
