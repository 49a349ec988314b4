import WebhookBridge.Json.Lenient
import WebhookBridge.TaskRuntime.Events
import WebhookBridge.Log

/-!
# Ingress

A webhook body that is a JSON document is accepted and published as an event. Publishing happens after the caller has
been answered, so that a failure to publish only reaches the log.

## Contents

* `AcceptFault`, `Ingress.accept`: accepting a body;
* `Stamp`, `Envelope`, `Envelope.dump`: what is published;
* `Ingress.publish`: publishing it.
-/

namespace WebhookBridge

/-- Why a body is not accepted: it is no JSON document, or it is nested too deeply to tell. -/
inductive AcceptFault where
  | payloadExpected
  | tooDeep
  deriving DecidableEq, Repr

/-- The text of an accept fault; nesting has none. -/
def AcceptFault.message : AcceptFault → Text
  | .payloadExpected => "json data payload expected"
  | .tooDeep => []

/-- The time and the identity of a call. -/
structure Stamp where
  date : Int
  id : Text
  deriving DecidableEq, Repr

/-- An accepted body with the stamp of its call. -/
structure Envelope extends Stamp where
  body : Json

/-- A body under a stamp. -/
def Stamp.seal (s : Stamp) (body : Json) : Envelope := ⟨s, body⟩

/-- The dumped form of an envelope. -/
def Envelope.dump (e : Envelope) : Except Json.DumpFault Json := do
  let body ← e.body.dump
  return .obj [("date", .int e.date), ("id", .str e.id), ("body", body)]

namespace Ingress

/-- The name of the events that are published unless another is set. -/
def defaultEventName : Text := "onRequest"

/-- The value of a body. -/
def accept (raw : Octets) : Except AcceptFault Json :=
  (Json.Lenient.readDocument raw).mapError fun fault => if fault.isTooDeep then .tooDeep else .payloadExpected

/-- Publishes an envelope through `emit`. What fails is logged and goes no further. -/
def publish {φ α : Type} (emit : Text → Except Json.DumpFault Json → Except φ α) (eventName : Text) (e : Envelope) :
    Except LogEvent α :=
  (emit eventName e.dump).mapError fun _ =>
    ⟨.error, .ingress, ("error while emitting event " : Text) ++ eventName ++ " (" ++ e.id ++ ")"⟩

end Ingress

end WebhookBridge
