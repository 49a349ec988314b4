import WebhookBridge.Http.Client
import WebhookBridge.Json.Lenient
import WebhookBridge.Json.Printer
import WebhookBridge.Log
import WebhookBridge.Number.Shortest
import WebhookBridge.Relay.Outcome

/-!
# Posting

A relay call posts a JSON body to a URL and reads the JSON body of the response. Any status is passed on; only a body
that has no JSON text, a failed connection and a response that is no JSON document are relay errors.

## Contents

* `HttpRelay`: a relay over HTTP;
* `CallReport`: what a call comes to, with everything that can be seen of it;
* `HttpRelay.post`: a call.
-/

namespace WebhookBridge

/-- A relay over HTTP. All calls share the time limit and the cookies. -/
structure HttpRelay where
  timeout : Binary64
  jar : CookieJar
  isOpen : Bool

/-- A relay before its first call. -/
def HttpRelay.new (timeout : Binary64) : HttpRelay := ⟨timeout, [], true⟩

/-- A call: its result, whether that takes until the time limit, the requests that went out, what was logged, and the
    relay after it. -/
structure CallReport where
  result : CallResult
  isLate : Bool
  sent : List HttpRequest
  log : List LogEvent
  relay : HttpRelay

/-- The error of a body that has no JSON text. -/
def serializationError (url message : Text) : RelayError :=
  ⟨.serialization, ("cannot encode request body for " : Text) ++ url ++ ": " ++ message⟩

/-- The error of a failed connection. -/
def transportError (url reason : Text) : RelayError := ⟨.transport, ("Post " : Text) ++ url ++ ": " ++ reason⟩

/-- The reason of a call that took too long. -/
def timeoutReason (timeout : Binary64) : Text := ("timeout after " : Text) ++ timeout.brief ++ "s"

/-- The error of a response that is no JSON document. -/
def decodeError (url : Text) (status : Int) (message : Text) : RelayError :=
  ⟨.decode, ("invalid JSON response from " : Text) ++ url ++ " (status " ++ Text.ofInt status ++ "): " ++ message⟩

/-- The octets that a body is sent as. -/
def bodyOctets (body : Json) : Except Json.PrintFault Octets := (Json.print .inline body).map Utf8.encode

/-- What a body that has no JSON text comes to. -/
def unprintableResult (url : Text) : Json.PrintFault → CallResult
  | .tooDeep => .met .tooDeep
  | fault => .failed (serializationError url fault.message)

/-- What a fault of the exchange comes to. -/
def faultResult (timeout : Binary64) (url : Text) : ExchangeFault → CallResult
  | .silence => .failed (transportError url (timeoutReason timeout))
  | .timedOut => .failed (transportError url (timeoutReason timeout))
  | .failed reason => .failed (transportError url reason)
  | .met defect => .met defect

/-- What a response comes to. -/
def responseResult (url : Text) (r : HttpResponse) : CallResult :=
  match Json.Lenient.readDocument r.content with
  | .ok body => .answered r.status body
  | .error fault => if fault.isTooDeep then .met .tooDeep else .failed (decodeError url r.status fault.message)

/-- What is logged of a call: that it was answered. -/
def callLog (url : Text) : CallResult → List LogEvent
  | .answered status _ => [⟨.debug, .relay, ("POST " : Text) ++ url ++ " -> " ++ Text.ofInt status⟩]
  | _ => []

/-- A call to a URL with a body. -/
def HttpRelay.post (relay : HttpRelay) (peer : Peer) (now : Moment) (url : Text) (body : Json) : CallReport :=
  match bodyOctets body with
  | .error fault => ⟨unprintableResult url fault, false, [], [], relay⟩
  | .ok content =>
    let e := exchange peer now relay.isOpen relay.jar url content
    let relay := { relay with jar := e.jar }
    match e.result with
    | .ok r => ⟨responseResult url r, false, e.sent, callLog url (responseResult url r), relay⟩
    | .error fault => ⟨faultResult relay.timeout url fault, fault.isLate, e.sent, [], relay⟩

end WebhookBridge
