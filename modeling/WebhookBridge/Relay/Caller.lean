import WebhookBridge.Relay.Post
import WebhookBridge.Relay.Request

/-!
# Relays

Whoever dispatches requests knows a relay only by what its calls come to. A relay has a state, which every call may
change.

## Contents

* `Relay`, `CallStep`: a relay, and one call of it;
* `Relay.answering`: a relay that answers by a rule over the calls so far;
* `HttpSession`, `Relay.http`: the relay over HTTP, with everything that it has sent.
-/

namespace WebhookBridge

/-- A call: its result, whether that takes until a time limit, what was logged, and the state after it. -/
structure CallStep (σ : Type) where
  result : CallResult
  isLate : Bool
  log : List LogEvent
  state : σ

/-- A relay with states of type `σ`. -/
structure Relay (σ : Type) where
  call : σ → RelayRequest → CallStep σ

namespace Relay

/-- A relay that answers a call by a rule over the calls before it; its state is the calls so far. -/
def answering (answer : List RelayRequest → RelayRequest → CallResult) : Relay (List RelayRequest) :=
  ⟨fun calls request => ⟨answer calls request, false, [], calls ++ [request]⟩⟩

end Relay

/-- A relay over HTTP together with the requests that it has sent. -/
structure HttpSession where
  relay : HttpRelay
  sent : List HttpRequest

/-- A session before its first call. -/
def HttpSession.new (timeout : Binary64) : HttpSession := ⟨HttpRelay.new timeout, []⟩

/-- The session with its client closed. -/
def HttpSession.closed (session : HttpSession) : HttpSession :=
  { session with relay := { session.relay with isOpen := false } }

/-- The relay over HTTP, with a peer that sees every request of the session. -/
def Relay.http (peer : Peer) (now : Moment) : Relay HttpSession :=
  ⟨fun session request =>
    let r := session.relay.post (fun sent => peer (session.sent ++ sent)) now request.url request.body
    ⟨r.result, r.isLate, r.log, ⟨r.relay, session.sent ++ r.sent⟩⟩⟩

end WebhookBridge
