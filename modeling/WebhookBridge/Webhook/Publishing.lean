import WebhookBridge.TaskRuntime.Turn
import WebhookBridge.Webhook.App

/-!
# Publishing

Accepted bodies become events of a task runtime. The caller is answered first, so what happens to the event never shows
in the answer.

## Contents

* `TaskRuntime.publish`: an envelope becomes an event, or a line of the log;
* `WebApp.serve`: a request is answered, and its body published if it was accepted.
-/

namespace WebhookBridge

variable {σ : Type}

/-- An envelope becomes an event. What prevents it is logged. -/
def TaskRuntime.publish (r : TaskRuntime σ) (eventName : Text) (e : Envelope) : TaskRuntime σ :=
  match Ingress.publish r.emit eventName e with
  | .ok r => r
  | .error event => r.report [event]

/-- A request is answered, and its body published if it was accepted. -/
def WebApp.serve (app : WebApp) (stamp : Stamp) (request : WebRequest) (r : TaskRuntime σ) :
    WebAnswer × TaskRuntime σ :=
  match app.visibleAnswer request with
  | (answer, none) => (answer, r)
  | (answer, some body) => (answer, r.publish Ingress.defaultEventName (stamp.seal body))

end WebhookBridge
