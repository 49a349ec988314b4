import WebhookBridge.Proofs.Relay.Containment
import WebhookBridge.Webhook.Publishing

/-!
# What the endpoint answers

A call of the endpoint is answered with 202 if its body denotes a value, and with 400 if it denotes none. An accepted body
is published once and a rejected one is not, and whether publishing works never shows in the answer. One thing gets past
this: a body that is nested too deeply to be read. It is answered as a failure of the bridge, and is lost.

## Contents

* `WebApp.answer_of_post`, `answerCall_of_denotes`, `answerCall_of_malformed`, `answerCall_of_givesUp`: the answer;
* `Publisher`, `WebApp.serveThrough`: publishing through anything whatever, of which a task runtime is one case;
* `WebApp.Lawful`, `post_answered_iff`: calls are answered as they should be exactly if the reader does not give up.
-/

namespace WebhookBridge

variable {σ π φ : Type}

/-! ## The answer -/

namespace WebAnswer

theorem accepted_status : accepted.status ≠ 400 := by decide

theorem rejected_status : rejected.status ≠ 202 := by decide

/-- The text of the answer to a call whose body is not accepted. -/
theorem rejected_eq :
    rejected = json 400 "\x7b\"error\":\x7b\"message\":\"json data payload expected\"\x7d\x7d" := by
  decide

theorem failed_ne_bare : failed ≠ bare 202 := by decide

theorem failed_ne_json (body : Text) : failed ≠ json 400 body :=
  fun h => absurd (congrArg status h) (by decide : (500 : Nat) ≠ 400)

end WebAnswer

namespace WebApp

variable {app : WebApp} {request : WebRequest}

/-- A call of the endpoint is answered by its body alone, even if the endpoint is where the bridge tells that it is up. -/
theorem answer_of_post (hmethod : request.method = ("POST" : Text)) (hpath : app.endpoint.fits request.path = true) :
    app.answer request = answerCall request.body := by
  have hother : ("GET" : Text) ≠ "POST" := by decide
  unfold answer routes
  cases hhealth : healthPattern.fits request.path with
  | false => simp [hhealth, hpath, hmethod]
  | true => simp [hhealth, hpath, hmethod, hother]

theorem visibleAnswer_of_post (hmethod : request.method = ("POST" : Text))
    (hpath : app.endpoint.fits request.path = true) : app.visibleAnswer request = answerCall request.body := by
  have hhead : request.method ≠ ("HEAD" : Text) := by
    rw [hmethod]
    decide
  unfold visibleAnswer
  simp only [answer_of_post hmethod hpath, if_neg hhead]

variable {body : Octets}

/-- A body that denotes a value is accepted as that value, unless the reader gives up. -/
theorem answerCall_of_denotes {v : Json} (h : Json.Lenient.Denotes body v) (hup : ¬ Json.Lenient.GivesUp body) :
    answerCall body = (.accepted, some v) := by
  rw [answerCall, Ingress.accept, Json.Lenient.readDocument_ok_iff.2 ⟨h, hup⟩]
  rfl

/-- A body that denotes no value is rejected, unless the reader gives up. -/
theorem answerCall_of_malformed (h : ∀ v, ¬ Json.Lenient.Denotes body v) (hup : ¬ Json.Lenient.GivesUp body) :
    answerCall body = (.rejected, none) := by
  obtain ⟨fault, hread, hform⟩ := Json.Lenient.readDocument_malformed_iff.2 ⟨h, hup⟩
  rw [answerCall, Ingress.accept, hread]
  simp [hform]

/-- Where the reader gives up, answering fails. -/
theorem answerCall_of_givesUp (hup : Json.Lenient.GivesUp body) : answerCall body = (.failed, none) := by
  obtain ⟨fault, hread, hdeep⟩ := Json.Lenient.readDocument_tooDeep_iff.2 hup
  rw [answerCall, Ingress.accept, hread]
  simp [hdeep]

end WebApp

/-! ## Publishing -/

/-- What envelopes are published through, under the name of an event: it changes in any way, and succeeds or fails. -/
abbrev Publisher (π φ : Type) := Text → Envelope → π → π × Except φ Unit

/-- The publisher after it was called with an envelope, and what reaches the log. -/
def Publisher.publish (emit : Publisher π φ) (e : Envelope) (p : π) : π × List LogEvent :=
  let (p, result) := emit Ingress.defaultEventName e p
  match Ingress.publish (fun _ _ => result) Ingress.defaultEventName e with
  | .ok () => (p, [])
  | .error line => (p, [line])

/-- A task runtime, as something to publish through. -/
def TaskRuntime.publisher : Publisher (TaskRuntime σ) TaskRuntime.RuntimeFault := fun name e r =>
  match r.emit name e.dump with
  | .ok r => (r, .ok ())
  | .error fault => (r, .error fault)

namespace WebApp

/-- A request is answered, and its body published through some publisher if it was accepted: the answer, the publisher
    afterwards, and what reaches the log. -/
def serveThrough (app : WebApp) (emit : Publisher π φ) (stamp : Stamp) (request : WebRequest) (p : π) :
    WebAnswer × π × List LogEvent :=
  match app.visibleAnswer request with
  | (answer, none) => (answer, p, [])
  | (answer, some body) => (answer, emit.publish (stamp.seal body) p)

/-- Requests are served by publishing through the task runtime, which keeps the log as well. -/
theorem serve_eq (app : WebApp) (stamp : Stamp) (request : WebRequest) (r : TaskRuntime σ) :
    app.serve stamp request r =
      ((app.serveThrough TaskRuntime.publisher stamp request r).1,
        (app.serveThrough TaskRuntime.publisher stamp request r).2.1.report
          (app.serveThrough TaskRuntime.publisher stamp request r).2.2) := by
  have hreport : ∀ r : TaskRuntime σ, r.report [] = r := fun r => by rw [TaskRuntime.report, List.append_nil]
  unfold serve serveThrough
  rcases app.visibleAnswer request with ⟨answer, _ | v⟩
  · rw [hreport]
  · simp only [TaskRuntime.publish, Publisher.publish, TaskRuntime.publisher, Ingress.publish]
    cases r.emit Ingress.defaultEventName (stamp.seal v).dump with
    | ok r' => simp [hreport]
    | error fault => rfl

/-! ## The law -/

/-- **The law of answers**: a call is answered with 202 and no body, or with 400 and what is expected; the latter exactly if
    its body denotes no value, and then the publisher is not called; in the former case the publisher is called once, with
    the value. -/
structure Lawful (app : WebApp) (emit : Publisher π φ) (stamp : Stamp) (request : WebRequest) (p : π) : Prop where
  answers : (app.serveThrough emit stamp request p).1 = .bare 202 ∨
    (app.serveThrough emit stamp request p).1
      = .json 400 "\x7b\"error\":\x7b\"message\":\"json data payload expected\"\x7d\x7d"
  rejects : (app.serveThrough emit stamp request p).1.status = 400 ↔ ∀ v, ¬ Json.Lenient.Denotes request.body v
  spares : (app.serveThrough emit stamp request p).1.status = 400 → (app.serveThrough emit stamp request p).2 = (p, [])
  publishes : (app.serveThrough emit stamp request p).1.status = 202 →
    ∃ v, Json.Lenient.Denotes request.body v ∧
      (app.serveThrough emit stamp request p).2 = emit.publish (stamp.seal v) p

variable {app : WebApp} {emit : Publisher π φ} {stamp : Stamp} {request : WebRequest} {p : π}

/-- A call that is accepted as the value of its body is answered as it should be. -/
theorem lawful_of_accepted {v : Json} (hv : Json.Lenient.Denotes request.body v)
    (h : app.serveThrough emit stamp request p = (.accepted, emit.publish (stamp.seal v) p)) :
    app.Lawful emit stamp request p where
  answers := Or.inl (by rw [h]; rfl)
  rejects := by
    rw [h]
    exact ⟨fun hstatus => absurd hstatus WebAnswer.accepted_status, fun hno => absurd hv (hno v)⟩
  spares hstatus := by
    rw [h] at hstatus
    exact absurd hstatus WebAnswer.accepted_status
  publishes _ := ⟨v, hv, by rw [h]⟩

/-- A call that is rejected as its body denotes no value is answered as it should be. -/
theorem lawful_of_rejected (hno : ∀ v, ¬ Json.Lenient.Denotes request.body v)
    (h : app.serveThrough emit stamp request p = (.rejected, p, [])) : app.Lawful emit stamp request p where
  answers := Or.inr (by rw [h]; exact WebAnswer.rejected_eq)
  rejects := by
    rw [h]
    exact ⟨fun _ => hno, fun _ => rfl⟩
  spares _ := by rw [h]
  publishes hstatus := by
    rw [h] at hstatus
    exact absurd hstatus WebAnswer.rejected_status

/-- A call whose answering failed is not answered as it should be. -/
theorem not_lawful_of_failed (h : app.serveThrough emit stamp request p = (.failed, p, [])) :
    ¬ app.Lawful emit stamp request p := by
  intro hlawful
  have hanswers := hlawful.answers
  rw [h] at hanswers
  rcases hanswers with hanswer | hanswer
  · exact WebAnswer.failed_ne_bare hanswer
  · exact WebAnswer.failed_ne_json _ hanswer

/-- **The law of answers** holds of a call of the endpoint, whatever it is published through, exactly if the reader does not
    give up on its body. If it does, answering fails and nothing is published. -/
theorem post_answered_iff (app : WebApp) (emit : Publisher π φ) (stamp : Stamp) (request : WebRequest) (p : π)
    (hmethod : request.method = ("POST" : Text)) (hpath : app.endpoint.fits request.path = true) :
    (app.Lawful emit stamp request p ↔ ¬ Json.Lenient.GivesUp request.body) ∧
      (Json.Lenient.GivesUp request.body → app.serveThrough emit stamp request p = (.failed, p, [])) := by
  have hvisible := visibleAnswer_of_post hmethod hpath
  have hfailed : Json.Lenient.GivesUp request.body → app.serveThrough emit stamp request p = (.failed, p, []) := by
    intro hup
    rw [serveThrough, hvisible, answerCall_of_givesUp hup]
  refine ⟨⟨fun hlawful hup => not_lawful_of_failed (hfailed hup) hlawful, fun hup => ?_⟩, hfailed⟩
  by_cases hv : ∃ v, Json.Lenient.Denotes request.body v
  · obtain ⟨v, hv⟩ := hv
    exact lawful_of_accepted hv (by rw [serveThrough, hvisible, answerCall_of_denotes hv hup])
  · have hno : ∀ v, ¬ Json.Lenient.Denotes request.body v := fun v h => hv ⟨v, h⟩
    exact lawful_of_rejected hno (by rw [serveThrough, hvisible, answerCall_of_malformed hno hup])

/-- An application with its endpoint at `/webhook`. -/
def atWebhook : WebApp := ⟨[.literal "/webhook"]⟩

/-- A call of that endpoint. -/
def webhookCall (body : Octets) : WebRequest := ⟨"POST", "http", "localhost", "/webhook", none, body⟩

theorem webhookCall_fits (body : Octets) : atWebhook.endpoint.fits (webhookCall body).path = true :=
  show atWebhook.endpoint.fits "/webhook" = true by decide

theorem post_answered_iff_seven :
    (webhookCall (Utf8.encode "7")).method = ("POST" : Text) ∧
      atWebhook.endpoint.fits (webhookCall (Utf8.encode "7")).path = true ∧
      atWebhook.Lawful TaskRuntime.publisher ⟨0, "1"⟩ (webhookCall (Utf8.encode "7")) (TaskRuntime.new 1 ()) := by
  have hup : ¬ Json.Lenient.GivesUp (Utf8.encode "7") := Json.Lenient.not_givesUp_of_isOk (by decide +kernel)
  have hiff := post_answered_iff atWebhook TaskRuntime.publisher ⟨0, "1"⟩ (webhookCall (Utf8.encode "7"))
    (TaskRuntime.new 1 ()) rfl (webhookCall_fits _)
  exact ⟨rfl, webhookCall_fits _, hiff.1.2 hup⟩

/-- A call with nothing but brackets is answered as a failure of the bridge. -/
theorem brackets_not_rejected :
    (atWebhook.serveThrough TaskRuntime.publisher ⟨0, "1"⟩ (webhookCall HttpCall.brackets) (TaskRuntime.new 1 ())).1
        = .failed ∧
      ¬ atWebhook.Lawful TaskRuntime.publisher ⟨0, "1"⟩ (webhookCall HttpCall.brackets) (TaskRuntime.new 1 ()) := by
  have hvisible := @visibleAnswer_of_post atWebhook (webhookCall HttpCall.brackets) rfl (webhookCall_fits _)
  have hfailed : atWebhook.serveThrough TaskRuntime.publisher ⟨0, "1"⟩ (webhookCall HttpCall.brackets)
      (TaskRuntime.new 1 ()) = (.failed, TaskRuntime.new 1 (), []) := by
    rw [serveThrough, hvisible]
    simp only [webhookCall, answerCall_of_givesUp HttpCall.givesUp_brackets]
  exact ⟨congrArg Prod.fst hfailed, not_lawful_of_failed hfailed⟩

end WebApp

end WebhookBridge
