import WebhookBridge.Proofs.Json.Parts
import WebhookBridge.Proofs.Webhook.Answers

/-!
# What becomes of accepted calls

Every call that is accepted is meant to become one event, with the value of its body in it. The value is dumped on its way,
though, after the caller has been answered. A value that cannot be dumped is lost, and numbers that are not finite become
null; all else is recorded as it came, in the order of the calls.

## Contents

* `TaskRuntime.record`, `Stamp.event`: an event is recorded, and the event of a value;
* `AcceptedCall`: calls of the endpoint that are answered with 202;
* `AcceptedCall.serve_eq_record_iff`: whether one call is recorded as it came;
* `WebApp.serveAll`, `accepted_recorded_iff`: calls that are handled one after the other.
-/

namespace WebhookBridge

variable {σ : Type}

/-! ## Events -/

/-- The event of a value that came under a stamp. -/
def Stamp.event (s : Stamp) (value : Json) : Event :=
  ⟨Ingress.defaultEventName, .obj [("date", .int s.date), ("id", .str s.id), ("body", value)]⟩

theorem Stamp.event_inj {s : Stamp} {v w : Json} (h : s.event v = s.event w) : v = w := by
  simpa [event] using h

theorem Stamp.dump_seal (s : Stamp) (value : Json) :
    (s.seal value).dump = value.dump.map fun w => (s.event w).data := by
  show value.dump >>= _ = _
  cases value.dump with
  | ok w => rfl
  | error fault => rfl

namespace EventStore

/-- The last of the latest elements is the last of all. -/
theorem getLast?_latest_concat {α : Type} {n : Nat} (hn : 0 < n) (l : List α) (a : α) :
    (latest n (l ++ [a])).getLast? = some a := by
  rw [latest, List.getLast?_drop, if_neg (by simp; omega), List.getLast?_concat]

/-- A store that keeps any events at all tells which one came last. -/
theorem add_inj {s : EventStore} (hcapacity : 0 < s.capacity) {e e' : Event} (h : s.add e = s.add e') : e = e' := by
  have hlast := congrArg (·.kept.getLast?) h
  simpa only [add, getLast?_latest_concat hcapacity, Option.some.injEq] using hlast

end EventStore

namespace TaskRuntime

/-- The runtime after an event was recorded. -/
def record (e : Event) (r : TaskRuntime σ) : TaskRuntime σ :=
  { r with events := r.events.add e }.report [⟨.info, .runtime, ("event " : Text) ++ e.name ++ " emitted"⟩]

/-- The runtime after the event of a stamp was lost. -/
def lose (s : Stamp) (r : TaskRuntime σ) : TaskRuntime σ :=
  r.report [⟨.error, .ingress,
    ("error while emitting event " : Text) ++ Ingress.defaultEventName ++ " (" ++ s.id ++ ")"⟩]

theorem emit_of_open {r : TaskRuntime σ} (hopen : r.closed = false) (name : Text) (dumped : Except Json.DumpFault Json) :
    r.emit name dumped = match dumped with
      | .ok data => .ok (r.record ⟨name, data⟩)
      | .error fault => .error (.undumpable fault) := by
  unfold emit
  rw [if_neg (by simp [hopen])]
  cases dumped with
  | ok data => rfl
  | error fault => rfl

/-- **A value is published** on an open runtime: it is recorded as it was dumped, or lost. -/
theorem publish_of_open {r : TaskRuntime σ} (hopen : r.closed = false) (s : Stamp) (value : Json) :
    r.publish Ingress.defaultEventName (s.seal value) =
      match value.dump with
      | .ok w => r.record (s.event w)
      | .error _ => r.lose s := by
  rw [publish, Ingress.publish, emit_of_open hopen, s.dump_seal]
  cases value.dump with
  | ok w => rfl
  | error fault => rfl

/-- What is lost is not recorded. -/
theorem lose_ne_record (r : TaskRuntime σ) (s : Stamp) (e : Event) : r.lose s ≠ r.record e := by
  intro h
  have hlog : r.log ++ _ = r.log ++ _ := congrArg TaskRuntime.log h
  have hline := congrArg (List.map LogEvent.level) (List.append_cancel_left hlog)
  simp at hline

theorem record_inj {r : TaskRuntime σ} (hcapacity : 0 < r.events.capacity) {e e' : Event}
    (h : r.record e = r.record e') : e = e' :=
  EventStore.add_inj hcapacity (congrArg TaskRuntime.events h)

end TaskRuntime

/-! ## One call -/

/-- A call of the endpoint that is answered with 202, with the value that its body denotes. -/
structure AcceptedCall (app : WebApp) where
  stamp : Stamp
  request : WebRequest
  value : Json
  isPost : request.method = ("POST" : Text)
  fits : app.endpoint.fits request.path = true
  accepted : (app.visibleAnswer request).1.status = 202
  denotes : Json.Lenient.Denotes request.body value

namespace WebApp

variable {app : WebApp} {request : WebRequest}

/-- The reader does not give up on a body that is answered with 202. -/
theorem not_givesUp_of_accepted (hmethod : request.method = ("POST" : Text))
    (hpath : app.endpoint.fits request.path = true) (haccepted : (app.visibleAnswer request).1.status = 202) :
    ¬ Json.Lenient.GivesUp request.body := by
  intro hup
  rw [visibleAnswer_of_post hmethod hpath, answerCall_of_givesUp hup] at haccepted
  exact absurd haccepted (by decide)

/-- **A call that is answered with 202** has a body that denotes a value. -/
theorem exists_acceptedCall (hmethod : request.method = ("POST" : Text))
    (hpath : app.endpoint.fits request.path = true) (haccepted : (app.visibleAnswer request).1.status = 202)
    (stamp : Stamp) : ∃ c : AcceptedCall app, c.stamp = stamp ∧ c.request = request := by
  by_cases hv : ∃ v, Json.Lenient.Denotes request.body v
  · obtain ⟨v, hv⟩ := hv
    exact ⟨⟨stamp, request, v, hmethod, hpath, haccepted, hv⟩, rfl, rfl⟩
  · have hup := not_givesUp_of_accepted hmethod hpath haccepted
    rw [visibleAnswer_of_post hmethod hpath, answerCall_of_malformed (fun v h => hv ⟨v, h⟩) hup] at haccepted
    exact absurd haccepted WebAnswer.rejected_status

end WebApp

namespace AcceptedCall

variable {app : WebApp} (c : AcceptedCall app)

/-- The runtime after the call was handled. -/
def serve (r : TaskRuntime σ) : TaskRuntime σ := (app.serve c.stamp c.request r).2

/-- The event that the call is meant to become. -/
def event : Event := c.stamp.event c.value

/-- The event that the call becomes, unless it is lost. -/
def recorded? : Option Event := c.value.dump.toOption.map c.stamp.event

theorem visibleAnswer_eq : app.visibleAnswer c.request = (.accepted, some c.value) := by
  rw [WebApp.visibleAnswer_of_post c.isPost c.fits]
  exact WebApp.answerCall_of_denotes c.denotes (WebApp.not_givesUp_of_accepted c.isPost c.fits c.accepted)

/-- **A call is handled** by an open runtime: its event is recorded, or lost. -/
theorem serve_eq {r : TaskRuntime σ} (hopen : r.closed = false) :
    c.serve r = match c.recorded? with
      | some e => r.record e
      | none => r.lose c.stamp := by
  rw [serve, WebApp.serve, c.visibleAnswer_eq]
  show r.publish _ _ = _
  rw [TaskRuntime.publish_of_open hopen, recorded?]
  cases c.value.dump with
  | ok w => rfl
  | error fault => rfl

/-- A call becomes the event that it is meant to become exactly if its value is carried. -/
theorem recorded?_eq_iff : c.recorded? = some c.event ↔ c.value.Carried := by
  rw [Json.Carried, ← Json.dumpAt_eq_iff, recorded?, event, Json.dump]
  cases Json.dumpAt 0 c.value with
  | error fault => simp [Except.toOption]
  | ok w =>
      simp only [Except.toOption, Option.map_some, Option.some.injEq, Except.ok.injEq]
      exact ⟨Stamp.event_inj, fun h => by rw [h]⟩

/-- **A call is recorded as it came** exactly if its value is carried. -/
theorem serve_eq_record_iff {r : TaskRuntime σ} (hopen : r.closed = false) (hcapacity : 0 < r.events.capacity) :
    c.serve r = r.record c.event ↔ c.value.Carried := by
  rw [← recorded?_eq_iff, c.serve_eq hopen]
  cases c.recorded? with
  | none => exact ⟨fun h => absurd h (r.lose_ne_record _ _), fun h => by cases h⟩
  | some e => exact ⟨fun h => congrArg some (TaskRuntime.record_inj hcapacity h), fun h => by cases h; rfl⟩

/-- What a call leaves as it was. -/
theorem serve_keeps {r : TaskRuntime σ} (hopen : r.closed = false) :
    (c.serve r).closed = false ∧ (c.serve r).events.capacity = r.events.capacity := by
  rw [c.serve_eq hopen]
  cases c.recorded? with
  | none => exact ⟨hopen, rfl⟩
  | some e => exact ⟨hopen, rfl⟩

end AcceptedCall

/-! ## One call after the other -/

namespace WebApp

variable {app : WebApp}

/-- The runtime after several calls were handled one after the other. -/
def serveAll (calls : List (AcceptedCall app)) (r : TaskRuntime σ) : TaskRuntime σ :=
  calls.foldl (fun r c => c.serve r) r

theorem serveAll_keeps (calls : List (AcceptedCall app)) {r : TaskRuntime σ} (hopen : r.closed = false) :
    (serveAll calls r).closed = false ∧ (serveAll calls r).events.capacity = r.events.capacity := by
  induction calls generalizing r with
  | nil => exact ⟨hopen, rfl⟩
  | cons c calls ih =>
      obtain ⟨hopen', hcapacity'⟩ := c.serve_keeps hopen
      obtain ⟨hclosed, hcapacity⟩ := ih hopen'
      exact ⟨hclosed, hcapacity.trans hcapacity'⟩

/-- **The events of several calls** come in the order of the calls. -/
theorem events_serveAll (calls : List (AcceptedCall app)) {r : TaskRuntime σ} (hopen : r.closed = false) :
    (serveAll calls r).events = (calls.filterMap (·.recorded?)).foldl (fun s e => s.add e) r.events := by
  induction calls generalizing r with
  | nil => rfl
  | cons c calls ih =>
      have hcall := c.serve_eq hopen
      show (serveAll calls (c.serve r)).events = _
      rw [ih (c.serve_keeps hopen).1, hcall]
      cases hrecorded : c.recorded? with
      | none => rw [List.filterMap_cons_none hrecorded]; rfl
      | some e => rw [List.filterMap_cons_some hrecorded]; rfl

/-- **What becomes of accepted calls** that an open runtime handles one after the other: each of them has a value; it is
    recorded as one event with that value, after those of the calls before it, exactly if the value is carried; and the
    events of all calls that are not lost are recorded in the order of the calls. -/
theorem accepted_recorded_iff {r : TaskRuntime σ} (hopen : r.closed = false) (hcapacity : 0 < r.events.capacity) :
    (∀ request : WebRequest, request.method = ("POST" : Text) → app.endpoint.fits request.path = true →
      (app.visibleAnswer request).1.status = 202 →
      ∀ stamp, ∃ c : AcceptedCall app, c.stamp = stamp ∧ c.request = request) ∧
    ∀ calls : List (AcceptedCall app),
      (∀ before c after, calls = before ++ c :: after →
        (c.serve (serveAll before r) = (serveAll before r).record c.event ↔ c.value.Carried)) ∧
      (serveAll calls r).events = (calls.filterMap (·.recorded?)).foldl (fun s e => s.add e) r.events ∧
      ∀ c ∈ calls, c.recorded? = some c.event ↔ c.value.Carried := by
  refine ⟨fun request hmethod hpath haccepted => exists_acceptedCall hmethod hpath haccepted, fun calls => ?_⟩
  refine ⟨fun before c after _ => ?_, events_serveAll calls hopen, fun c _ => c.recorded?_eq_iff⟩
  obtain ⟨hopen', hcapacity'⟩ := serveAll_keeps before hopen
  exact c.serve_eq_record_iff hopen' (hcapacity' ▸ hcapacity)

/-- A call with a body that is read as a value. -/
def readCall (stamp : Stamp) {body : Octets} {v : Json} (h : Json.Lenient.readDocument body = .ok v) :
    AcceptedCall atWebhook where
  stamp := stamp
  request := webhookCall body
  value := v
  isPost := rfl
  fits := webhookCall_fits body
  accepted := by
    obtain ⟨hv, hup⟩ := Json.Lenient.readDocument_ok_iff.1 h
    rw [@visibleAnswer_of_post atWebhook (webhookCall body) rfl (webhookCall_fits body)]
    exact congrArg (·.1.status) (answerCall_of_denotes hv hup)
  denotes := (Json.Lenient.readDocument_ok_iff.1 h).1

theorem read_seven : Json.Lenient.readDocument (Utf8.encode "7") = .ok (.int 7) := by
  cbv

theorem accepted_recorded_iff_seven :
    (TaskRuntime.new 1 ()).closed = false ∧ 0 < (TaskRuntime.new 1 ()).events.capacity ∧
      (readCall ⟨0, "1"⟩ read_seven).serve (TaskRuntime.new 1 ())
        = (TaskRuntime.new 1 ()).record (Stamp.event ⟨0, "1"⟩ (.int 7)) := by
  have hcapacity : 0 < (TaskRuntime.new 1 ()).events.capacity := Nat.one_pos
  have hcarried : (Json.int 7).Carried := by simp [Json.Carried, Json.parts, Json.Unchanged, Json.Admitted, Json.maxDumpDepth]
  have hcalls := (@accepted_recorded_iff Unit atWebhook (TaskRuntime.new 1 ()) rfl hcapacity).2
    [readCall ⟨0, "1"⟩ read_seven]
  exact ⟨rfl, hcapacity, (hcalls.1 [] _ [] rfl).2 hcarried⟩

theorem read_notANumber : Json.Lenient.readDocument (Utf8.encode "NaN") = .ok (.float .nan) := by
  cbv

theorem read_loneSurrogate :
    Json.Lenient.readDocument (Utf8.encode "\x7b\"\\ud800\":0\x7d") = .ok (.obj [([⟨0xD800, by decide⟩], .int 0)]) := by
  cbv

/-- A call with a number that is not finite is recorded as another value, and one with a lone surrogate in a key is lost. -/
theorem notANumber_altered_and_loneSurrogate_lost :
    (readCall ⟨0, "1"⟩ read_notANumber).serve (TaskRuntime.new 1 ())
        = (TaskRuntime.new 1 ()).record (Stamp.event ⟨0, "1"⟩ .null) ∧
      (readCall ⟨0, "1"⟩ read_loneSurrogate).serve (TaskRuntime.new 1 ()) = (TaskRuntime.new 1 ()).lose ⟨0, "1"⟩ ∧
      ((readCall ⟨0, "1"⟩ read_loneSurrogate).serve (TaskRuntime.new 1 ())).events.kept.length = 0 := by
  have hlost : (readCall ⟨0, "1"⟩ read_loneSurrogate).serve (TaskRuntime.new 1 ())
      = (TaskRuntime.new 1 ()).lose ⟨0, "1"⟩ := AcceptedCall.serve_eq _ rfl
  exact ⟨AcceptedCall.serve_eq _ rfl, hlost, by rw [hlost]; rfl⟩

end WebApp

end WebhookBridge
