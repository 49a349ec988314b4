import WebhookBridge.Command.Single
import WebhookBridge.Proofs.Dispatch.Waves
import WebhookBridge.Proofs.Json.Dumped
import WebhookBridge.Proofs.Relay.Bodies
import WebhookBridge.Proofs.Task.Replies

/-!
# What one-off commands report

A command that has made its calls writes their payload as its whole output. The payload comes from calls over HTTP, so that
its integers have few enough digits: it is written exactly if it can be dumped.

## Contents

* `CommandReport.Shows`: a payload as the whole output; `CommandReport.Misused`, `CommandReport.Fails`: what else there is;
* `shows_payload`, `escaped_payload`: whether a payload is shown;
* `HttpCall.Lost`: calls that nobody answers for;
* `callReport`, `postCommand_relay`: a single call; `HttpCall.ofBatch`, `batchReport`, `batchCommand_relay`: a batch.
-/

namespace WebhookBridge

/-! ## Reports -/

namespace CommandReport

/-- A command that has written the document of a payload, in a layout, as its whole output. -/
structure Shows (r : CommandReport) (code : Nat) (style : Json.Style) (p : Payload) : Prop where
  exitCode : r.exitCode = some code
  output : ∃ w t, p.dump = .ok w ∧ Json.print style w = .ok t ∧ r.output = t ++ "\n"
  errors : r.errors = []
  escaped : r.escaped = none

/-- A command that has reported how it is misused, and has sent nothing. -/
structure Misused (r : CommandReport) : Prop where
  exitCode : r.exitCode = some 2
  output : r.output = []
  errors : ∃ (spec : CommandSpec) (fault : UsageFault), r.errors = (spec.usageLines fault).flatMap linesOf
  escaped : r.escaped = none
  sent : r.sent = []

/-- A command that has reported a failure, and has sent nothing. -/
structure Fails (r : CommandReport) (message : Text) : Prop where
  exitCode : r.exitCode = some 1
  output : r.output = []
  errors : r.errors = linesOf (("Error: " : Text) ++ message)
  escaped : r.escaped = none
  sent : r.sent = []

theorem misused_misuse (spec : CommandSpec) (fault : UsageFault) : (misuse spec fault).Misused :=
  ⟨rfl, rfl, ⟨spec, fault, rfl⟩, rfl, rfl⟩

theorem fails_failure (message : Text) : (failure message).Fails message := ⟨rfl, rfl, rfl, rfl, rfl⟩

variable {r : CommandReport} {code : Nat} {style : Json.Style} {p : Payload}

theorem Shows.during (h : r.Shows code style p) (log : List LogEvent) (sent : List HttpRequest) :
    (r.during log sent).Shows code style p := ⟨h.exitCode, h.output, h.errors, h.escaped⟩

/-- Log events that are left out show in nothing else. -/
theorem atLevel_shows (level : LogLevel) : (r.atLevel level).Shows code style p ↔ r.Shows code style p :=
  ⟨fun h => ⟨h.exitCode, h.output, h.errors, h.escaped⟩, fun h => ⟨h.exitCode, h.output, h.errors, h.escaped⟩⟩

/-- **A payload is shown** if it can be dumped. -/
theorem shows_payload (code : Nat) (style : Json.Style) {p : Payload} (hshort : p.Short) (hdump : p.Dumpable) :
    (payload code style p).Shows code style p := by
  obtain ⟨w, hw⟩ : ∃ w, p.dump = .ok w := by
    have hfault := p.dump_iff.2 hdump
    cases h : p.dump with
    | ok w => exact ⟨w, rfl⟩
    | error fault =>
        rw [h] at hfault
        cases hfault
  obtain ⟨t, ht⟩ := p.print_dump style hshort hw
  have heq : payload code style p = page code t := by
    simp only [payload, hw, printed, ht]
  rw [heq]
  exact ⟨rfl, ⟨w, t, hw, ht, rfl⟩, rfl, rfl⟩

/-- A payload that cannot be dumped escapes. -/
theorem escaped_payload (code : Nat) (style : Json.Style) {p : Payload} (hdump : ¬ p.Dumpable) :
    ∃ fault, payload code style p = escape (.defect (.undumpable fault)) := by
  cases h : p.dump with
  | ok w => exact absurd (p.dump_iff.1 (by rw [h]; rfl)) hdump
  | error fault => exact ⟨fault, by simp only [payload, h]⟩

end CommandReport

/-! ## Calls that are lost -/

namespace HttpCall

variable {c : HttpCall}

/-- **A call that nobody answers for**: the client fails with something that is none of its own failures, or the last response
    nests too deeply to be read. -/
inductive Lost (c : HttpCall) : Prop where
  | met (defect : Defect) (hexchange : c.Exchanges (.error (.met defect)))
  | tooDeep (r : HttpResponse) (hexchange : c.Exchanges (.ok r)) (hcontent : Json.Lenient.GivesUp r.content)

/-- A call with a body that does not nest too deeply is answered for exactly if it is not lost. -/
theorem isRelayed_iff_not_lost (hbody : ¬ c.request.body.NestsTooDeep) : c.report.result.IsRelayed ↔ ¬ c.Lost := by
  constructor
  · intro hr hlost
    cases hlost with
    | met defect hexchange =>
        rw [report_unanswered hexchange] at hr
        exact hr
    | tooDeep r hexchange hcontent =>
        rw [Escapes.met (.inr ⟨r, hexchange, hcontent⟩)] at hr
        exact hr
  · intro hlost
    have hkeeps : c.ClientKeeps := fun defect hexchange => hlost (.met defect hexchange)
    rw [isRelayed_iff hkeeps]
    rintro (hdeep | ⟨r, hexchange, hcontent⟩)
    · exact hbody hdeep
    · exact hlost (.tooDeep r hexchange hcontent)

/-- What a call is answered with has no integer of too many digits. -/
theorem short_of_answered {status : Int} {body : Json} (h : c.report.result = .answered status body) : body.Short := by
  cases hbody : bodyOctets c.request.body with
  | error fault =>
      rw [(report_unwritten hbody).1] at h
      cases fault <;> cases h
  | ok content =>
      cases hresult : (c.exchange content).result with
      | error fault =>
          rw [report_unanswered ⟨content, hbody, hresult⟩] at h
          cases fault <;> cases h
      | ok r =>
          rw [report_answered ⟨content, hbody, hresult⟩, responseResult] at h
          split at h
          · rename_i v hv
            cases h
            exact Json.Lenient.short_of_readDocument hv
          · split at h <;> cases h

end HttpCall

/-! ## Single calls -/

/-- A world in which calls go over HTTP to a peer. -/
def World.over (world : World) (peer : Peer) (now : Moment) : World :=
  { world with surroundings := { world.surroundings with relay := .http peer now } }

/-- The single call of a command. -/
def HttpCall.single (peer : Peer) (now : Moment) (timeout : Binary64) (request : RelayRequest) : HttpCall :=
  ⟨HttpSession.new timeout, peer, now, request⟩

/-- The report of what a single call came to. -/
def callReport (url : Text) (result : CallResult) : CommandReport :=
  match (settleCall url result).1 with
  | .error defect => .escape (.defect defect)
  | .ok o => reportOutcome o

/-- An answer is reported as a payload, -/
theorem callReport_answered (url : Text) (status : Int) (body : Json) :
    callReport url (.answered status body) = .payload 0 .indented (.success ⟨Text.ofInt status, body⟩) := rfl

/-- and so is a relay error. -/
theorem callReport_failed (url : Text) (e : RelayError) : callReport url (.failed e) = .payload 1 .inline (.error e.message) := rfl

/-- What is not answered for escapes. -/
theorem callReport_escapes (url : Text) {result : CallResult} (h : ¬ result.IsRelayed) :
    ∃ e, callReport url result = .escape e := by
  cases result with
  | answered status body => exact absurd trivial h
  | failed e => exact absurd trivial h
  | met defect => exact ⟨_, rfl⟩

/-- **A single call** on data with a value. -/
theorem postCommand_relay (world : World) (url : Text) {data : Text} (timeout : Binary64) {body : Json}
    (hdata : Json.Lenient.read Json.maxNesting data = .ok body) :
    ∃ log, postCommand world url data timeout =
      (callReport url (world.surroundings.relay.call (HttpSession.new timeout) ⟨url, body⟩).result).during log
        (world.surroundings.relay.call (HttpSession.new timeout) ⟨url, body⟩).state.sent := by
  refine ⟨(dispatchOne world.surroundings.relay (HttpSession.new timeout) ⟨url, body⟩).log, ?_⟩
  simp only [postCommand, hdata]
  rfl

/-- A single call over HTTP sends what the call sends. -/
theorem postCommand_call (world : World) (peer : Peer) (now : Moment) (url : Text) {data : Text} (timeout : Binary64)
    {body : Json} (hdata : Json.Lenient.read Json.maxNesting data = .ok body) :
    ∃ log, postCommand (world.over peer now) url data timeout =
      (callReport url (HttpCall.single peer now timeout ⟨url, body⟩).report.result).during log
        (HttpCall.single peer now timeout ⟨url, body⟩).report.sent :=
  postCommand_relay (world.over peer now) url timeout hdata

/-! ## Batches -/

/-- The calls of a batch over HTTP, each in the session that it finds. -/
def HttpCall.ofBatch (peer : Peer) (now : Moment) (timeout : Binary64) (requests : List RelayRequest) : List HttpCall :=
  ((Relay.http peer now).calls (HttpSession.new timeout) requests).map fun c => ⟨c.1, peer, now, c.2⟩

/-- The batch of a command. -/
def HttpCall.batch (peer : Peer) (now : Moment) (timeout : Binary64) (requests : List RelayRequest) :
    Dispatched HttpSession BatchResult := dispatchBatch (.http peer now) (HttpSession.new timeout) requests

/-- The requests of the calls of a batch are those of the batch. -/
theorem HttpCall.request_mem {peer : Peer} {now : Moment} {timeout : Binary64} {requests : List RelayRequest} {c : HttpCall}
    (h : c ∈ ofBatch peer now timeout requests) : c.request ∈ requests := by
  obtain ⟨call, hcall, rfl⟩ := List.mem_map.1 h
  rw [← (Relay.http peer now).map_calls requests (HttpSession.new timeout)]
  exact List.mem_map_of_mem hcall

/-- A batch returns its entries exactly if none of its calls is lost. -/
theorem HttpCall.batch_ok_iff {peer : Peer} {now : Moment} {timeout : Binary64} {requests : List RelayRequest}
    (hfair : ∀ r ∈ requests, r.IsFair) :
    (∃ result, (batch peer now timeout requests).outcome = .ok result) ↔
      ∀ c ∈ ofBatch peer now timeout requests, ¬ c.Lost := by
  rw [batch, dispatchBatch_ok_iff]
  constructor
  · intro h c hc
    have hbody := (hfair _ (request_mem hc)).not_nestsTooDeep
    obtain ⟨call, hcall, rfl⟩ := List.mem_map.1 hc
    exact (isRelayed_iff_not_lost hbody).1 (h call hcall)
  · intro h call hcall
    have hc : (⟨call.1, peer, now, call.2⟩ : HttpCall) ∈ ofBatch peer now timeout requests := List.mem_map_of_mem hcall
    exact (isRelayed_iff_not_lost (hfair _ (request_mem hc)).not_nestsTooDeep).2 (h _ hc)

/-- The entries of a batch have no integers of too many digits. -/
theorem HttpCall.short_batch {peer : Peer} {now : Moment} {timeout : Binary64} {requests : List RelayRequest}
    {result : BatchResult} (h : (batch peer now timeout requests).outcome = .ok result) : (Payload.batch result).Short := by
  intro entry hentry
  obtain ⟨call, hcall, status, body, hresult, rfl⟩ := mem_successes_dispatchBatch h hentry
  exact short_of_answered (c := ⟨call.1, peer, now, call.2⟩) hresult

/-- The report of what a batch came to. -/
def batchReport (outcome : Except Defect BatchResult) : CommandReport :=
  match outcome with
  | .error defect => .escape (.defect defect)
  | .ok result => .payload 0 .indented (.batch result)

/-- **A batch** on a file that is a text and names requests. -/
theorem batchCommand_relay (world : World) (path : Text) {content : Octets} (timeout : Binary64) {t : Text}
    {requests : List RelayRequest} (ht : Utf8.read false content = .ok t) (hrequests : decodeBatch (withLineFeeds t) = .ok requests) :
    ∃ log sent, batchCommand world path content timeout =
      (batchReport (dispatchBatch world.surroundings.relay (HttpSession.new timeout) requests).outcome).during log sent := by
  refine ⟨(dispatchBatch world.surroundings.relay (HttpSession.new timeout) requests).log,
    (dispatchBatch world.surroundings.relay (HttpSession.new timeout) requests).state.sent, ?_⟩
  simp only [batchCommand, ht, hrequests]
  rfl

/-- A batch over HTTP. -/
theorem batchCommand_calls (world : World) (peer : Peer) (now : Moment) (path : Text) {content : Octets}
    (timeout : Binary64) {t : Text} {requests : List RelayRequest} (ht : Utf8.read false content = .ok t)
    (hrequests : decodeBatch (withLineFeeds t) = .ok requests) :
    ∃ log sent, batchCommand (world.over peer now) path content timeout =
      (batchReport (HttpCall.batch peer now timeout requests).outcome).during log sent :=
  batchCommand_relay (world.over peer now) path timeout ht hrequests

end WebhookBridge
