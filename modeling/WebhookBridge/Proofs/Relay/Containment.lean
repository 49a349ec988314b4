import WebhookBridge.Dispatch.Schedule
import WebhookBridge.Proofs.Dispatch.Aggregation
import WebhookBridge.Proofs.Json.Levels
import WebhookBridge.Proofs.Json.Parts

/-!
# Where relay calls end

A relay call is meant to end in one of four ways: with one of three relay errors, or with the status and the value of the
last response. One thing gets past all of them: an array or an object inside too many others, in the body that is posted
or in the content of the last response. Such a call meets a defect, which goes up through whoever dispatched it and makes
a batch fail as a whole.

## Contents

* `Json.Writable`, `Json.NestsTooDeep`: whether a body has a JSON text;
* `HttpCall`: a call over HTTP, with everything it depends on;
* `HttpCall.Contained`: the four ways to end; `HttpCall.Escapes`: the way past them;
* `HttpCall.calls_contained_iff`: calls, dispatches and batches end as they should exactly if nothing escapes.
-/

namespace WebhookBridge

/-! ## Bodies -/

namespace Json

/-- A value can be written if each of its parts can. -/
def Writable (v : Json) : Prop := ∀ part ∈ v.parts 0, partFault? maxNesting part = none

/-- Of all parts that cannot be written the first is an array or an object inside too many others. -/
def NestsTooDeep (v : Json) : Prop := (v.parts 0).findSome? (partFault? maxNesting) = some .tooDeep

/-- Of lists around one another the first one too many is at fault, whatever they hold. -/
theorem fault_parts_nest (inner : Json) {limit : Nat} (n level : Nat) (hle : level ≤ limit) (hlt : limit < level + n) :
    ((nest inner n).parts level).findSome? (partFault? limit) = some .tooDeep := by
  induction n generalizing level with
  | zero => omega
  | succ n ih =>
      rw [nest, parts, elementParts, elementParts, List.append_nil, List.findSome?_cons, partFault?]
      -- either this list is the one too many, or it is one of those inside it
      by_cases hlimit : limit ≤ level
      · rw [if_pos hlimit]
      · rw [if_neg hlimit]
        exact ih (level + 1) (by omega) (by omega)

theorem nestsTooDeep_nest (inner : Json) {n : Nat} (h : maxNesting < n) : (nest inner n).NestsTooDeep :=
  fault_parts_nest inner n 0 (Nat.zero_le _) (by omega)

end Json

/-- Writing a body fails with the first fault of a part. -/
theorem fault_bodyOctets (body : Json) :
    faultOf? (bodyOctets body) = (body.parts 0).findSome? (Json.partFault? Json.maxNesting) := by
  rw [bodyOctets, faultOf?_map]
  exact Json.fault_printAt .inline Json.maxNesting 0 body

/-- A body is written exactly if it can be written. -/
theorem bodyOctets_ok_iff {body : Json} : (∃ content, bodyOctets body = .ok content) ↔ body.Writable := by
  have hfault := fault_bodyOctets body
  cases hbody : bodyOctets body with
  | ok content =>
      rw [hbody, faultOf?_ok, eq_comm, List.findSome?_eq_none_iff] at hfault
      exact iff_of_true ⟨content, rfl⟩ hfault
  | error fault =>
      refine iff_of_false (by simp) fun hwritable => ?_
      rw [hbody, List.findSome?_eq_none_iff.2 hwritable] at hfault
      cases hfault

theorem bodyOctets_tooDeep_iff {body : Json} : bodyOctets body = .error .tooDeep ↔ body.NestsTooDeep := by
  rw [Json.NestsTooDeep, ← fault_bodyOctets]
  cases bodyOctets body with
  | ok content => simp
  | error fault => simp

/-! ## Calls -/

/-- A call over HTTP: the session that it belongs to, its peer, the time, and what is posted where. -/
structure HttpCall where
  session : HttpSession
  peer : Peer
  now : Moment
  request : RelayRequest

namespace HttpCall

variable (c : HttpCall)

/-- What the peer sends back, given the requests of this call so far. -/
def answers : Peer := fun sent => c.peer (c.session.sent ++ sent)

/-- What the call comes to. -/
def report : CallReport := c.session.relay.post c.answers c.now c.request.url c.request.body

/-- The exchange in which some content is posted. -/
def exchange (content : Octets) : Exchange :=
  WebhookBridge.exchange c.answers c.now c.session.relay.isOpen c.session.relay.jar c.request.url content

/-- The body is written and the exchange ends with a result. -/
def Exchanges (result : Except ExchangeFault HttpResponse) : Prop :=
  ∃ content, bodyOctets c.request.body = .ok content ∧ (c.exchange content).result = result

/-- The HTTP client reports every failure of an exchange as one of the connection or of the URL. -/
def ClientKeeps : Prop := ∀ defect, ¬ c.Exchanges (.error (.met defect))

/-- **The four ways to end**: the body cannot be written and nothing is sent; the exchange fails; the last response denotes
    no value; or else its status is passed on, with the value. -/
inductive Contained : Prop where
  | unwritten (message : Text) (hbody : ¬ c.request.body.Writable)
      (hresult : c.report.result = .failed (serializationError c.request.url message)) (hsent : c.report.sent = [])
  | unanswered (fault : ExchangeFault) (reason : Text) (hexchange : c.Exchanges (.error fault))
      (hresult : c.report.result = .failed (transportError c.request.url reason))
  | undecoded (r : HttpResponse) (message : Text) (hexchange : c.Exchanges (.ok r))
      (hcontent : ∀ v, ¬ Json.Lenient.Denotes r.content v)
      (hresult : c.report.result = .failed (decodeError c.request.url r.status message))
  | answered (r : HttpResponse) (v : Json) (hexchange : c.Exchanges (.ok r))
      (hcontent : Json.Lenient.Denotes r.content v) (hresult : c.report.result = .answered r.status v)

/-- **The way past them**: the body nests too deeply to be written, or the last response to be read. -/
def Escapes : Prop := c.request.body.NestsTooDeep ∨ ∃ r, c.Exchanges (.ok r) ∧ Json.Lenient.GivesUp r.content

variable {c}

theorem report_unwritten {fault : Json.PrintFault} (hbody : bodyOctets c.request.body = .error fault) :
    c.report.result = unprintableResult c.request.url fault ∧ c.report.sent = [] := by
  rw [report, HttpRelay.post, hbody]
  exact ⟨rfl, rfl⟩

theorem report_unanswered {fault : ExchangeFault} (h : c.Exchanges (.error fault)) :
    c.report.result = faultResult c.session.relay.timeout c.request.url fault := by
  obtain ⟨content, hbody, hresult⟩ := h
  rw [exchange] at hresult
  simp only [report, HttpRelay.post, hbody, hresult]

theorem report_answered {r : HttpResponse} (h : c.Exchanges (.ok r)) :
    c.report.result = responseResult c.request.url r := by
  obtain ⟨content, hbody, hresult⟩ := h
  rw [exchange] at hresult
  simp only [report, HttpRelay.post, hbody, hresult]

/-- There is one exchange at most. -/
theorem Exchanges.unique {result other : Except ExchangeFault HttpResponse} (h : c.Exchanges result)
    (h' : c.Exchanges other) : result = other := by
  obtain ⟨content, hbody, rfl⟩ := h
  obtain ⟨content', hbody', rfl⟩ := h'
  rw [hbody] at hbody'
  cases hbody'
  rfl

/-- A body that is not written makes no exchange. -/
theorem not_exchanges {fault : Json.PrintFault} (hbody : bodyOctets c.request.body = .error fault)
    (result : Except ExchangeFault HttpResponse) : ¬ c.Exchanges result := by
  rintro ⟨content, hbody', -⟩
  rw [hbody] at hbody'
  cases hbody'

/-- A call that is contained ends with an answer or a relay error. -/
theorem Contained.not_met (h : c.Contained) (defect : Defect) : c.report.result ≠ .met defect := by
  intro hmet
  cases h with
  | unwritten message _ hresult _ => rw [hmet] at hresult; cases hresult
  | unanswered fault reason _ hresult => rw [hmet] at hresult; cases hresult
  | undecoded r message _ _ hresult => rw [hmet] at hresult; cases hresult
  | answered r v _ _ hresult => rw [hmet] at hresult; cases hresult

/-- **A call that escapes** meets a defect. -/
theorem Escapes.met (h : c.Escapes) : c.report.result = .met .tooDeep := by
  rcases h with hdeep | ⟨r, hexchange, hup⟩
  · exact (report_unwritten (bodyOctets_tooDeep_iff.2 hdeep)).1
  · obtain ⟨fault, hread, htooDeep⟩ := Json.Lenient.readDocument_tooDeep_iff.2 hup
    rw [report_answered hexchange]
    simp only [responseResult, hread, htooDeep, if_true]

/-- A call with a last response that is not nested too deeply ends with its value or with what is wrong with it. -/
theorem contained_of_answered {r : HttpResponse} (hexchange : c.Exchanges (.ok r))
    (hup : ¬ Json.Lenient.GivesUp r.content) : c.Contained := by
  have hreport := report_answered hexchange
  rw [responseResult] at hreport
  -- what is read decides between the last two ways to end
  cases hdoc : Json.Lenient.readDocument r.content with
  | ok v =>
      rw [hdoc] at hreport
      exact .answered r v hexchange (Json.Lenient.readDocument_ok_iff.1 hdoc).1 hreport
  | error fault =>
      have hform : fault.isTooDeep = false := by
        rw [← Bool.not_eq_true]
        exact fun hdeep => hup (Json.Lenient.readDocument_tooDeep_iff.1 ⟨fault, hdoc, hdeep⟩)
      have hcontent := (Json.Lenient.readDocument_malformed_iff.1 ⟨fault, hdoc, hform⟩).1
      rw [hdoc] at hreport
      simp only [hform, Bool.false_eq_true, if_false] at hreport
      exact .undecoded r fault.message hexchange hcontent hreport

/-- **A call that does not escape** ends in one of the four ways. -/
theorem contained_of_not_escapes (hkeeps : c.ClientKeeps) (h : ¬ c.Escapes) : c.Contained := by
  rw [Escapes, not_or] at h
  obtain ⟨hshallow, hread⟩ := h
  cases hbody : bodyOctets c.request.body with
  | error fault =>
      obtain ⟨hresult, hsent⟩ := report_unwritten hbody
      -- the only fault that is no relay error is excluded, as the body does not nest too deeply
      have hfault : fault ≠ .tooDeep := fun he => hshallow (bodyOctets_tooDeep_iff.1 (by rw [hbody, he]))
      have hwritten : ¬ c.request.body.Writable := by
        rw [← bodyOctets_ok_iff, hbody]
        simp
      refine .unwritten fault.message hwritten ?_ hsent
      rw [hresult]
      cases fault with
      | tooDeep => exact absurd rfl hfault
      | notFinite => rfl
      | integerTooLong => rfl
      | foreign kind => rfl
  | ok content =>
      cases hresult : (c.exchange content).result with
      | error fault =>
          have hexchange : c.Exchanges (.error fault) := ⟨content, hbody, hresult⟩
          have hreport := report_unanswered hexchange
          -- a defect of the exchange is what the client does not let through
          cases fault with
          | silence => exact .unanswered _ _ hexchange hreport
          | timedOut => exact .unanswered _ _ hexchange hreport
          | failed reason => exact .unanswered _ _ hexchange hreport
          | met defect => exact absurd hexchange (hkeeps defect)
      | ok r =>
          have hexchange : c.Exchanges (.ok r) := ⟨content, hbody, hresult⟩
          exact contained_of_answered hexchange fun hup => hread ⟨r, hexchange, hup⟩

/-! ## Dispatches -/

variable (c) in
/-- The request of the call, dispatched by itself. -/
def dispatched : Dispatched HttpSession Outcome := dispatchOne (Relay.http c.peer c.now) c.session c.request

/-- A dispatch has an outcome exactly if its call meets no defect. -/
theorem dispatched_ok_iff : (∃ o, c.dispatched.outcome = .ok o) ↔ ∀ defect, c.report.result ≠ .met defect := by
  have houtcome : c.dispatched.outcome = (settleCall c.request.url c.report.result).1 := rfl
  rw [houtcome]
  cases c.report.result with
  | answered status body => simp [settleCall]
  | failed e => simp [settleCall]
  | met defect => simp [settleCall]

/-- Every call of a batch that ends has come to what the call over HTTP has come to. -/
def EndsAs (calls : List HttpCall) (actions : List BatchRun.Action) : Prop :=
  ∀ i result, .finish i result ∈ actions → ∃ c, calls[i]? = some c ∧ c.report.result = result

theorem isRelayed_iff (hkeeps : c.ClientKeeps) : c.report.result.IsRelayed ↔ ¬ c.Escapes := by
  constructor
  · intro hr hescapes
    rw [hescapes.met] at hr
    exact hr
  · intro hescapes
    have hmet := (contained_of_not_escapes hkeeps hescapes).not_met
    cases hresult : c.report.result with
    | answered status body => trivial
    | failed e => trivial
    | met defect => exact absurd hresult (hmet defect)

/-- A batch of calls over HTTP returns its entries exactly if no call escapes. -/
theorem batch_returns_iff {calls : List HttpCall} (hkeeps : ∀ c ∈ calls, c.ClientKeeps)
    {actions : List BatchRun.Action} (h : BatchRun.IsSchedule (calls.map (·.request)).length actions)
    (hends : EndsAs calls actions) :
    (∃ entries, ((BatchRun.create (calls.map (·.request))).performAll actions).returned? = some (.ok entries)) ↔
      ∀ c ∈ calls, ¬ c.Escapes := by
  rw [h.returns_iff]
  constructor
  · intro hr c hc
    obtain ⟨i, hi, rfl⟩ := List.getElem_of_mem hc
    -- every call of the batch ends, and as the one at its position
    have hended : i ∈ BatchRun.ended actions := h.endsEach.mem_iff.2 (List.mem_range.2 (by simpa using hi))
    obtain ⟨result, hfinish⟩ := BatchRun.mem_ended.1 hended
    obtain ⟨c, hget, hresult⟩ := hends i result hfinish
    rw [List.getElem?_eq_getElem hi] at hget
    cases hget
    rw [← isRelayed_iff (hkeeps _ hc), hresult]
    exact hr i result hfinish
  · intro hcalls i result hfinish
    obtain ⟨c, hget, hresult⟩ := hends i result hfinish
    have hc := List.mem_of_getElem? hget
    rw [← hresult, isRelayed_iff (hkeeps c hc)]
    exact hcalls c hc

/-- **Where relay calls end.** As long as the HTTP client reports every failure as one of the connection or of the URL, a
    call ends in one of the four ways, and its dispatch has an outcome, exactly if nothing nests too deeply; otherwise it
    meets a defect. In whatever order the calls of a batch are made and end, the batch returns its entries exactly if no
    call escapes. -/
theorem calls_contained_iff (calls : List HttpCall) (hkeeps : ∀ c ∈ calls, c.ClientKeeps) :
    (∀ c ∈ calls, (c.Contained ↔ ¬ c.Escapes) ∧ ((∃ o, c.dispatched.outcome = .ok o) ↔ ¬ c.Escapes) ∧
      (c.Escapes → c.report.result = .met .tooDeep)) ∧
    ∀ actions, BatchRun.IsSchedule (calls.map (·.request)).length actions → EndsAs calls actions →
      ((∃ entries, ((BatchRun.create (calls.map (·.request))).performAll actions).returned? = some (.ok entries)) ↔
        ∀ c ∈ calls, ¬ c.Escapes) := by
  refine ⟨fun c hc => ⟨⟨?_, ?_⟩, ?_, Escapes.met⟩, fun actions h hends => batch_returns_iff hkeeps h hends⟩
  · exact fun hcontained hescapes => hcontained.not_met .tooDeep hescapes.met
  · exact contained_of_not_escapes (hkeeps c hc)
  · rw [dispatched_ok_iff]
    constructor
    · exact fun hmet hescapes => hmet .tooDeep hescapes.met
    · exact fun hescapes => (contained_of_not_escapes (hkeeps c hc) hescapes).not_met

/-- A call to a peer that answers with some content. -/
def answeredWith (content : Octets) : HttpCall where
  session := HttpSession.new (Binary64.ofInt 10)
  peer := fun _ => .response ⟨200, [], content⟩
  now := ⟨0, 1970⟩
  request := ⟨"http://t/", .null⟩

theorem exchanges_answeredWith (content : Octets) : (answeredWith content).Exchanges (.ok ⟨200, [], content⟩) :=
  ⟨Utf8.encode "null", rfl, rfl⟩

theorem clientKeeps_answeredWith (content : Octets) : (answeredWith content).ClientKeeps := by
  intro defect hexchange
  cases hexchange.unique (exchanges_answeredWith content)

theorem escapes_answeredWith_iff (content : Octets) : (answeredWith content).Escapes ↔ Json.Lenient.GivesUp content := by
  constructor
  · rintro (hdeep | ⟨r, hexchange, hup⟩)
    · exact absurd (exchanges_answeredWith content) (not_exchanges (bodyOctets_tooDeep_iff.2 hdeep) _)
    · cases hexchange.unique (exchanges_answeredWith content)
      exact hup
  · exact fun hup => Or.inr ⟨_, exchanges_answeredWith content, hup⟩

theorem calls_contained_iff_seven :
    (answeredWith (Utf8.encode "7")).ClientKeeps ∧ (answeredWith (Utf8.encode "7")).Contained ∧
      ∃ o, (answeredWith (Utf8.encode "7")).dispatched.outcome = .ok o := by
  have hkeeps := clientKeeps_answeredWith (Utf8.encode "7")
  have hread : (faultOf? (Json.Lenient.readDocument (Utf8.encode "7"))).isNone = true := by decide +kernel
  have hescapes : ¬ (answeredWith (Utf8.encode "7")).Escapes := by
    rw [escapes_answeredWith_iff, ← Json.Lenient.readDocument_tooDeep_iff]
    rintro ⟨fault, hdoc, -⟩
    rw [hdoc] at hread
    cases hread
  obtain ⟨hcontained, hdispatched, -⟩ :=
    (calls_contained_iff [answeredWith (Utf8.encode "7")] (by simp [hkeeps])).1 _ (List.mem_singleton.2 rfl)
  exact ⟨hkeeps, hcontained.2 hescapes, hdispatched.2 hescapes⟩

/-- Three thousand opening brackets, which are more arrays than may stand inside one another. -/
def brackets : Octets := List.replicate 3000 91

theorem givesUp_brackets : Json.Lenient.GivesUp brackets := by
  have hdeep : (faultOf? (Json.Lenient.readDocument brackets)).any (·.isTooDeep) = true := by decide +kernel
  rw [← Json.Lenient.readDocument_tooDeep_iff]
  cases hread : Json.Lenient.readDocument brackets with
  | ok v => rw [hread] at hdeep; cases hdeep
  | error fault => rw [hread] at hdeep; exact ⟨fault, rfl, hdeep⟩

/-- A peer that answers with brackets gets past the relay errors, and makes the batch fail that a harmless call is in. So does
    a body of as many lists around one another, to whatever peer. -/
theorem brackets_escape :
    (answeredWith brackets).session.relay.isOpen = true ∧ (answeredWith brackets).ClientKeeps ∧
    ¬ (answeredWith brackets).Contained ∧ (¬ ∃ o, (answeredWith brackets).dispatched.outcome = .ok o) ∧
    (∀ actions, BatchRun.IsSchedule 2 actions → EndsAs [answeredWith (Utf8.encode "7"), answeredWith brackets] actions →
      ¬ ∃ entries, ((BatchRun.create [⟨"http://t/", .null⟩, ⟨"http://t/", .null⟩]).performAll actions).returned?
        = some (.ok entries)) ∧
    ∀ content, ¬ { answeredWith content with request := ⟨"http://t/", .nest .null 3000⟩ }.Contained := by
  have hescapes := (escapes_answeredWith_iff brackets).2 givesUp_brackets
  refine ⟨rfl, clientKeeps_answeredWith brackets, fun h => h.not_met .tooDeep hescapes.met, ?_, ?_, ?_⟩
  · rw [dispatched_ok_iff]
    exact fun hmet => hmet .tooDeep hescapes.met
  · intro actions h hends hreturned
    have hkeeps : ∀ c ∈ [answeredWith (Utf8.encode "7"), answeredWith brackets], c.ClientKeeps := by
      simp [clientKeeps_answeredWith]
    have hall := (batch_returns_iff hkeeps h hends).1 hreturned
    exact hall (answeredWith brackets) (by simp) hescapes
  · intro content hcontained
    have hnested : { answeredWith content with request := ⟨"http://t/", .nest .null 3000⟩ }.Escapes :=
      .inl (Json.nestsTooDeep_nest .null (by decide))
    exact hcontained.not_met .tooDeep hnested.met

end HttpCall

end WebhookBridge
