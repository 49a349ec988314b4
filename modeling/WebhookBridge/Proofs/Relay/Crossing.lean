import WebhookBridge.Proofs.Json.Ascii
import WebhookBridge.Proofs.Json.Printed
import WebhookBridge.Proofs.Relay.Bodies

/-!
# Bodies across the relay

A body that was decoded goes out as a JSON text in ASCII, unless it holds a number that is not finite or an integer of too
many digits. The text denotes the body. So a peer that sends back what it has received gives the body back: the same values,
in the same places, code point by code point and digit by digit.

## Contents

* `Json.Unwritable`, `HttpCall.serialization_iff`: bodies that are not sent;
* `RelayRequest.IsFair.readDocument_octets`: octets that are sent;
* `Peer.Echoes`, `HttpCall.exchange_echoed`: peers that send back what they have received;
* `HttpCall.body_crosses`: bodies across the relay.
-/

namespace WebhookBridge

/-! ## Bodies that are not sent -/

/-- A number that is not finite, or an integer of too many digits. -/
def Json.Unwritable : Nat × Json → Prop
  | (_, .float x) => x.isFinite = false
  | (_, .int n) => ¬ n.natAbs < Nat.pow 10 Whole.maxDigits
  | _ => False

/-- A part from a JSON text cannot be written exactly if it is such a number. -/
theorem Json.Fair.unwritable_iff {part : Nat × Json} (h : Fair part) : Unwritable part ↔ partFault? maxNesting part ≠ none := by
  obtain ⟨-, hfault⟩ := h
  obtain ⟨level, v⟩ := part
  -- what nests too deeply or is foreign does not come from a JSON text
  have hnone : ∀ {v : Json}, (∀ fault, partFault? maxNesting (level, v) = some fault → fault = .notFinite) →
      partFault? maxNesting (level, v) ≠ some .notFinite → partFault? maxNesting (level, v) = none := by
    intro v hfault hne
    cases h : partFault? maxNesting (level, v) with
    | none => rfl
    | some fault =>
        rw [hfault fault h] at h
        exact absurd h hne
  cases v with
  | null => simp [Unwritable, partFault?]
  | bool _ => simp [Unwritable, partFault?]
  | str _ => simp [Unwritable, partFault?]
  | int n =>
      by_cases hn : n.natAbs < Nat.pow 10 Whole.maxDigits
      · rw [Unwritable, partFault?, if_pos hn]
        simp only [ne_eq, not_true_eq_false, iff_false, not_not]
        exact hn
      · rw [Unwritable, partFault?, if_neg hn]
        simp only [ne_eq, reduceCtorEq, not_false_eq_true, iff_true]
        exact hn
  | float x => cases hx : x.isFinite <;> simp [Unwritable, partFault?, hx]
  | arr vs =>
      have hne : partFault? maxNesting (level, .arr vs) ≠ some .notFinite := by
        rw [partFault?]
        split <;> simp
      simp [Unwritable, hnone hfault hne]
  | obj ms =>
      have hne : partFault? maxNesting (level, .obj ms) ≠ some .notFinite := by
        rw [partFault?]
        split <;> simp
      simp [Unwritable, hnone hfault hne]
  | foreign kind => simp [Unwritable, hnone hfault (by simp [partFault?])]

theorem RelayRequest.IsFair.writable_iff {r : RelayRequest} (h : r.IsFair) :
    r.body.Writable ↔ ¬ ∃ part ∈ r.body.parts 0, Json.Unwritable part := by
  constructor
  · rintro hwritable ⟨part, hpart, hnot⟩
    exact (h.body part hpart).unwritable_iff.1 hnot (hwritable part hpart)
  · intro hnot part hpart
    exact Classical.byContradiction fun hfault => hnot ⟨part, hpart, (h.body part hpart).unwritable_iff.2 hfault⟩

namespace HttpCall

variable {c : HttpCall}

/-- **A body is not sent** exactly if the call fails to write it. -/
theorem serialization_iff (hbody : ¬ c.request.body.NestsTooDeep) :
    (∃ e, c.report.result = .failed e ∧ e.kind = .serialization) ↔ ¬ c.request.body.Writable := by
  rw [← bodyOctets_ok_iff]
  cases hoctets : bodyOctets c.request.body with
  | error fault =>
      have hfault : fault ≠ .tooDeep := fun he => hbody (bodyOctets_tooDeep_iff.1 (by rw [hoctets, he]))
      refine iff_of_true ?_ (by simp)
      rw [(report_unwritten hoctets).1]
      cases fault with
      | tooDeep => exact absurd rfl hfault
      | notFinite => exact ⟨_, rfl, rfl⟩
      | integerTooLong => exact ⟨_, rfl, rfl⟩
      | foreign kind => exact ⟨_, rfl, rfl⟩
  | ok content =>
      -- whatever the exchange comes to is no error of this kind
      refine iff_of_false ?_ (by simp)
      rintro ⟨e, he, hkind⟩
      cases hresult : (c.exchange content).result with
      | error fault =>
          rw [report_unanswered ⟨content, hoctets, hresult⟩] at he
          cases fault <;> cases he <;> cases hkind
      | ok r =>
          rw [report_answered ⟨content, hoctets, hresult⟩, responseResult] at he
          split at he
          · cases he
          · split at he
            · cases he
            · cases he
              cases hkind

end HttpCall

/-! ## Octets that are sent -/

/-- **The octets of a body** are ASCII, and are read as the body. -/
theorem RelayRequest.IsFair.readDocument_octets {r : RelayRequest} (h : r.IsFair) {content : Octets}
    (hcontent : bodyOctets r.body = .ok content) :
    Octets.Ascii content ∧ Json.Lenient.readDocument content = .ok r.body := by
  obtain ⟨t, ht, rfl⟩ := Json.map_eq_ok_iff.1 hcontent
  have hascii := Json.ascii_print ht
  have hread := Json.Lenient.readAll_of_print .inline ht fun part hpart => (h.body part hpart).1
  refine ⟨Utf8.ascii_encode hascii, ?_⟩
  rw [Json.Lenient.readDocument, decodeDocument_encode_ascii hascii]
  simp only [hread]
  rfl

/-! ## Peers that send back what they have received -/

/-- A peer that answers every request with the octets that it carries, whatever coding it sends them in, and sends nobody on. -/
def Peer.Echoes (peer : Peer) : Prop :=
  ∀ before request, ∃ r, peer (before ++ [request]) = .response r ∧ r.content = request.content ∧ redirectLocation? r = none

theorem content_firstRequest {now : Moment} {jar : CookieJar} {url : Text} {content : Octets} {request : HttpRequest}
    (h : firstRequest now jar url content = .ok request) : request.content = content := by
  obtain ⟨u, -, h⟩ := Json.bind_eq_ok.1 h
  obtain ⟨cookie, -, h⟩ := Json.bind_eq_ok.1 h
  obtain ⟨host, -, h⟩ := Json.bind_eq_ok.1 h
  cases h
  rfl

namespace HttpCall

variable {c : HttpCall}

/-- An exchange in which something is sent to such a peer is one request and its answer. -/
theorem exchange_echoed (hecho : c.peer.Echoes) {content : Octets} (hsent : (c.exchange content).sent ≠ []) :
    ∃ request r, (c.exchange content).sent = [request] ∧ request.content = content ∧ (c.exchange content).result = .ok r ∧
      r.content = content := by
  unfold exchange WebhookBridge.exchange at hsent ⊢
  split at hsent
  · exact absurd rfl hsent
  · rename_i request hrequest
    have hcontent := content_firstRequest hrequest
    split at hsent
    · rename_i hopen
      rw [if_pos hopen]
      obtain ⟨r, hanswer, hback, hlocation⟩ := hecho c.session.sent request
      have hpeer : c.answers [request] = .response r := hanswer
      rw [show maxHops = 20 + 1 from rfl, exchangeFrom] at hsent ⊢
      split at hsent
      · exact absurd rfl hsent
      · rename_i hscheme
        simp only [hscheme, List.nil_append, hpeer, hlocation, if_false, Bool.false_eq_true]
        exact ⟨request, r, rfl, hcontent, rfl, hback.trans hcontent⟩
    · exact absurd rfl hsent

/-- **Bodies cross the relay.** The body of a decoded request fails to be written exactly if it holds a number that is not
    finite or an integer of too many digits. A peer that answers what it has received has received one request, whose content
    is ASCII and denotes the body, and the call is answered with the body itself. -/
theorem body_crosses (c : HttpCall) {t : Text} (hdecode : RelayRequest.decode t = .ok c.request) :
    ((∃ e, c.report.result = .failed e ∧ e.kind = .serialization) ↔
      ∃ part ∈ c.request.body.parts 0, Json.Unwritable part) ∧
    (c.peer.Echoes → c.report.sent ≠ [] → ∃ request status, c.report.sent = [request] ∧ Octets.Ascii request.content ∧
      Json.Lenient.Denotes request.content c.request.body ∧ c.report.result = .answered status c.request.body) := by
  have hfair := RelayRequest.isFair_of_decode hdecode
  refine ⟨?_, fun hecho hsent => ?_⟩
  · rw [serialization_iff hfair.not_nestsTooDeep, hfair.writable_iff, not_not]
  · cases hoctets : bodyOctets c.request.body with
    | error fault => exact absurd (report_unwritten hoctets).2 hsent
    | ok content =>
        obtain ⟨hascii, hread⟩ := hfair.readDocument_octets hoctets
        have hreported : c.report.sent = (c.exchange content).sent := by
          rw [report, HttpRelay.post, hoctets]
          dsimp only [exchange]
          split <;> rfl
        rw [hreported] at hsent
        obtain ⟨request, r, hrequests, hcontent, hresult, hback⟩ := exchange_echoed hecho hsent
        refine ⟨request, r.status, hreported.trans hrequests, hcontent ▸ hascii, ?_, ?_⟩
        · rw [hcontent]
          exact (Json.Lenient.readDocument_ok_iff.1 hread).1
        · rw [report_answered ⟨content, hoctets, hresult⟩, responseResult, hback, hread]

/-- A peer that answers with what it has received last. -/
def echo : Peer := fun sent => .response ⟨200, [], (sent.getLast?.map (·.content)).getD []⟩

theorem echoes_echo : echo.Echoes := by
  intro before request
  refine ⟨_, rfl, ?_, rfl⟩
  simp

/-- A call to such a peer. -/
def echoed (body : Json) : HttpCall := ⟨HttpSession.new (Binary64.ofInt 10), echo, ⟨0, 1970⟩, ⟨"http://t/", body⟩⟩

/-- A letter beyond ASCII, an integer and a null. -/
def mixedBody : Json := .arr [.str [CodePoint.ofNat 0xE9], .int (-7), .null]

set_option maxRecDepth 2000 in
theorem decode_mixed :
    RelayRequest.decode "\x7b\"url\":\"http://t/\",\"body\":[\"é\",-7,null]\x7d" = .ok ⟨"http://t/", mixedBody⟩ := by
  cbv

set_option maxRecDepth 2000 in
theorem decode_notANumber :
    RelayRequest.decode "\x7b\"url\":\"http://t/\",\"body\":[NaN]\x7d" = .ok ⟨"http://t/", .arr [.float .nan]⟩ := by
  cbv

theorem body_crosses_mixed :
    (∃ t, RelayRequest.decode t = .ok (echoed mixedBody).request) ∧ (echoed mixedBody).peer.Echoes ∧
      (echoed mixedBody).report.sent ≠ [] ∧ (∃ status, (echoed mixedBody).report.result = .answered status mixedBody) ∧
      (∃ t, RelayRequest.decode t = .ok (echoed (.arr [.float .nan])).request) ∧
      ∃ e, (echoed (.arr [.float .nan])).report.result = .failed e ∧ e.kind = .serialization := by
  have hsent : (echoed mixedBody).report.sent ≠ [] := by
    have hone : (echoed mixedBody).report.sent.length = 1 := by decide +kernel
    intro hnone
    rw [hnone] at hone
    cases hone
  obtain ⟨request, status, -, -, -, hresult⟩ := (body_crosses (echoed mixedBody) decode_mixed).2 echoes_echo hsent
  have hunwritable : ∃ part ∈ (echoed (.arr [.float .nan])).request.body.parts 0, Json.Unwritable part :=
    ⟨(1, .float .nan), .tail _ (.head _), rfl⟩
  have hfailed := (body_crosses (echoed (.arr [.float .nan])) decode_notANumber).1.2 hunwritable
  exact ⟨⟨_, decode_mixed⟩, echoes_echo, hsent, ⟨status, hresult⟩, ⟨_, decode_notANumber⟩, hfailed⟩

end HttpCall

end WebhookBridge
