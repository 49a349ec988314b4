import WebhookBridge.Relay.Post

/-!
# What earlier calls have to do with later ones

The calls of a relay share its client, and the client keeps the cookies that responses ask for. So what a peer answered to
one call shows in the requests of a later one; and if there are cookies at all, a URL without a scheme is no longer turned
down by the connection but by whoever judges the cookies. Nothing else goes from one call to another: two calls whose
requests carry the same cookies are the same call, whatever went before them.

## Contents

* `PastCall`, `HttpRelay.after`: a relay with a history;
* `Exchange.ToldByCookies`: exchanges that only cookies can tell apart;
* `Dressed`: what a jar makes of a request that was prepared without cookies;
* `toldByCookies_exchangeFrom`, `toldByCookies_exchange`: exchanges from two jars;
* `HttpRelay.later_calls_agree_iff`: when a call comes to the same after two histories.
-/

namespace WebhookBridge

/-! ## Histories -/

/-- A call that was made of a relay: who answered it, when it was made, and what was posted where. -/
structure PastCall where
  peer : Peer
  now : Moment
  url : Text
  body : Json

/-- The relay after some calls. -/
def HttpRelay.after (relay : HttpRelay) (history : List PastCall) : HttpRelay :=
  history.foldl (fun relay c => (relay.post c.peer c.now c.url c.body).relay) relay

/-- No response of the peer asks for a cookie. -/
def Peer.AsksNoCookie (peer : Peer) : Prop := ∀ sent r, peer sent = .response r → r.headerValues "set-cookie" = []

/-! ## Exchanges that only cookies tell apart -/

namespace Exchange

/-- The cookies that the requests of an exchange carry. -/
def cookies (e : Exchange) : List (Option Text) := e.sent.map (·.cookie)

/-- The exchange ends because cookies cannot be judged for a URL without a scheme. -/
def Unjudged (e : Exchange) : Prop := ∃ t, e.result = .error (.met (.missingScheme t))

/-- **Only cookies can tell** two exchanges apart: if their requests carry the same ones, and cookies are the end of both or
    of neither, then the requests and the results are the same. -/
def ToldByCookies (e e' : Exchange) : Prop :=
  e.cookies = e'.cookies → (e.Unjudged ↔ e'.Unjudged) → e.sent = e'.sent ∧ e.result = e'.result

variable {e e' : Exchange}

theorem ToldByCookies.symm (h : e.ToldByCookies e') : e'.ToldByCookies e := by
  intro hcookies hunjudged
  obtain ⟨hsent, hresult⟩ := h hcookies.symm hunjudged.symm
  exact ⟨hsent.symm, hresult.symm⟩

theorem toldByCookies_of_same (hsent : e.sent = e'.sent) (hresult : e.result = e'.result) : e.ToldByCookies e' :=
  fun _ _ => ⟨hsent, hresult⟩

theorem toldByCookies_of_unjudged (h : e.Unjudged) (h' : ¬ e'.Unjudged) : e.ToldByCookies e' :=
  fun _ hunjudged => absurd (hunjudged.1 h) h'

end Exchange

/-! ## Requests and the jar -/

/-- The request with other cookies. -/
def HttpRequest.withCookie (request : HttpRequest) (cookie : Option Text) : HttpRequest := { request with cookie := cookie }

/-- **What a jar makes of a request** that is prepared without cookies: the request gets the cookies of the jar, or they
    cannot be judged. The latter only comes in the way of a URL without a scheme, before anyone has looked at its host. -/
inductive Dressed (url : Text) (plain : Except ExchangeFault HttpRequest) : Except ExchangeFault HttpRequest → Prop
  | cookies (cookie : Option Text) : Dressed url plain (plain.map (·.withCookie cookie))
  | unjudged (h : (∃ message, plain = .error (.met (.hostname message))) ∨
      ∃ request, plain = .ok request ∧ request.url.scheme = []) : Dressed url plain (.error (.met (.missingScheme url)))

/-- A request is prepared from a jar, which decides about nothing but the cookies. -/
def DressedByJar (prepare : CookieJar → Except ExchangeFault HttpRequest) : Prop :=
  ∃ url plain, ∀ jar, Dressed url plain (prepare jar)

theorem cookieHeader_cases (now : Moment) (jar : CookieJar) (u : Url) :
    (∃ cookie, cookieHeader now jar u = .ok cookie) ∨
      u.scheme = [] ∧ cookieHeader now jar u = .error (.met (.missingScheme u.text)) := by
  unfold cookieHeader
  by_cases hempty : jar.toList.isEmpty = true
  · rw [if_pos hempty]
    exact Or.inl ⟨_, rfl⟩
  · rw [if_neg hempty]
    by_cases hscheme : u.scheme.isEmpty = true
    · rw [if_pos hscheme]
      exact Or.inr ⟨List.isEmpty_iff.1 hscheme, rfl⟩
    · rw [if_neg hscheme]
      exact Or.inl ⟨_, rfl⟩

/-- What comes before the jar does not depend on it. -/
theorem DressedByJar.bind {α : Type} {x : Except ExchangeFault α}
    {next : α → CookieJar → Except ExchangeFault HttpRequest} (h : ∀ a, DressedByJar (next a)) :
    DressedByJar fun jar => x >>= fun a => next a jar := by
  cases x with
  | error fault => exact ⟨[], .error fault, fun _ => .cookies none⟩
  | ok a => exact h a

/-- A request that gets its cookies last. -/
theorem dressedByJar_cookies (now : Moment) (plain : HttpRequest) :
    DressedByJar fun jar => cookieHeader now jar plain.url >>= fun cookie => pure (plain.withCookie cookie) := by
  refine ⟨plain.url.text, .ok plain, fun jar => ?_⟩
  dsimp only
  rcases cookieHeader_cases now jar plain.url with ⟨cookie, hcookie⟩ | ⟨hscheme, hcookie⟩
  · rw [hcookie]
    exact .cookies cookie
  · rw [hcookie]
    exact .unjudged (Or.inr ⟨plain, rfl, hscheme⟩)

/-- The request that answers a redirect is prepared from the jar. -/
theorem dressedByJar_redirectedRequest (now : Moment) (request : HttpRequest) (status : Int) (location : Text) :
    DressedByJar fun jar => redirectedRequest now jar request status location := by
  unfold redirectedRequest
  refine .bind fun target => .bind fun same => ?_
  cases same with
  | true =>
      exact .bind fun secured => dressedByJar_cookies now ⟨_, target, _, _, _, _, none⟩
  | false =>
      exact .bind fun secured => dressedByJar_cookies now ⟨_, target, _, _, _, _, none⟩

/-- The request that opens an exchange is prepared from the jar. -/
theorem dressedByJar_firstRequest (now : Moment) (url : Text) (content : Octets) :
    DressedByJar fun jar => firstRequest now jar url content := by
  unfold firstRequest
  refine .bind fun u => ?_
  -- here the cookies come before the host is looked at, which may have a fault of its own
  cases hhost : u.hostName with
  | error e =>
      refine ⟨u.text, .error (.ofHostname e), fun jar => ?_⟩
      dsimp only
      rcases cookieHeader_cases now jar u with ⟨cookie, hcookie⟩ | ⟨hscheme, hcookie⟩
      · rw [hcookie]
        exact .cookies cookie
      · rw [hcookie]
        exact .unjudged (Or.inl ⟨_, rfl⟩)
  | ok host =>
      exact dressedByJar_cookies now ⟨.post, u, u.hostAndPort, content, some content.length, credentials? u, none⟩

/-! ## Exchanges from two jars -/

/-- An exchange that goes on with a request, if there is one. -/
def Exchange.goesOn (rest : HttpRequest → Exchange) (jar : CookieJar) (sent : List HttpRequest) :
    Except ExchangeFault HttpRequest → Exchange
  | .error fault => ⟨.error fault, sent, jar⟩
  | .ok request => rest request

theorem Exchange.prefix_sent_goesOn {rest : HttpRequest → Exchange} {sent : List HttpRequest}
    (h : ∀ request, sent <+: (rest request).sent) (jar : CookieJar) (prepared : Except ExchangeFault HttpRequest) :
    sent <+: (goesOn rest jar sent prepared).sent := by
  cases prepared with
  | error fault => exact List.prefix_refl sent
  | ok request => exact h request

/-- **Only cookies tell how an exchange goes on** from two jars, if that is so once there is a request, and if a URL without a
    scheme is no one else's defect. -/
theorem DressedByJar.goesOn {prepare : CookieJar → Except ExchangeFault HttpRequest} (h : DressedByJar prepare)
    (rest : CookieJar → HttpRequest → Exchange)
    (hrest : ∀ jar jar' (plain : HttpRequest) cookie cookie',
      (rest jar (plain.withCookie cookie)).ToldByCookies (rest jar' (plain.withCookie cookie')))
    (hjudged : ∀ jar request, request.url.scheme = [] → ¬ (rest jar request).Unjudged)
    (jar jar' : CookieJar) (sent : List HttpRequest) :
    (Exchange.goesOn (rest jar) jar sent (prepare jar)).ToldByCookies
      (Exchange.goesOn (rest jar') jar' sent (prepare jar')) := by
  obtain ⟨url, plain, hdressed⟩ := h
  -- if one jar can be judged and the other cannot, then only the latter is the end of its exchange
  have hmixed : ∀ jar jar' cookie, ((∃ message, plain = .error (.met (.hostname message))) ∨
      ∃ request, plain = .ok request ∧ request.url.scheme = []) →
      (Exchange.goesOn (rest jar) jar sent (.error (.met (.missingScheme url)))).ToldByCookies
        (Exchange.goesOn (rest jar') jar' sent (plain.map (·.withCookie cookie))) := by
    rintro jar jar' cookie (⟨message, rfl⟩ | ⟨request, rfl, hscheme⟩)
    · refine Exchange.toldByCookies_of_unjudged ⟨url, rfl⟩ ?_
      rintro ⟨t, ht⟩
      cases ht
    · exact Exchange.toldByCookies_of_unjudged ⟨url, rfl⟩ (hjudged jar' _ hscheme)
  generalize hprepared : prepare jar = prepared, hprepared' : prepare jar' = prepared'
  have hleft := hdressed jar
  have hright := hdressed jar'
  rw [hprepared] at hleft
  rw [hprepared'] at hright
  cases hleft with
  | cookies cookie =>
      cases hright with
      | cookies cookie' =>
          cases plain with
          | error fault => exact Exchange.toldByCookies_of_same rfl rfl
          | ok request => exact hrest jar jar' request cookie cookie'
      | unjudged hplain => exact (hmixed jar' jar cookie hplain).symm
  | unjudged hplain =>
      cases hright with
      | cookies cookie' => exact hmixed jar jar' cookie' hplain
      | unjudged _ => exact Exchange.toldByCookies_of_same rfl rfl

variable (peer : Peer) (now : Moment)

/-- No connection is made for other schemes. -/
theorem exchangeFrom_unsupported (request : HttpRequest) (h : supportedSchemes.contains request.url.scheme = false)
    (hops : Nat) (jar : CookieJar) (sent : List HttpRequest) :
    exchangeFrom peer now (hops + 1) jar sent request
      = ⟨.error (.failed (unsupportedScheme request.url.scheme)), sent, jar⟩ := by
  rw [exchangeFrom, h]
  rfl

/-- **What a request comes to that is sent**: the exchange ends there, whatever the jar is, or the answer sends the request
    on. -/
theorem exchangeFrom_supported (request : HttpRequest) (h : supportedSchemes.contains request.url.scheme = true)
    (hops : Nat) (sent : List HttpRequest) :
    (∃ result, ∀ jar, ∃ kept, exchangeFrom peer now (hops + 1) jar sent request = ⟨result, sent ++ [request], kept⟩) ∨
    ∃ receive : CookieJar → CookieJar, ∃ status location, ∀ jar,
      exchangeFrom peer now (hops + 1) jar sent request
        = Exchange.goesOn (exchangeFrom peer now hops (receive jar) (sent ++ [request])) (receive jar) (sent ++ [request])
          (redirectedRequest now (receive jar) request status location) := by
  simp only [exchangeFrom, h, Bool.not_true, Bool.false_eq_true, if_false]
  cases peer (sent ++ [request]) with
  | silence => exact Or.inl ⟨_, fun jar => ⟨jar, rfl⟩⟩
  | timedOut => exact Or.inl ⟨_, fun jar => ⟨jar, rfl⟩⟩
  | failed name message => exact Or.inl ⟨_, fun jar => ⟨jar, rfl⟩⟩
  | broke message => exact Or.inl ⟨_, fun jar => ⟨jar, rfl⟩⟩
  | response r =>
      cases hlocation : redirectLocation? r with
      | none =>
          exact Or.inl ⟨.ok r, fun jar => ⟨jar.receive now (CookieOrigin.ofUrl request.url) r, by simp only [hlocation]⟩⟩
      | some location =>
          refine Or.inr ⟨fun jar => jar.receive now (CookieOrigin.ofUrl request.url) r, r.status, location, fun jar => ?_⟩
          simp only [hlocation]
          generalize jar.receive now (CookieOrigin.ofUrl request.url) r = jar
          cases redirectedRequest now jar request r.status location with
          | error fault => rfl
          | ok next => rfl

/-- A request to a URL without a scheme fails for other reasons than cookies. -/
theorem judged_exchangeFrom (hops : Nat) (jar : CookieJar) (sent : List HttpRequest) {request : HttpRequest}
    (h : request.url.scheme = []) : ¬ (exchangeFrom peer now hops jar sent request).Unjudged := by
  rintro ⟨t, ht⟩
  cases hops with
  | zero => cases ht
  | succ hops =>
      rw [exchangeFrom_unsupported peer now request (by rw [h]; rfl)] at ht
      cases ht

/-- The requests of an exchange begin with those that went out before. -/
theorem prefix_sent_exchangeFrom (hops : Nat) (jar : CookieJar) (sent : List HttpRequest) (request : HttpRequest) :
    sent <+: (exchangeFrom peer now hops jar sent request).sent := by
  induction hops generalizing jar sent request with
  | zero => exact List.prefix_refl sent
  | succ hops ih =>
      cases hscheme : supportedSchemes.contains request.url.scheme with
      | false =>
          simp only [exchangeFrom_unsupported peer now request hscheme, List.prefix_refl]
      | true =>
          have hsent := List.prefix_append sent [request]
          rcases exchangeFrom_supported peer now request hscheme hops sent with
            ⟨result, hstep⟩ | ⟨receive, status, location, hstep⟩
          · obtain ⟨kept, hstep⟩ := hstep jar
            rw [hstep]
            exact hsent
          · rw [hstep]
            exact hsent.trans (Exchange.prefix_sent_goesOn (ih (receive jar) (sent ++ [request])) _ _)

/-- A request that is sent is among the requests of its exchange. -/
theorem prefix_sent_of_supported (request : HttpRequest) (h : supportedSchemes.contains request.url.scheme = true)
    (hops : Nat) (jar : CookieJar) (sent : List HttpRequest) :
    sent ++ [request] <+: (exchangeFrom peer now (hops + 1) jar sent request).sent := by
  rcases exchangeFrom_supported peer now request h hops sent with
    ⟨result, hstep⟩ | ⟨receive, status, location, hstep⟩
  · obtain ⟨kept, hstep⟩ := hstep jar
    simp only [hstep, List.prefix_refl]
  · rw [hstep]
    exact Exchange.prefix_sent_goesOn (prefix_sent_exchangeFrom peer now hops (receive jar) (sent ++ [request])) _ _

/-- The cookies of a request that is sent show among those of its exchange. -/
theorem Exchange.cookie_eq_of_prefix {e e' : Exchange} {sent : List HttpRequest} {plain : HttpRequest}
    {cookie cookie' : Option Text} (h : sent ++ [plain.withCookie cookie] <+: e.sent)
    (h' : sent ++ [plain.withCookie cookie'] <+: e'.sent) (hcookies : e.cookies = e'.cookies) : cookie = cookie' := by
  obtain ⟨later, hlater⟩ := h
  obtain ⟨later', hlater'⟩ := h'
  simp only [cookies, ← hlater, ← hlater', List.append_assoc, List.map_append] at hcookies
  have htails := List.append_cancel_left hcookies
  exact (List.cons.inj htails).1

/-- **Only cookies tell exchanges apart** that begin with the same request, whatever the jars are. -/
theorem toldByCookies_exchangeFrom (hops : Nat) (jar jar' : CookieJar) (sent : List HttpRequest) (plain : HttpRequest)
    (cookie cookie' : Option Text) :
    (exchangeFrom peer now hops jar sent (plain.withCookie cookie)).ToldByCookies
      (exchangeFrom peer now hops jar' sent (plain.withCookie cookie')) := by
  induction hops generalizing jar jar' sent plain cookie cookie' with
  | zero => exact Exchange.toldByCookies_of_same rfl rfl
  | succ hops ih =>
      cases hscheme : supportedSchemes.contains plain.url.scheme with
      | false =>
          rw [exchangeFrom_unsupported peer now (plain.withCookie cookie) hscheme,
            exchangeFrom_unsupported peer now (plain.withCookie cookie') hscheme]
          exact Exchange.toldByCookies_of_same rfl rfl
      | true =>
          intro hcookies
          -- both requests are sent, so they are the same one
          obtain rfl := Exchange.cookie_eq_of_prefix
            (prefix_sent_of_supported peer now (plain.withCookie cookie) hscheme hops jar sent)
            (prefix_sent_of_supported peer now (plain.withCookie cookie') hscheme hops jar' sent) hcookies
          revert hcookies
          rcases exchangeFrom_supported peer now (plain.withCookie cookie) hscheme hops sent with
            ⟨result, hstep⟩ | ⟨receive, status, location, hstep⟩
          · obtain ⟨kept, hleft⟩ := hstep jar
            obtain ⟨kept', hright⟩ := hstep jar'
            rw [hleft, hright]
            exact Exchange.toldByCookies_of_same rfl rfl
          · rw [hstep jar, hstep jar']
            exact (dressedByJar_redirectedRequest now (plain.withCookie cookie) status location).goesOn
              (fun jar => exchangeFrom peer now hops jar (sent ++ [plain.withCookie cookie]))
              (fun jar jar' => ih jar jar' _) (fun jar request => judged_exchangeFrom peer now hops jar _) (receive jar)
              (receive jar') _

/-- **Only cookies tell whole exchanges apart** that begin with different jars. -/
theorem toldByCookies_exchange (isOpen : Bool) (jar jar' : CookieJar) (url : Text)
    (content : Octets) :
    (exchange peer now isOpen jar url content).ToldByCookies (exchange peer now isOpen jar' url content) := by
  have hgoesOn : ∀ jar, exchange peer now isOpen jar url content =
      Exchange.goesOn (fun request => if isOpen then exchangeFrom peer now maxHops jar [] request
        else ⟨.error (.met .clientClosed), [], jar⟩) jar [] (firstRequest now jar url content) := by
    intro jar
    rw [exchange]
    cases firstRequest now jar url content with
    | error fault => rfl
    | ok request => rfl
  rw [hgoesOn jar, hgoesOn jar']
  cases isOpen with
  | true =>
      exact (dressedByJar_firstRequest now url content).goesOn (fun jar => exchangeFrom peer now maxHops jar [])
        (fun jar jar' => toldByCookies_exchangeFrom peer now maxHops jar jar' [])
        (fun jar request => judged_exchangeFrom peer now maxHops jar []) jar jar' []
  | false =>
      refine (dressedByJar_firstRequest now url content).goesOn
        (fun jar _ => ⟨.error (.met .clientClosed), [], jar⟩) (fun _ _ _ _ _ => ?_) (fun jar request _ => ?_) jar jar' []
      · exact Exchange.toldByCookies_of_same rfl rfl
      · rintro ⟨t, ht⟩
        cases ht

/-! ## Calls -/

namespace CallReport

/-- Two calls that nobody can tell apart: the same requests went out, and the same came of them, as soon and with the same
    entries in the log. -/
structure Agrees (r r' : CallReport) : Prop where
  sent : r.sent = r'.sent
  result : r.result = r'.result
  isLate : r.isLate = r'.isLate
  log : r.log = r'.log

/-- The cookies that the requests of a call carry. -/
def cookies (r : CallReport) : List (Option Text) := r.sent.map (·.cookie)

/-- The call ends because cookies cannot be judged for a URL without a scheme. -/
def Unjudged (r : CallReport) : Prop := ∃ t, r.result = .met (.missingScheme t)

end CallReport

/-- A relay with another jar. -/
def HttpRelay.withJar (relay : HttpRelay) (jar : CookieJar) : HttpRelay := { relay with jar := jar }

/-- What a call comes to whose exchange came to something. -/
def Exchange.report (e : Exchange) (relay : HttpRelay) (url : Text) : CallReport :=
  match e.result with
  | .ok r => ⟨responseResult url r, false, e.sent, callLog url (responseResult url r), relay.withJar e.jar⟩
  | .error fault => ⟨faultResult relay.timeout url fault, fault.isLate, e.sent, [], relay.withJar e.jar⟩

theorem HttpRelay.post_written {body : Json} {content : Octets} (h : bodyOctets body = .ok content) (relay : HttpRelay)
    (peer : Peer) (now : Moment) (url : Text) :
    relay.post peer now url body = (exchange peer now relay.isOpen relay.jar url content).report relay url := by
  rw [post, h]
  rfl

theorem HttpRelay.post_unwritten {body : Json} {fault : Json.PrintFault} (h : bodyOctets body = .error fault)
    (relay : HttpRelay) (peer : Peer) (now : Moment) (url : Text) :
    relay.post peer now url body = ⟨unprintableResult url fault, false, [], [], relay⟩ := by
  rw [post, h]

namespace Exchange

variable (e : Exchange) (relay : HttpRelay) (url : Text)

@[simp] theorem report_sent : (e.report relay url).sent = e.sent := by
  unfold report
  split
  · rfl
  · rfl

@[simp] theorem report_relay : (e.report relay url).relay = relay.withJar e.jar := by
  unfold report
  split
  · rfl
  · rfl

/-- Cookies are the end of a call only if they are the end of its exchange. -/
theorem unjudged_report_iff : (e.report relay url).Unjudged ↔ e.Unjudged := by
  unfold report CallReport.Unjudged Unjudged
  cases e.result with
  | ok r =>
      -- the content of a response is read or not, for better or worse
      simp only [responseResult]
      split
      · simp
      · split
        · simp
        · simp
  | error fault =>
      cases fault with
      | silence => simp [faultResult]
      | timedOut => simp [faultResult]
      | failed reason => simp [faultResult]
      | met defect => simp [faultResult]

end Exchange

/-- **Calls of relays with different jars** are the same exactly if their requests carry the same cookies, and cookies are the
    end of both or of neither. -/
theorem HttpRelay.post_agrees_iff (relay : HttpRelay) (jar jar' : CookieJar) (peer : Peer) (now : Moment) (url : Text)
    (body : Json) :
    ((relay.withJar jar).post peer now url body).Agrees ((relay.withJar jar').post peer now url body) ↔
      ((relay.withJar jar).post peer now url body).cookies = ((relay.withJar jar').post peer now url body).cookies ∧
        (((relay.withJar jar).post peer now url body).Unjudged ↔
          ((relay.withJar jar').post peer now url body).Unjudged) := by
  constructor
  · rintro ⟨hsent, hresult, -, -⟩
    rw [CallReport.cookies, CallReport.cookies, CallReport.Unjudged, CallReport.Unjudged, hsent, hresult]
    exact ⟨rfl, Iff.rfl⟩
  · cases hbody : bodyOctets body with
    | error fault =>
        intro _
        rw [post_unwritten hbody, post_unwritten hbody]
        exact ⟨rfl, rfl, rfl, rfl⟩
    | ok content =>
        have htold := toldByCookies_exchange peer now relay.isOpen jar jar' url content
        rw [post_written hbody, post_written hbody, CallReport.cookies, CallReport.cookies, Exchange.unjudged_report_iff,
          Exchange.unjudged_report_iff, Exchange.report_sent, Exchange.report_sent]
        rintro ⟨hcookies, hunjudged⟩
        obtain ⟨hsent, hresult⟩ := htold hcookies hunjudged
        simp only [withJar, Exchange.report, hsent, hresult]
        split
        · exact ⟨rfl, rfl, rfl, rfl⟩
        · exact ⟨rfl, rfl, rfl, rfl⟩

/-! ## Histories and the jar -/

/-- A response that asks for no cookie leaves the jar as it is. -/
theorem CookieJar.receive_of_asksNone {r : HttpResponse} (h : r.headerValues "set-cookie" = []) (now : Moment)
    (origin : CookieOrigin) (jar : CookieJar) : jar.receive now origin r = jar := by
  simp only [receive, h, List.filterMap_nil, termsOf?, offered, List.filter_nil, List.foldl_nil]

theorem jar_exchangeFrom {peer : Peer} (h : peer.AsksNoCookie) (hops : Nat) (jar : CookieJar) (sent : List HttpRequest)
    (request : HttpRequest) : (exchangeFrom peer now hops jar sent request).jar = jar := by
  induction hops generalizing sent request with
  | zero => rfl
  | succ hops ih =>
      rw [exchangeFrom]
      split
      · rfl
      · dsimp only
        split
        · rfl
        · rfl
        · rfl
        · rfl
        · rename_i r hreply
          rw [CookieJar.receive_of_asksNone (h _ r hreply)]
          split
          · rfl
          · split
            · rfl
            · exact ih _ _

/-- An exchange with a peer that asks for no cookie leaves the jar as it is. -/
theorem jar_exchange {peer : Peer} (h : peer.AsksNoCookie) (isOpen : Bool) (jar : CookieJar) (url : Text)
    (content : Octets) : (exchange peer now isOpen jar url content).jar = jar := by
  unfold exchange
  split
  · rfl
  · split
    · exact jar_exchangeFrom now h maxHops jar [] _
    · rfl

namespace HttpRelay

/-- A call changes nothing but the jar. -/
theorem exists_post_relay (relay : HttpRelay) (peer : Peer) (now : Moment) (url : Text) (body : Json) :
    ∃ jar, (relay.post peer now url body).relay = relay.withJar jar := by
  cases hbody : bodyOctets body with
  | error fault =>
      rw [post_unwritten hbody]
      exact ⟨relay.jar, rfl⟩
  | ok content =>
      rw [post_written hbody, Exchange.report_relay]
      exact ⟨_, rfl⟩

/-- A call of a peer that asks for no cookie does not even change the jar. -/
theorem post_relay_of_asksNoCookie {peer : Peer} (h : peer.AsksNoCookie) (relay : HttpRelay) (now : Moment)
    (url : Text) (body : Json) :
    (relay.post peer now url body).relay = relay := by
  cases hbody : bodyOctets body with
  | error fault => rw [post_unwritten hbody]
  | ok content =>
      rw [post_written hbody, Exchange.report_relay, jar_exchange now h]
      rfl

/-- All that a relay keeps of its history is the jar. -/
theorem exists_after (relay : HttpRelay) (history : List PastCall) : ∃ jar, relay.after history = relay.withJar jar := by
  induction history generalizing relay with
  | nil => exact ⟨relay.jar, rfl⟩
  | cons c history ih =>
      obtain ⟨jar, hcall⟩ := relay.exists_post_relay c.peer c.now c.url c.body
      obtain ⟨jar', hlater⟩ := ih (relay.withJar jar)
      refine ⟨jar', ?_⟩
      rw [after, List.foldl_cons, hcall]
      exact hlater

/-- Of a history without cookies it keeps nothing. -/
theorem after_of_asksNoCookie (relay : HttpRelay) {history : List PastCall} (h : ∀ c ∈ history, c.peer.AsksNoCookie) :
    relay.after history = relay := by
  induction history with
  | nil => rfl
  | cons c history ih =>
      rw [after, List.foldl_cons, post_relay_of_asksNoCookie (h c List.mem_cons_self)]
      exact ih fun c hc => h c (List.mem_cons_of_mem _ hc)

/-- **What earlier calls have to do with a later one.** After any two histories a call sends the same requests, to the same
    end, exactly if its requests carry the same cookies after both, and both or neither fail because cookies cannot be
    judged. If no peer of either history ever asks for a cookie, that is so. -/
theorem later_calls_agree_iff (relay : HttpRelay) (history history' : List PastCall) (peer : Peer) (now : Moment) (url : Text)
    (body : Json) :
    (((relay.after history).post peer now url body).Agrees ((relay.after history').post peer now url body) ↔
      ((relay.after history).post peer now url body).cookies = ((relay.after history').post peer now url body).cookies ∧
        (((relay.after history).post peer now url body).Unjudged ↔
          ((relay.after history').post peer now url body).Unjudged)) ∧
    ((∀ c ∈ history ++ history', c.peer.AsksNoCookie) →
      ((relay.after history).post peer now url body).Agrees ((relay.after history').post peer now url body)) := by
  constructor
  · obtain ⟨jar, hjar⟩ := relay.exists_after history
    obtain ⟨jar', hjar'⟩ := relay.exists_after history'
    rw [hjar, hjar']
    exact relay.post_agrees_iff jar jar' peer now url body
  · intro hhistories
    rw [relay.after_of_asksNoCookie fun c hc => hhistories c (List.mem_append_left _ hc),
      relay.after_of_asksNoCookie fun c hc => hhistories c (List.mem_append_right _ hc)]
    exact ⟨rfl, rfl, rfl, rfl⟩

/-- A peer that answers everybody with a document, under some headers. -/
def greeter (headers : List (Text × Text)) : Peer := fun _ => .response ⟨200, headers, Utf8.encode "\x7b\x7d"⟩

/-- A call to a peer, in which nothing is posted. -/
def greeting (headers : List (Text × Text)) : PastCall := ⟨greeter headers, ⟨0, 1970⟩, "http://target.test/", .null⟩

theorem asksNoCookie_greeter : (greeter [("Content-Type", "application/json")]).AsksNoCookie := by
  rintro sent r ⟨⟩
  decide +kernel

theorem later_calls_agree_iff_greeting :
    (greeter [("Content-Type", "application/json")]).AsksNoCookie ∧
    (((HttpRelay.new (Binary64.ofInt 10)).after []).post (greeter []) ⟨0, 1970⟩ "http://target.test/" .null).Agrees
      (((HttpRelay.new (Binary64.ofInt 10)).after [greeting [("Content-Type", "application/json")]]).post (greeter [])
        ⟨0, 1970⟩ "http://target.test/" .null) := by
  refine ⟨asksNoCookie_greeter, (later_calls_agree_iff _ [] [greeting _] _ _ _ _).2 ?_⟩
  rintro c hc
  rw [List.mem_singleton.1 hc]
  exact asksNoCookie_greeter

/-- Two calls to the same place: the cookie that was asked for in answer to the first goes out with the second. -/
theorem cookie_carried_on :
    (((HttpRelay.new (Binary64.ofInt 10)).after []).post (greeter []) ⟨0, 1970⟩ "http://target.test/" .null).cookies
      = [none] ∧
    (((HttpRelay.new (Binary64.ofInt 10)).after [greeting [("Set-Cookie", "id=1")]]).post (greeter []) ⟨0, 1970⟩
      "http://target.test/" .null).cookies = [some ("id=1" : Text)] ∧
    ¬ (((HttpRelay.new (Binary64.ofInt 10)).after []).post (greeter []) ⟨0, 1970⟩ "http://target.test/" .null).Agrees
      (((HttpRelay.new (Binary64.ofInt 10)).after [greeting [("Set-Cookie", "id=1")]]).post (greeter []) ⟨0, 1970⟩
        "http://target.test/" .null) := by
  have hfirst : (((HttpRelay.new (Binary64.ofInt 10)).after []).post (greeter []) ⟨0, 1970⟩ "http://target.test/"
      .null).cookies = [none] := by decide +kernel
  have hsecond : (((HttpRelay.new (Binary64.ofInt 10)).after [greeting [("Set-Cookie", "id=1")]]).post (greeter [])
      ⟨0, 1970⟩ "http://target.test/" .null).cookies = [some ("id=1" : Text)] := by decide +kernel
  refine ⟨hfirst, hsecond, ?_⟩
  intro hagrees
  rw [CallReport.cookies, hagrees.sent] at hfirst
  rw [CallReport.cookies, hfirst] at hsecond
  cases hsecond

end HttpRelay

end WebhookBridge
