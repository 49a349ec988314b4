import WebhookBridge.Proofs.Task.Replies

/-!
# Relays that are closed

A relay that is closed makes no calls any more, and nothing that is asked of it changes it. It still answers where no call
is needed to do so, just as it would if it were open; everything else it refuses. An open relay refuses nothing, whatever
other defects its calls may meet.

## Contents

* `Relay.whileOpen`: a relay as if it were open;
* `Relay.Refuses`, `Relay.Spoils`: calls that are refused, and calls that meet any other defect;
* `Relay.Closable`: relays that can be closed, `Relay.Closable.call_cases`: what calls of them come to;
* `Relay.Goes`: later states of a relay;
* `ExchangeFault.NeverClosed`, `exchange_open`: what an open client never meets;
* `HttpSession.reopened`, `Relay.http_closable`: the relay over HTTP is one of them.
-/

namespace WebhookBridge

variable {σ : Type} {relay : Relay σ} {reopen : σ → σ}

/-- The relay as if it were open at every call. -/
def Relay.whileOpen (relay : Relay σ) (reopen : σ → σ) : Relay σ := ⟨fun s request => relay.call (reopen s) request⟩

/-- A call is refused: it meets a relay that is closed. -/
def Relay.Refuses (relay : Relay σ) (s : σ) (request : RelayRequest) : Prop :=
  (relay.call s request).result = .met .clientClosed

/-- A call is spoiled: it meets a defect, and not because the relay is closed. -/
def Relay.Spoils (relay : Relay σ) (s : σ) (request : RelayRequest) : Prop :=
  ¬ relay.Refuses s request ∧ ∃ defect, (relay.call s request).result = .met defect

/-- **A relay that can be closed**; a state is open if opening it changes nothing. An open relay refuses nothing, and calls do
    not close it. When it is closed a call leaves it as it is, and is refused or comes to what it would come to otherwise.
    Calls that end late have met no defect. -/
structure Relay.Closable (relay : Relay σ) (reopen : σ → σ) : Prop where
  stays : ∀ s request, reopen s = s → reopen (relay.call s request).state = (relay.call s request).state
  serves : ∀ s request, reopen s = s → ¬ relay.Refuses s request
  idle : ∀ s request, reopen s ≠ s → (relay.call s request).state = s
  answers : ∀ s request, reopen s ≠ s →
    relay.Refuses s request ∨ (relay.call s request).result = (relay.call (reopen s) request).result
  late : ∀ s request, (relay.call s request).isLate = true → (relay.call s request).result.IsRelayed

/-- A call that is not refused comes to what it may come to while the relay is open. -/
theorem Relay.Closable.mayCome (h : relay.Closable reopen) {s : σ} {request : RelayRequest}
    (hnot : ¬ relay.Refuses s request) : (relay.whileOpen reopen).MayCome request (relay.call s request).result := by
  by_cases hs : reopen s = s
  · refine ⟨s, ?_⟩
    show (relay.call (reopen s) request).result = (relay.call s request).result
    rw [hs]
  · exact ⟨s, ((h.answers s request hs).resolve_left hnot).symm⟩

/-- **What a call comes to**: it is refused or spoiled, and meets a defect, or it is neither, and comes to what it may come to
    while the relay is open. -/
theorem Relay.Closable.call_cases (h : relay.Closable reopen) (s : σ) (request : RelayRequest) :
    ((relay.Refuses s request ∨ relay.Spoils s request) ∧ ∃ defect, (relay.call s request).result = .met defect) ∨
      ((¬ relay.Refuses s request ∧ ¬ relay.Spoils s request) ∧ (relay.call s request).result.IsRelayed ∧
        (relay.whileOpen reopen).MayCome request (relay.call s request).result) := by
  by_cases hmet : ∃ defect, (relay.call s request).result = .met defect
  · left
    by_cases hrefuses : relay.Refuses s request
    · exact ⟨Or.inl hrefuses, hmet⟩
    · exact ⟨Or.inr ⟨hrefuses, hmet⟩, hmet⟩
  · right
    have hnot : ¬ relay.Refuses s request := fun hrefuses => hmet ⟨_, hrefuses⟩
    refine ⟨⟨hnot, fun hspoils => hmet hspoils.2⟩, ?_, h.mayCome hnot⟩
    cases hresult : (relay.call s request).result with
    | met defect => exact absurd ⟨defect, hresult⟩ hmet
    | answered status body => trivial
    | failed e => trivial

/-- A call that meets a defect does so at once. -/
theorem Relay.Closable.isLate_of_met (h : relay.Closable reopen) {s : σ} {request : RelayRequest} {defect : Defect}
    (hmet : (relay.call s request).result = .met defect) : (relay.call s request).isLate = false := by
  cases hlate : (relay.call s request).isLate with
  | false => rfl
  | true =>
      have hrelayed := h.late s request hlate
      rw [hmet] at hrelayed
      exact absurd hrelayed id

/-- A later state of a relay that is called: an open one is open, and a closed one is the same. -/
structure Relay.Goes (reopen : σ → σ) (s s' : σ) : Prop where
  stays : reopen s = s → reopen s' = s'
  idle : reopen s ≠ s → s' = s

theorem Relay.Goes.refl (reopen : σ → σ) (s : σ) : Relay.Goes reopen s s := ⟨id, fun _ => rfl⟩

theorem Relay.Goes.trans {s s' s'' : σ} (h : Relay.Goes reopen s s') (h' : Relay.Goes reopen s' s'') :
    Relay.Goes reopen s s'' where
  stays hopen := h'.stays (h.stays hopen)
  idle hclosed := by
    have hsame := h.idle hclosed
    rw [hsame] at h'
    exact h'.idle hclosed

theorem Relay.Closable.goes (h : relay.Closable reopen) (s : σ) (request : RelayRequest) :
    Relay.Goes reopen s (relay.call s request).state := ⟨h.stays s request, h.idle s request⟩

/-- Calls lead to later states. -/
theorem Relay.Closable.goes_call (h : relay.Closable reopen) {s₀ : σ} (s : σ) (request : RelayRequest)
    (hs : Relay.Goes reopen s₀ s) : Relay.Goes reopen s₀ (relay.call s request).state := hs.trans (h.goes s request)

/-! ## An open client -/

section Exchange

variable {α β : Type} {x : Except ExchangeFault α}

/-- A step of an exchange that does not fail because of a closed client. -/
def ExchangeFault.NeverClosed (x : Except ExchangeFault α) : Prop := x ≠ .error (.met .clientClosed)

open ExchangeFault

theorem neverClosed_ok (a : α) : NeverClosed (.ok a) := by
  rintro h
  cases h

theorem neverClosed_bind {f : α → Except ExchangeFault β} (hx : NeverClosed x) (hf : ∀ a, NeverClosed (f a)) :
    NeverClosed (x >>= f) := by
  cases x with
  | ok a => exact hf a
  | error fault =>
      rintro h
      cases h
      exact hx rfl

/-- Faults in names are faults of the request. -/
theorem neverClosed_ofHostname (x : Except HostnameError α) : NeverClosed (x.mapError ofHostname) := by
  cases x with
  | ok a => exact neverClosed_ok a
  | error e =>
      rintro h
      cases h

theorem neverClosed_ofUrl (x : Except UrlFault α) : NeverClosed (x.mapError ofUrl) := by
  cases x with
  | ok a => exact neverClosed_ok a
  | error e =>
      cases e with
      | invalid error =>
          rintro h
          cases h
      | surrogate fault =>
          rintro h
          cases h

theorem neverClosed_cookieHeader (now : Moment) (jar : CookieJar) (u : Url) : NeverClosed (cookieHeader now jar u) := by
  unfold cookieHeader
  split
  · exact neverClosed_ok _
  · split
    · rintro h
      cases h
    · exact neverClosed_ok _

theorem neverClosed_firstRequest (now : Moment) (jar : CookieJar) (url : Text) (content : Octets) :
    NeverClosed (firstRequest now jar url content) := by
  refine neverClosed_bind (neverClosed_ofUrl _) fun u => ?_
  refine neverClosed_bind (neverClosed_cookieHeader now jar u) fun cookie => ?_
  exact neverClosed_bind (neverClosed_ofHostname _) fun host => neverClosed_ok _

theorem neverClosed_redirectTarget (u : Url) (location : Text) : NeverClosed (redirectTarget u location) := by
  unfold redirectTarget
  extract_lets fragment withFragment absolute withHost
  -- from the last step to the first
  have hfragment : ∀ target, NeverClosed (withFragment target) := by
    intro target
    dsimp only [withFragment]
    split
    · exact neverClosed_ok _
    · exact neverClosed_ofUrl _
  have habsolute : ∀ target, NeverClosed (absolute target) := by
    intro target
    dsimp only [absolute]
    split
    · exact neverClosed_bind (neverClosed_ok _) hfragment
    · exact neverClosed_bind (neverClosed_ofUrl _) hfragment
  have hhost : ∀ target, NeverClosed (withHost target) := by
    intro target
    dsimp only [withHost]
    split
    · exact neverClosed_bind (neverClosed_ok _) habsolute
    · refine neverClosed_bind (neverClosed_ofHostname _) fun host => ?_
      split
      · refine neverClosed_bind (neverClosed_ofHostname _) fun own => ?_
        exact neverClosed_bind (neverClosed_ofUrl _) habsolute
      · exact neverClosed_bind (neverClosed_ok _) habsolute
  split
  · exact neverClosed_bind (neverClosed_ok _) hhost
  · rintro h
    cases h
  · rintro h
    cases h

theorem neverClosed_redirectedRequest (now : Moment) (jar : CookieJar) (request : HttpRequest) (status : Int)
    (location : Text) : NeverClosed (redirectedRequest now jar request status location) := by
  refine neverClosed_bind (neverClosed_redirectTarget _ _) fun target => ?_
  refine neverClosed_bind (neverClosed_ofHostname _) fun same => ?_
  extract_lets repeated redirected
  have hredirected : ∀ secured, NeverClosed (redirected secured) := by
    intro secured
    exact neverClosed_bind (neverClosed_cookieHeader now jar target) fun cookie => neverClosed_ok _
  split
  · exact neverClosed_bind (neverClosed_ok _) hredirected
  · exact neverClosed_bind (neverClosed_ofHostname _) hredirected

/-- However often the peer sends an open client on. -/
theorem neverClosed_exchangeFrom (peer : Peer) (now : Moment) (hops : Nat) : ∀ jar sent request,
    NeverClosed (exchangeFrom peer now hops jar sent request).result := by
  induction hops with
  | zero =>
      rintro jar sent request h
      cases h
  | succ hops ih =>
      intro jar sent request
      rw [exchangeFrom]
      split
      · rintro h
        cases h
      · dsimp only
        split
        -- the peer answers, or the connection fails in one of the ways that it has
        case h_5 r _ =>
          split
          · exact neverClosed_ok _
          · rename_i location _
            split
            · rename_i fault hnext
              have hnever := neverClosed_redirectedRequest now (jar.receive now (CookieOrigin.ofUrl request.url) r) request
                r.status location
              rw [hnext] at hnever
              rintro h
              cases h
              exact hnever rfl
            · exact ih _ _ _
        all_goals
          rintro h
          cases h

/-- **An open client** never meets the defect of a closed one. -/
theorem exchange_open (peer : Peer) (now : Moment) (jar : CookieJar) (url : Text) (content : Octets) :
    NeverClosed (exchange peer now true jar url content).result := by
  unfold exchange
  cases hfirst : firstRequest now jar url content with
  | error fault =>
      have hnever := neverClosed_firstRequest now jar url content
      rw [hfirst] at hnever
      rintro h
      cases h
      exact hnever rfl
  | ok request => exact neverClosed_exchangeFrom peer now maxHops jar [] request

end Exchange

/-! ## The relay over HTTP -/

/-- The session with an open client. -/
def HttpSession.reopened (session : HttpSession) : HttpSession :=
  { session with relay := { session.relay with isOpen := true } }

theorem HttpSession.reopened_eq_iff (session : HttpSession) : session.reopened = session ↔ session.relay.isOpen = true := by
  obtain ⟨⟨timeout, jar, isOpen⟩, sent⟩ := session
  cases isOpen with
  | true => simp [reopened]
  | false => simp [reopened]

theorem HttpSession.isOpen_of_reopened {session : HttpSession} (h : session.reopened ≠ session) :
    session.relay.isOpen = false := by
  rw [Ne, reopened_eq_iff] at h
  exact Bool.eq_false_iff.2 h

theorem Relay.isOpen_http (peer : Peer) (now : Moment) (session : HttpSession) (request : RelayRequest) :
    ((Relay.http peer now).call session request).state.relay.isOpen = session.relay.isOpen := by
  show (session.relay.post _ now request.url request.body).relay.isOpen = _
  unfold HttpRelay.post
  split
  · rfl
  · dsimp only
    split
    · rfl
    · rfl

/-- A closed client fails before it sends anything, at the latest because it is closed. -/
theorem exchange_closed (peer : Peer) (now : Moment) (jar : CookieJar) (url : Text) (content : Octets) :
    exchange peer now false jar url content = ⟨.error (.met .clientClosed), [], jar⟩ ∨
      exchange peer now false jar url content = exchange peer now true jar url content ∧
        (exchange peer now false jar url content).jar = jar ∧ (exchange peer now false jar url content).sent = [] := by
  unfold exchange
  cases firstRequest now jar url content with
  | error fault => exact Or.inr ⟨rfl, rfl, rfl⟩
  | ok request => exact Or.inl rfl

/-- A response does not close the client. -/
theorem responseResult_ne_clientClosed (url : Text) (r : HttpResponse) : responseResult url r ≠ .met .clientClosed := by
  unfold responseResult
  split
  · rintro h
    cases h
  · split
    · rintro h
      cases h
    · rintro h
      cases h

/-- A call of an open client is not refused. -/
theorem HttpRelay.post_open {relay : HttpRelay} (hopen : relay.isOpen = true) (peer : Peer) (now : Moment) (url : Text)
    (body : Json) : (relay.post peer now url body).result ≠ .met .clientClosed := by
  cases hbody : bodyOctets body with
  | error fault =>
      simp only [post, hbody]
      cases fault with
      | _ =>
          rintro h
          cases h
  | ok content =>
      have hnever := exchange_open peer now relay.jar url content
      simp only [post, hbody, hopen]
      generalize exchange peer now true relay.jar url content = e at hnever
      cases hresult : e.result with
      | ok r => exact responseResult_ne_clientClosed url r
      | error fault =>
          rw [hresult] at hnever
          cases fault with
          | met defect =>
              rintro h
              cases h
              exact hnever rfl
          | _ =>
              rintro h
              cases h

/-- A call that ends only when the time limit has passed comes to a relay error. -/
theorem HttpRelay.isRelayed_of_isLate {relay : HttpRelay} {peer : Peer} {now : Moment} {url : Text} {body : Json}
    (h : (relay.post peer now url body).isLate = true) : (relay.post peer now url body).result.IsRelayed := by
  cases hbody : bodyOctets body with
  | error fault =>
      simp only [post, hbody] at h
      cases h
  | ok content =>
      simp only [post, hbody] at h ⊢
      generalize exchange peer now relay.isOpen relay.jar url content = e at h ⊢
      cases hresult : e.result with
      | ok r =>
          rw [hresult] at h
          cases h
      | error fault =>
          rw [hresult] at h
          cases fault with
          | silence => trivial
          | timedOut => cases h
          | failed reason => cases h
          | met defect => cases h

/-- A call of a closed client leaves it as it is, and is refused or comes to what it would come to otherwise. -/
theorem HttpRelay.post_closed {relay : HttpRelay} (hclosed : relay.isOpen = false) (peer : Peer) (now : Moment) (url : Text)
    (body : Json) :
    ((relay.post peer now url body).relay = relay ∧ (relay.post peer now url body).sent = []) ∧
      ((relay.post peer now url body).result = .met .clientClosed ∨
        (relay.post peer now url body).result = ({ relay with isOpen := true }.post peer now url body).result) := by
  obtain ⟨timeout, jar, isOpen⟩ := relay
  subst hclosed
  cases hbody : bodyOctets body with
  | error fault =>
      simp [post, hbody]
  | ok content =>
      simp only [post, hbody]
      rcases exchange_closed peer now jar url content with hrefused | ⟨hsame, hjar, hsent⟩
      · rw [hrefused]
        exact ⟨⟨rfl, rfl⟩, Or.inl rfl⟩
      · rw [← hsame]
        generalize exchange peer now false jar url content = e at hjar hsent
        cases e.result with
        | ok response => exact ⟨⟨by rw [hjar], hsent⟩, Or.inr rfl⟩
        | error fault => exact ⟨⟨by rw [hjar], hsent⟩, Or.inr rfl⟩

/-- **The relay over HTTP can be closed.** -/
theorem Relay.http_closable (peer : Peer) (now : Moment) : (Relay.http peer now).Closable HttpSession.reopened where
  stays session request hopen := by
    rw [HttpSession.reopened_eq_iff] at hopen ⊢
    rw [isOpen_http, hopen]
  serves session request hopen := by
    rw [HttpSession.reopened_eq_iff] at hopen
    exact HttpRelay.post_open hopen _ now request.url request.body
  idle session request hclosed := by
    have hpost := HttpRelay.post_closed (HttpSession.isOpen_of_reopened hclosed) (fun sent => peer (session.sent ++ sent)) now
      request.url request.body
    show HttpSession.mk (session.relay.post _ now request.url request.body).relay
      (session.sent ++ (session.relay.post _ now request.url request.body).sent) = session
    rw [hpost.1.1, hpost.1.2, List.append_nil]
  answers session request hclosed :=
    (HttpRelay.post_closed (HttpSession.isOpen_of_reopened hclosed) (fun sent => peer (session.sent ++ sent)) now request.url
      request.body).2
  late session request hlate := HttpRelay.isRelayed_of_isLate hlate

end WebhookBridge
