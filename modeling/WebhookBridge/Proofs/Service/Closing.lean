import WebhookBridge.Proofs.Server.Stages
import WebhookBridge.Proofs.Service.Client

/-!
# The one closing of a service

The closing asks the server to stop, once, and then closes the runtime and the client, if that is the service's own. It
reaches a server that listens. At any other time the server has nothing to stop, the closing ends nonetheless, and a server
that comes to listen later is never asked again. Where the embedded server has failed the closing fails as well, before it
has closed anything else.

## Contents

* `Service.ownClientOpen`: whether the service has an open client of its own;
* `Service.ClosingFits`: the stage of the server and what was closed, by the state of the closing;
* `Service.closingSound_own`, `closingSound_start`, `closingSound_wait`, `closingSound_runtime`: the parts move;
* `Service.closingSound_requestClosing`, `closingSound_beginClosing`, `closingSound_resumeClosing`: the closing goes on.
-/

namespace WebhookBridge.Service

/-! ## The closing by its state -/

/-- Whether the service has a client of its own that is open. -/
def ownClientOpen (s : Service) : Bool := s.ownsClient && s.runtime.relay.relay.isOpen

/-- **The closing by its state**: what stage the server is in, how often the runtime was closed, and whether the service's own
    client is still open; `early` says that the closing began when the server did not listen. -/
inductive ClosingFits (early : Prop) (core : ServerCore) (closings : Nat) (isOpen : Bool) : Option ClosingState → Prop
  | unasked (hearly : ¬ early) (hserver : core.Unstopped) (hcalls : core.shutdowns = []) (hclosings : closings = 0) :
      ClosingFits early core closings isOpen none
  | requested (hearly : ¬ early) (hserver : core.Unstopped) (hcalls : core.shutdowns = []) (hclosings : closings = 0) :
      ClosingFits early core closings isOpen (some .requested)
  | stopping (hearly : ¬ early) (hserver : core.Stopping ∨ ∃ ending, core.Stopped ending) (hclosings : closings = 0) :
      ClosingFits early core closings isOpen (some (.stoppingServer 0))
  | missed (hearly : early) (hserver : core.Unstopped) (hcalls : core.shutdowns = [.ended (.ok ())])
      (hclosings : 0 < closings) (hclient : isOpen = false) :
      ClosingFits early core closings isOpen (some (.ended (.ok ())))
  | stopped (hearly : ¬ early) (hserver : core.Stopped (.ok ())) (hclosings : 0 < closings) (hclient : isOpen = false) :
      ClosingFits early core closings isOpen (some (.ended (.ok ())))
  | failed (defect : Defect) (hearly : ¬ early) (hserver : core.Stopped (.error defect)) (hclosings : closings = 0) :
      ClosingFits early core closings isOpen (some (.ended (.error (.server (.broken defect)))))

/-- The closing of this service. -/
def ClosingSound (early : Prop) (s : Service) : Prop :=
  ClosingFits early s.server.core s.runtimeClosings s.ownClientOpen s.closing

variable {early : Prop} {s : Service}

/-! ## The server moves -/

/-- **The server moves on within its stage**, or from stopping to stopped. -/
theorem ClosingFits.onServer {core core' : ServerCore} {closings : Nat} {isOpen : Bool} {closing : Option ClosingState}
    (h : ClosingFits early core closings isOpen closing)
    (hunstopped : core.Unstopped → (∀ call ∈ core.shutdowns, ∃ result, call = .ended result) →
      core'.Unstopped ∧ core'.shutdowns = core.shutdowns)
    (hstopping : core.Stopping → core'.Stopping ∨ ∃ ending, core'.Stopped ending)
    (hstopped : ∀ ending, core.Stopped ending → core'.Stopped ending) :
    ClosingFits early core' closings isOpen closing := by
  -- as long as the server is not asked to stop while it listens, no call to stop waits
  have hnone : core.shutdowns = [] → ∀ call ∈ core.shutdowns, ∃ result, call = .ended result := by
    intro hcalls call hmem
    rw [hcalls] at hmem
    cases hmem
  have hone : core.shutdowns = [.ended (.ok ())] → ∀ call ∈ core.shutdowns, ∃ result, call = .ended result := by
    intro hcalls call hmem
    rw [hcalls] at hmem
    exact ⟨_, List.mem_singleton.1 hmem⟩
  cases h with
  | unasked hearly hserver hcalls hclosings =>
      obtain ⟨hserver', hsame⟩ := hunstopped hserver (hnone hcalls)
      exact .unasked hearly hserver' (hsame.trans hcalls) hclosings
  | requested hearly hserver hcalls hclosings =>
      obtain ⟨hserver', hsame⟩ := hunstopped hserver (hnone hcalls)
      exact .requested hearly hserver' (hsame.trans hcalls) hclosings
  | stopping hearly hserver hclosings =>
      refine .stopping hearly ?_ hclosings
      rcases hserver with hserver | ⟨ending, hserver⟩
      · exact hstopping hserver
      · exact Or.inr ⟨ending, hstopped ending hserver⟩
  | missed hearly hserver hcalls hclosings hclient =>
      obtain ⟨hserver', hsame⟩ := hunstopped hserver (hone hcalls)
      exact .missed hearly hserver' (hsame.trans hcalls) hclosings hclient
  | stopped hearly hserver hclosings hclient => exact .stopped hearly (hstopped _ hserver) hclosings hclient
  | failed defect hearly hserver hclosings => exact .failed defect hearly (hstopped _ hserver) hclosings

/-- What happens to the server by itself. -/
theorem closingSound_own (h : ClosingSound early s) {a : WebhookServer.Action} (ha : a.IsOwn) :
    ClosingSound early (s.onServer fun server => server.perform a) := by
  show ClosingFits early (s.server.perform a).core s.runtimeClosings s.ownClientOpen s.closing
  refine ClosingFits.onServer h ?_ ?_ ?_
  · exact fun hserver hcalls => WebhookServer.unstopped_perform hserver hcalls ha
  · exact fun hserver => WebhookServer.stopping_perform hserver ha
  · exact fun _ hserver => WebhookServer.stopped_perform hserver ha

/-- A server without a start was not stopped. -/
theorem unstopped_of_no_start (h : ClosingSound early s) (hstarts : s.server.starts = []) : s.server.core.Unstopped := by
  have hstarted : s.server.core.starts ≠ [.ended (.ok ())] := by
    rw [show s.server.core.starts = [] from hstarts]
    exact fun he => by cases he
  unfold ClosingSound at h
  generalize s.closing = closing at h
  cases h with
  | unasked _ hserver _ _ => exact hserver
  | requested _ hserver _ _ => exact hserver
  | missed _ hserver _ _ _ => exact hserver
  | stopping _ hserver _ =>
      rcases hserver with hserver | ⟨ending, hserver⟩
      · exact absurd hserver.starts hstarted
      · exact absurd hserver.starts hstarted
  | stopped _ hserver _ _ => exact absurd hserver.starts hstarted
  | failed defect _ hserver _ => exact absurd hserver.starts hstarted

/-- The one start. -/
theorem closingSound_start (h : ClosingSound early s) (hstarts : s.server.starts = []) (bind : Binder) :
    ClosingSound early (s.onServer (WebhookServer.start bind)) := by
  show ClosingFits early (s.server.start bind).core s.runtimeClosings s.ownClientOpen s.closing
  have hstarted : s.server.core.starts ≠ [.ended (.ok ())] := by
    rw [show s.server.core.starts = [] from hstarts]
    exact fun he => by cases he
  refine ClosingFits.onServer h ?_ ?_ ?_
  · intro hserver _
    obtain ⟨hserver', -, hsame⟩ := WebhookServer.unstopped_start hserver hstarts bind
    exact ⟨hserver', hsame⟩
  · exact fun hserver => absurd hserver.starts hstarted
  · exact fun _ hserver => absurd hserver.starts hstarted

/-- Somebody waits for the server to end. -/
theorem closingSound_wait (h : ClosingSound early s) : ClosingSound early (s.onServer WebhookServer.wait) := by
  show ClosingFits early s.server.wait.core s.runtimeClosings s.ownClientOpen s.closing
  rw [WebhookServer.core_wait]
  exact h

/-! ## The runtime moves -/

/-- What leaves a closed client closed. -/
theorem closingSound_runtime (h : ClosingSound early s) {runtime : TaskRuntime HttpSession}
    (hclient : s.runtime.relay.relay.isOpen = false → runtime.relay.relay.isOpen = false) :
    ClosingSound early { s with runtime := runtime } := by
  have hown : s.ownClientOpen = false → ({ s with runtime := runtime } : Service).ownClientOpen = false := by
    intro hclosed
    rw [ownClientOpen, Bool.and_eq_false_iff] at hclosed ⊢
    exact hclosed.imp_right hclient
  show ClosingFits early s.server.core s.runtimeClosings ({ s with runtime := runtime } : Service).ownClientOpen s.closing
  unfold ClosingSound at h
  generalize s.closing = closing at h
  cases h with
  | unasked hearly hserver hcalls hclosings => exact .unasked hearly hserver hcalls hclosings
  | requested hearly hserver hcalls hclosings => exact .requested hearly hserver hcalls hclosings
  | stopping hearly hserver hclosings => exact .stopping hearly hserver hclosings
  | missed hearly hserver hcalls hclosings hclosed => exact .missed hearly hserver hcalls hclosings (hown hclosed)
  | stopped hearly hserver hclosings hclosed => exact .stopped hearly hserver hclosings (hown hclosed)
  | failed defect hearly hserver hclosings => exact .failed defect hearly hserver hclosings

/-! ## The closing goes on -/

theorem closingSound_requestClosing (h : ClosingSound early s) : ClosingSound early s.requestClosing := by
  unfold requestClosing
  split
  · rename_i hnone
    show ClosingFits early s.server.core s.runtimeClosings s.ownClientOpen (some .requested)
    unfold ClosingSound at h
    rw [hnone] at h
    cases h with
    | unasked hearly hserver hcalls hclosings => exact .requested hearly hserver hcalls hclosings
  · exact h

/-- Closing the client closes it if it is the service's own. -/
theorem ownClientOpen_closeClient (s : Service) (state : ClosingState) :
    (s.closeClient.setClosing state).ownClientOpen = false := by
  show (s.ownsClient && (if s.ownsClient then s.runtime.relay.closed else s.runtime.relay).relay.isOpen) = false
  cases s.ownsClient with
  | true => rfl
  | false => rfl

/-- The rest of a closing after the server has stopped. -/
theorem finishClosing_ok (s : Service) :
    (s.finishClosing (.ok ())).server.core = s.server.core ∧
      (s.finishClosing (.ok ())).runtimeClosings = s.runtimeClosings + 1 ∧
      (s.finishClosing (.ok ())).ownClientOpen = false ∧
      (s.finishClosing (.ok ())).closing = some (.ended (.ok ())) := by
  have hcore : s.closeRuntime.server.core = s.server.core := by
    unfold closeRuntime
    split
    · rfl
    · rfl
  rw [finishClosing]
  split
  · exact ⟨hcore, rfl, ownClientOpen_closeClient _ _, rfl⟩
  · exact ⟨hcore, rfl, ownClientOpen_closeClient _ _, rfl⟩

theorem missed_finishClosing (hearly : early) (hserver : s.server.core.Unstopped)
    (hcalls : s.server.core.shutdowns = [.ended (.ok ())]) : ClosingSound early (s.finishClosing (.ok ())) := by
  obtain ⟨hcore, hclosings, hclient, hclosing⟩ := finishClosing_ok s
  rw [ClosingSound, hcore, hclosings, hclient, hclosing]
  exact .missed hearly hserver hcalls (Nat.succ_pos _) rfl

/-- The closing ends as the embedded server has ended. -/
theorem stopped_finishClosing (hearly : ¬ early) {ending : Except Defect Unit} (hserver : s.server.core.Stopped ending)
    (hclosings : s.runtimeClosings = 0) : ClosingSound early (s.finishClosing (WebhookServer.passOn ending)) := by
  cases ending with
  | ok u =>
      obtain ⟨hcore, hclosings', hclient, hclosing⟩ := finishClosing_ok s
      show ClosingSound early (s.finishClosing (.ok ()))
      rw [ClosingSound, hcore, hclosings', hclient, hclosing]
      exact .stopped hearly hserver (Nat.succ_pos _) rfl
  | error defect => exact .failed defect hearly hserver hclosings

/-- The closing begins with a server that does not listen: there is nothing to stop. -/
theorem closingSound_beginEarly (hclosing : s.closing = some .requested) (hserver : s.server.core.Unstopped)
    (hcalls : s.server.shutdowns = []) (hstate : s.server.state ≠ .listening) (hearly : early) :
    ClosingSound early s.beginClosing := by
  have hshutdown := WebhookServer.shutdown_of_not_listening hstate s.settings.gracePeriod
  have hone : (s.onServer (WebhookServer.shutdown s.settings.gracePeriod)).server.shutdowns = [.ended (.ok ())] := by
    show (s.server.shutdown s.settings.gracePeriod).shutdowns = _
    rw [hshutdown]
    show s.server.shutdowns ++ [_] = _
    rw [hcalls]
    rfl
  have hcore : (s.onServer (WebhookServer.shutdown s.settings.gracePeriod)).server.core.Unstopped := by
    show (s.server.shutdown s.settings.gracePeriod).core.Unstopped
    rw [hshutdown]
    cases hserver with
    | idle hstarts hservings hstopped => exact .idle hstarts hservings hstopped
    | refused fault hstarts hstopped => exact .refused fault hstarts hstopped
    | starting serving hstarts hservings hstarting => exact .starting serving hstarts hservings hstarting
    | listening serving _ _ hlistening _ _ => exact absurd hlistening hstate
  simp only [beginClosing, hclosing, hcalls, List.length_nil, hone, List.getElem?_cons_zero]
  exact missed_finishClosing hearly hcore hone

/-- The closing begins with a server that listens. -/
theorem closingSound_beginListening (hclosing : s.closing = some .requested) (hserver : s.server.core.Unstopped)
    (hcalls : s.server.shutdowns = []) (hstate : s.server.state = .listening) (hearly : ¬ early)
    (hclosings : s.runtimeClosings = 0) : ClosingSound early s.beginClosing := by
  have hstage : (s.onServer (WebhookServer.shutdown s.settings.gracePeriod)).server.core.Stopping ∨
      ∃ ending, (s.onServer (WebhookServer.shutdown s.settings.gracePeriod)).server.core.Stopped ending :=
    WebhookServer.shutdown_of_listening hserver hcalls hstate s.settings.gracePeriod
  simp only [beginClosing, hclosing, hcalls, List.length_nil]
  -- the call to stop waits for the embedded server, unless that has ended already
  rcases hstage with hstopping | ⟨ending, hstopped⟩
  · obtain ⟨socket, hone⟩ := hstopping.shutdowns
    rw [show (s.onServer (WebhookServer.shutdown s.settings.gracePeriod)).server.shutdowns = _ from hone]
    exact .stopping hearly (Or.inl hstopping) hclosings
  · rw [show (s.onServer (WebhookServer.shutdown s.settings.gracePeriod)).server.shutdowns = _ from hstopped.shutdowns]
    exact stopped_finishClosing hearly hstopped hclosings

/-- **The closing begins**, early if the server does not listen. -/
theorem closingSound_beginClosing (h : ClosingSound early s) :
    ClosingSound (early ∨ s.closing = some .requested ∧ s.server.state ≠ .listening) s.beginClosing := by
  by_cases hclosing : s.closing = some .requested
  · have hfits := h
    rw [ClosingSound, hclosing] at hfits
    cases hfits with
    -- whether this is too early is decided here, once and for all
    | requested hearly hserver hcalls hclosings =>
        by_cases hstate : s.server.state = .listening
        · refine closingSound_beginListening hclosing hserver hcalls hstate ?_ hclosings
          rintro (hbefore | ⟨-, hnot⟩)
          · exact hearly hbefore
          · exact hnot hstate
        · exact closingSound_beginEarly hclosing hserver hcalls hstate (Or.inr ⟨hclosing, hstate⟩)
  · have hsame : s.beginClosing = s := by
      unfold beginClosing
      split
      · rename_i hrequested
        exact absurd hrequested hclosing
      · rfl
    have hearly : (early ∨ s.closing = some .requested ∧ s.server.state ≠ .listening) = early := by
      simp [hclosing]
    rw [hsame, hearly]
    exact h

/-- **The closing goes on** when the server has stopped. -/
theorem closingSound_resumeClosing (h : ClosingSound early s) : ClosingSound early s.resumeClosing := by
  unfold resumeClosing
  split
  · rename_i call hclosing
    have hfits := h
    rw [ClosingSound, hclosing] at hfits
    cases hfits with
    | stopping hearly hserver hclosings =>
        rcases hserver with hstopping | ⟨ending, hstopped⟩
        · obtain ⟨socket, hone⟩ := hstopping.shutdowns
          rw [show s.server.shutdowns = _ from hone]
          exact h
        · rw [show s.server.shutdowns = _ from hstopped.shutdowns]
          exact stopped_finishClosing hearly hstopped hclosings
  · exact h

end WebhookBridge.Service
