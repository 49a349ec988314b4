import WebhookBridge.Command.Serve
import WebhookBridge.Proofs.Server.Starting
import WebhookBridge.Proofs.Service.Outcome
import WebhookBridge.Proofs.Service.Stranding

/-!
# Whole runs

A whole run of a service that is served begins with a call to start the server. Where no embedded server comes of the call, the
run asks for the closing, which finds no server to stop, and ends with the fault of the call. Where one does, it accepts
connections at once, and the call has succeeded for good.

## Contents

* `WebhookServer.Rests`, `WebhookServer.Rests.start_of_error`, `WebhookServer.started_of_ok`: the server before and behind its
  start;
* `Service.Quiet`: runtimes with nothing to do;
* `Service.Unserved`, `Service.Unserved.settleOnce`: a run whose call to start has failed;
* `Service.unserved_serve`: how it ends;
* `Service.CameUp`, `Service.cameUp_serve`: a run whose call to start succeeds.
-/

namespace WebhookBridge

/-! ## The server -/

namespace WebhookServer

variable {v : WebhookServer} {bind : Binder} {fault : ServerFault} {n : Nat}

/-- **A server that rests**: it is stopped, there is no embedded server, and every call has ended. -/
structure Rests (v : WebhookServer) : Prop where
  state : v.state = .stopped
  servings : v.servings = []
  waits : v.waits = []
  starts : ∀ call ∈ v.starts, ∃ result, call = .ended result
  shutdowns : ∀ call ∈ v.shutdowns, ∃ result, call = .ended result

theorem rests_new (listenAddress logLevel : Text) : (new listenAddress logLevel).Rests :=
  ⟨rfl, rfl, rfl, List.forall_mem_nil _, List.forall_mem_nil _⟩

theorem Rests.withLog (h : v.Rests) (log : List LogEvent) : ({ v with log := log } : WebhookServer).Rests :=
  ⟨h.state, h.servings, h.waits, h.starts, h.shutdowns⟩

/-- Nothing goes on in a server that rests. -/
theorem Rests.beginAll_settle (h : v.Rests) : v.beginAll.settle = v := by
  have hbegin : v.beginAll = v := by
    rw [beginAll, h.servings]
    rfl
  have hshutdown : ∀ i, v.resumeShutdown i = v := by
    intro i
    unfold resumeShutdown
    split
    · rename_i hwaiting
      obtain ⟨result, hended⟩ := h.shutdowns _ (List.mem_of_getElem? hwaiting)
      cases hended
    · rfl
  have hstart : ∀ i, v.resumeStart i = v := by
    intro i
    unfold resumeStart
    split
    · rename_i hpolling
      obtain ⟨result, hended⟩ := h.starts _ (List.mem_of_getElem? hpolling)
      cases hended
    · rfl
  rw [hbegin, settle, h.waits]
  dsimp only [List.length_nil, List.range_zero, List.foldl_nil]
  rw [List.foldl_fixed' hshutdown, List.foldl_fixed' hstart]

theorem Rests.endRequested (h : v.Rests) : v.endRequested = v := by
  rw [WebhookServer.endRequested, h.servings]
  rfl

/-- A server that rests has nothing to stop. -/
theorem Rests.shutdown (h : v.Rests) (grace : Binary64) :
    (v.shutdown grace) = v.addShutdown (.ended (.ok ())) ∧ (v.shutdown grace).Rests := by
  have hshutdown : v.shutdown grace = v.addShutdown (.ended (.ok ())) := shutdown_of_not_listening (by simp [h.state]) grace
  refine ⟨hshutdown, ?_⟩
  rw [hshutdown]
  refine ⟨h.state, h.servings, h.waits, h.starts, fun call hcall => ?_⟩
  rcases List.mem_append.1 hcall with hbefore | hlast
  · exact h.shutdowns call hbefore
  · exact ⟨_, List.mem_singleton.1 hlast⟩

/-- Where no embedded server comes of a call to start, the server goes on resting. -/
theorem Rests.start_of_error (h : v.Rests) (hopen : (v.openServing bind).2 = .error fault) :
    (v.start bind).Rests ∧ (v.start bind).starts = v.starts ++ [.ended (.error fault)] := by
  have hstart : ∃ sockets, v.start bind = { v with sockets := sockets, starts := v.starts ++ [.ended (.error fault)] } := by
    rw [start, if_neg (by simp [h.state])]
    have hopens := opens bind v
    generalize v.openServing bind = opened at hopens hopen
    cases hopens with
    | unreadable hparse => cases hopen; exact ⟨_, rfl⟩
    | refused hparse hbind => cases hopen; exact ⟨_, rfl⟩
    | failed hparse hbind => cases hopen; exact ⟨_, rfl⟩
    | unknownLevel hparse hbind hlevel => cases hopen; exact ⟨_, rfl⟩
    | serves hparse hbind hlevel => cases hopen
  obtain ⟨sockets, hstart⟩ := hstart
  rw [hstart]
  refine ⟨⟨h.state, h.servings, h.waits, fun call hcall => ?_, h.shutdowns⟩, rfl⟩
  rcases List.mem_append.1 hcall with hbefore | hlast
  · exact h.starts call hbefore
  · exact ⟨_, List.mem_singleton.1 hlast⟩

/-- An embedded server that comes of a first call to start accepts connections as soon as everything goes on. -/
theorem started_of_ok (listenAddress logLevel : Text) (hopen : ((new listenAddress logLevel).openServing bind).2 = .ok n)
    (log : List LogEvent) :
    ({ (new listenAddress logLevel).start bind with log := log } : WebhookServer).beginAll.settle.starts[0]? = some (.ended (.ok ())) := by
  rw [start, if_neg (by simp [new])]
  have hopens := opens bind (new listenAddress logLevel)
  generalize (new listenAddress logLevel).openServing bind = opened at hopens hopen
  cases hopens with
  | unreadable hparse => cases hopen
  | refused hparse hbind => cases hopen
  | failed hparse hbind => cases hopen
  | unknownLevel hparse hbind hlevel => cases hopen
  | serves hparse hbind hlevel => rfl

/-- A call to start that has ended stays so while everything goes on. -/
theorem started_settle {k : Nat} {result : Except ServerFault Unit} (h : v.starts[k]? = some (.ended result)) :
    v.beginAll.settle.starts[k]? = some (.ended result) := by
  have hfold : ∀ (f : Nat → Action) (indices : List Nat) (v : WebhookServer), v.starts[k]? = some (.ended result) →
      (indices.foldl (fun v i => v.perform (f i)) v).starts[k]? = some (.ended result) := by
    intro f indices v h
    induction indices generalizing v with
    | nil => exact h
    | cons i indices ih => exact ih _ (start_stays_ended h (f i))
  exact hfold .resumeStart _ _ (hfold .resumeShutdown _ _ (hfold .resumeWait _ _ (hfold .beginServing _ _ h)))

theorem started_endRequested {k : Nat} {result : Except ServerFault Unit} (h : v.starts[k]? = some (.ended result)) :
    v.endRequested.starts[k]? = some (.ended result) := by
  unfold endRequested
  generalize List.range v.servings.length = indices
  induction indices generalizing v with
  | nil => exact h
  | cons n indices ih =>
      refine ih ?_
      dsimp only
      split
      · split
        · exact start_stays_ended h (.endServing n (.ok ()))
        · exact h
      · exact h

end WebhookServer

namespace Service

variable {env : Surroundings} {s : Service} {guest : Guest} {fault : ServerFault}

/-! ## Runtimes with nothing to do -/

/-- A runtime in which nothing has come up, and whose client has sent nothing. -/
structure Quiet (r : TaskRuntime HttpSession) : Prop where
  turns : r.turns = []
  jobs : r.jobs = []
  waiting : r.waiting = []
  sent : r.relay.sent = []

theorem quiet_new (capacity : Nat) (timeout : Binary64) : Quiet (.new capacity (HttpSession.new timeout)) := ⟨rfl, rfl, rfl, rfl⟩

theorem Quiet.withLog {r : TaskRuntime HttpSession} (h : Quiet r) (log : List LogEvent) : Quiet { r with log := log } :=
  ⟨h.turns, h.jobs, h.waiting, h.sent⟩

theorem Quiet.settle {r : TaskRuntime HttpSession} (h : Quiet r) (relay : Relay HttpSession) (limit : Nat) :
    r.settle relay limit = r := by
  cases limit with
  | zero => rfl
  | succ limit => simp [TaskRuntime.settle, TaskRuntime.take?, h.turns]

theorem Quiet.expire {r : TaskRuntime HttpSession} (h : Quiet r) : r.expire = r := by
  rw [TaskRuntime.expire, h.jobs]
  rfl

theorem Quiet.close {r : TaskRuntime HttpSession} (h : Quiet r) : Quiet r.close := by
  unfold TaskRuntime.close
  split
  · exact h
  · have hcall : ({ r with closed := true }.enqueue .stop).callListener = { r with closed := true }.enqueue .stop := by
      simp [TaskRuntime.callListener, TaskRuntime.enqueue, h.waiting]
    rw [hcall]
    exact ⟨h.turns, h.jobs, h.waiting, h.sent⟩

theorem quiet_closeRuntime (h : Quiet s.runtime) : Quiet s.closeRuntime.runtime := by
  unfold closeRuntime
  split
  · exact h.close.withLog []
  · exact ⟨h.turns, h.jobs, h.waiting, h.sent⟩

/-- Closing the client sends nothing. -/
theorem quiet_closeClient (h : Quiet s.runtime) : Quiet s.closeClient.runtime := by
  have hsent : s.HasClient fun session => session.sent = [] := h.sent
  exact ⟨h.turns, h.jobs, h.waiting, hsent.closeClient fun _ _ hsession => hsession⟩

theorem quiet_finishClosing (h : Quiet s.runtime) (result : Except ServerFault Unit) :
    Quiet (s.finishClosing result).runtime := by
  cases result with
  | error fault => exact h
  | ok u =>
      have hclosed := quiet_closeClient (quiet_closeRuntime h)
      rw [finishClosing]
      split
      · exact hclosed
      · exact hclosed

/-- Closing the runtime of a service that nobody has asked anything. -/
theorem Fresh.closeRuntime (h : s.Fresh) : s.closeRuntime.Fresh := by
  unfold Service.closeRuntime
  split
  · refine ⟨h.closing, h.closers, h.runs, ?_⟩
    show { s.server with log := [] } = _
    rw [h.server]
    rfl
  · exact ⟨h.closing, h.closers, h.runs, h.server⟩

/-! ## Runs without sides -/

section NoSides

variable {i : Nat} (hsides : ∀ call, s.runs[i]? = some call → sidesOf? call = none)
include hsides

/-- A run without sides has nothing to begin. -/
theorem beginListening_eq_self : s.beginListening i = s := by
  unfold beginListening
  split
  · rfl
  · rename_i call hcall
    rw [hsides call hcall]

theorem beginWaiting_eq_self : s.beginWaiting i = s := by
  unfold beginWaiting
  split
  · rfl
  · rename_i call hcall
    rw [hsides call hcall]

/-- It has nothing that could end, either. -/
theorem endListening_eq_self {ending : Except Defect Unit} : s.endListening i ending = s := by
  unfold endListening
  split
  · rfl
  · rename_i call hcall
    rw [hsides call hcall]

theorem graceOver_eq_self : s.graceOver i = s := by
  unfold graceOver
  split
  · rename_i outcome sides hcall
    cases hsides _ hcall
  · rfl

end NoSides

/-! ## Starts that fail -/

/-- **A service whose only run has found its call to start failed**: the server rests, nobody waits for the closing, and nothing
    has come up in the runtime. -/
structure Unserved (fault : ServerFault) (run : RunCall) (closing : Option ClosingState) (s : Service) : Prop where
  runs : s.runs = [run]
  closing : s.closing = closing
  closers : s.closers = []
  rests : s.server.Rests
  failed : s.server.starts = [.ended (.error fault)]
  quiet : Quiet s.runtime

/-- A run that is over with the fault. -/
abbrev overWith (fault : ServerFault) : RunCall := .ended (.error (.server fault)) none

/-- A run that waits for the closing with the fault. -/
abbrev leavingWith (fault : ServerFault) : RunCall := .closing (.error (.server fault)) none

section Unserved

variable {run : RunCall} {closing : Option ClosingState}

/-- A change that leaves the server as it is. -/
theorem Unserved.onServer (h : Unserved fault run closing s) {f : WebhookServer → WebhookServer} (hf : f s.server = s.server) :
    Unserved fault run closing (s.onServer f) := by
  have hserver : (s.onServer f).server = { s.server with log := [] } := congrArg (fun v => { v with log := [] }) hf
  refine ⟨h.runs, h.closing, h.closers, ?_, ?_, h.quiet.withLog []⟩
  · rw [hserver]
    exact h.rests.withLog []
  · rw [hserver]
    exact h.failed

/-- A change that leaves the runtime as it is. -/
theorem Unserved.onRuntime (h : Unserved fault run closing s) {f : TaskRuntime HttpSession → TaskRuntime HttpSession}
    (hf : f s.runtime = s.runtime) : Unserved fault run closing (s.onRuntime f) := by
  have hruntime : (s.onRuntime f).runtime = { s.runtime with log := [] } := congrArg (fun r => { r with log := [] }) hf
  refine ⟨h.runs, h.closing, h.closers, h.rests.withLog [], h.failed, ?_⟩
  rw [hruntime]
  exact h.quiet.withLog []

/-- The only run is the first. -/
theorem Unserved.eq_of_run (h : Unserved fault run closing s) {i : Nat} {call : RunCall} (hcall : s.runs[i]? = some call) :
    call = run := by
  rw [h.runs] at hcall
  exact List.mem_singleton.1 (List.mem_of_getElem? hcall)

/-- **Everything goes on once**: the run goes on, then the closing does. -/
theorem Unserved.settleOnce (h : Unserved fault run closing s) (env : Surroundings) {run' : RunCall}
    {asked closed : Option ClosingState} (hsides : sidesOf? run' = none)
    (hresumes : ∀ t, Unserved fault run closing t → Unserved fault run' asked (t.resumeRun 0 true))
    (hcloses : ∀ t, Unserved fault run' asked t → Unserved fault run' closed t.beginClosing.resumeClosing) :
    Unserved fault run' closed (s.settleOnce env) := by
  have hserver : Unserved fault run closing (s.onServer fun server => server.beginAll.settle) :=
    h.onServer h.rests.beginAll_settle
  have hresumed := hresumes _ hserver
  have hsettled := hresumed.onRuntime (f := fun r => r.settle env.relay turnLimit) (hresumed.quiet.settle env.relay turnLimit)
  have hclosed := hcloses _ hsettled
  have hnone : ∀ call, ((s.onServer fun server => server.beginAll.settle).resumeRun 0 true).runs[0]? = some call →
      sidesOf? call = none := fun call hcall => (hresumed.eq_of_run hcall).symm ▸ hsides
  unfold Service.settleOnce
  dsimp only
  rw [hserver.runs]
  simp only [List.length_singleton, List.range_one, List.foldl_cons, List.foldl_nil, beginListening_eq_self hnone,
    beginWaiting_eq_self hnone, hclosed.closers, List.length_nil, List.range_zero]
  exact hclosed

/-- A run whose call to start has failed asks for the closing. -/
theorem Unserved.resumeRun_starting (h : Unserved fault (.starting 0) none s) :
    Unserved fault (leavingWith fault) (some .requested) (s.resumeRun 0 true) := by
  have hresume : s.resumeRun 0 true = { s with runs := [leavingWith fault], closing := some .requested } := by
    simp [Service.resumeRun, h.runs, h.failed, settleRun, closingResult?, h.closing, requestClosing, setClosing, setRun]
  rw [hresume]
  exact ⟨rfl, rfl, h.closers, h.rests, h.failed, h.quiet⟩

/-- A run that waits for the closing is over when that has ended. -/
theorem Unserved.resumeRun_leaving (h : Unserved fault (leavingWith fault) (some (.ended (.ok ()))) s) :
    Unserved fault (overWith fault) (some (.ended (.ok ()))) (s.resumeRun 0 true) := by
  have hresume : s.resumeRun 0 true = { s with runs := [overWith fault] } := by
    simp [Service.resumeRun, h.runs, closingResult?, h.closing, afterClosing, setRun]
  rw [hresume]
  exact ⟨rfl, h.closing, h.closers, h.rests, h.failed, h.quiet⟩

theorem Unserved.resumeRun_over (h : Unserved fault (overWith fault) closing s) :
    Unserved fault (overWith fault) closing (s.resumeRun 0 true) := by
  have hresume : s.resumeRun 0 true = s := by
    simp [Service.resumeRun, h.runs]
  rw [hresume]
  exact h

/-- The closing goes on when the server has stopped: the runtime and the client are closed. -/
theorem Unserved.finishClosing (h : Unserved fault run closing s) :
    Unserved fault run (some (.ended (.ok ()))) (s.finishClosing (.ok ())) := by
  have hclosed : Unserved fault run closing s.closeRuntime := by
    obtain ⟨-, log, hserver⟩ := keepsServer_closeRuntime s
    have hrest : s.closeRuntime.runs = s.runs ∧ s.closeRuntime.closing = s.closing ∧ s.closeRuntime.closers = s.closers := by
      unfold Service.closeRuntime
      split
      · exact ⟨rfl, rfl, rfl⟩
      · exact ⟨rfl, rfl, rfl⟩
    refine ⟨hrest.1.trans h.runs, hrest.2.1.trans h.closing, hrest.2.2.trans h.closers, ?_, ?_, quiet_closeRuntime h.quiet⟩
    · rw [hserver]
      exact h.rests.withLog log
    · rw [hserver]
      exact h.failed
  have hquiet := quiet_finishClosing h.quiet (.ok ())
  rw [Service.finishClosing] at hquiet ⊢
  split at hquiet
  · exact ⟨hclosed.runs, rfl, hclosed.closers, hclosed.rests, hclosed.failed, hquiet⟩
  · exact ⟨hclosed.runs, rfl, hclosed.closers, hclosed.rests, hclosed.failed, hquiet⟩

/-- The closing ends at once: the server rests, and the runtime has nothing to do. -/
theorem Unserved.close_requested (h : Unserved fault run (some .requested) s) :
    Unserved fault run (some (.ended (.ok ()))) s.beginClosing.resumeClosing := by
  obtain ⟨hshutdown, hrests⟩ := h.rests.shutdown s.settings.gracePeriod
  -- the server has been asked to stop, and the call has ended at once
  have hasked : Unserved fault run (some .requested) (s.onServer (WebhookServer.shutdown s.settings.gracePeriod)) := by
    refine ⟨h.runs, h.closing, h.closers, hrests.withLog [], ?_, h.quiet.withLog []⟩
    show (s.server.shutdown s.settings.gracePeriod).starts = _
    rw [hshutdown]
    exact h.failed
  have hended : (s.onServer (WebhookServer.shutdown s.settings.gracePeriod)).server.shutdowns[s.server.shutdowns.length]?
      = some (.ended (.ok ())) := by
    show (s.server.shutdown s.settings.gracePeriod).shutdowns[s.server.shutdowns.length]? = _
    rw [hshutdown]
    exact List.getElem?_concat_length
  have hbegin : s.beginClosing = (s.onServer (WebhookServer.shutdown s.settings.gracePeriod)).finishClosing (.ok ()) := by
    simp [beginClosing, h.closing, hended]
  rw [hbegin]
  generalize s.onServer (WebhookServer.shutdown s.settings.gracePeriod) = t at hasked
  have hfinished := hasked.finishClosing
  have hresume : (t.finishClosing (.ok ())).resumeClosing = t.finishClosing (.ok ()) := by
    simp [resumeClosing, hfinished.closing]
  rw [hresume]
  exact hfinished

/-- A closing that has ended does not go on. -/
theorem Unserved.close_ended (h : Unserved fault run (some (.ended (.ok ()))) s) :
    Unserved fault run (some (.ended (.ok ()))) s.beginClosing.resumeClosing := by
  have hsame : s.beginClosing.resumeClosing = s := by simp [beginClosing, resumeClosing, h.closing]
  rw [hsame]
  exact h

/-- A run that is over stays so. -/
theorem Unserved.settleRounds_over (h : Unserved fault (overWith fault) (some (.ended (.ok ()))) s) (env : Surroundings)
    (rounds : Nat) : Unserved fault (overWith fault) (some (.ended (.ok ()))) (settleRounds env rounds s) := by
  induction rounds generalizing s with
  | zero => exact h
  | succ rounds ih => exact ih (h.settleOnce env rfl (fun t ht => ht.resumeRun_over) fun t ht => ht.close_ended)

/-- **A run whose call to start has failed** is over when everything has gone on. -/
theorem Unserved.settle_starting (h : Unserved fault (.starting 0) none s) (env : Surroundings) :
    Unserved fault (overWith fault) (some (.ended (.ok ()))) (s.settle env) := by
  -- the run asks for the closing, which ends in the same round; the run learns of it in the next
  have hasks : Unserved fault (leavingWith fault) (some (.ended (.ok ()))) (s.settleOnce env) :=
    h.settleOnce env rfl (fun t ht => ht.resumeRun_starting) fun t ht => ht.close_requested
  have hleaves : Unserved fault (overWith fault) (some (.ended (.ok ()))) ((s.settleOnce env).settleOnce env) :=
    hasks.settleOnce env rfl (fun t ht => ht.resumeRun_leaving) fun t ht => ht.close_ended
  rw [settle, h.runs]
  exact hleaves.settleRounds_over env 14

theorem Unserved.letTimePass (h : Unserved fault (overWith fault) (some (.ended (.ok ()))) s) (env : Surroundings) :
    Unserved fault (overWith fault) (some (.ended (.ok ()))) (s.letTimePass env) := by
  have hserver : Unserved fault (overWith fault) (some (.ended (.ok ()))) (s.settleServer env) :=
    (h.onServer h.rests.endRequested).settleRounds_over env _
  have hexpired : Unserved fault (overWith fault) (some (.ended (.ok ())))
      (((s.settleServer env).onRuntime TaskRuntime.expire).settle env) :=
    (hserver.onRuntime hserver.quiet.expire).settleRounds_over env _
  unfold Service.letTimePass
  dsimp only
  generalize ((s.settleServer env).onRuntime TaskRuntime.expire).settle env = t at hexpired
  have hgrace : t.graceOver 0 = t := graceOver_eq_self fun call hcall => (hexpired.eq_of_run hcall).symm ▸ rfl
  rw [hexpired.runs]
  simp only [List.length_singleton, List.range_one, List.foldl_cons, List.foldl_nil, hgrace]
  exact hexpired.settleRounds_over env _

end Unserved

/-- A service of which nobody has asked anything, after a guest has come that may be closed from the start. -/
theorem Fresh.withGuest (hfresh : s.Fresh) (guest : Guest) :
    let t := if guest.isClosed then s.closeRuntime else s
    t.Fresh ∧ t.server = s.server ∧ (Quiet s.runtime → Quiet t.runtime) := by
  intro t
  cases hclosed : guest.isClosed with
  | true =>
      have ht : t = s.closeRuntime := if_pos hclosed
      rw [ht]
      refine ⟨hfresh.closeRuntime, ?_, quiet_closeRuntime⟩
      rw [hfresh.closeRuntime.server, hfresh.server, (keepsServer_closeRuntime s).1]
  | false =>
      have ht : t = s := if_neg (by simp [hclosed])
      rw [ht]
      exact ⟨hfresh, rfl, id⟩

/-- **A whole run for which no embedded server comes of the call to start** ends with the fault of the call, with nothing sent. -/
theorem unserved_serve (hfresh : s.Fresh) (hquiet : Quiet s.runtime) (guest : Guest)
    (hopen : (s.server.openServing env.bind).2 = .error fault) :
    Unserved fault (overWith fault) (some (.ended (.ok ()))) (s.serve env guest) := by
  obtain ⟨hfresh, hserver, hquiet'⟩ := hfresh.withGuest guest
  unfold Service.serve
  dsimp only at hfresh hserver hquiet' ⊢
  generalize (if guest.isClosed then s.closeRuntime else s) = t at hfresh hserver hquiet'
  have hrests : t.server.Rests := by
    rw [hfresh.server]
    exact WebhookServer.rests_new ..
  have hstarts : t.server.starts = [] := by
    rw [hfresh.server]
    rfl
  obtain ⟨hrests', hfailed⟩ := hrests.start_of_error (hserver ▸ hopen)
  have hbegins : Unserved fault (.starting 0) none (t.run env.bind) := by
    refine ⟨?_, hfresh.closing, hfresh.closers, hrests'.withLog [], ?_, (hquiet' hquiet).withLog []⟩
    · show t.runs ++ [.starting t.server.starts.length] = _
      rw [hfresh.runs, hstarts]
      rfl
    · show (t.server.start env.bind).starts = _
      rw [hfailed, hstarts]
      rfl
  have hsettled := hbegins.settle_starting env
  -- the server does not listen, so that nobody asks the process to stop
  rw [hsettled.rests.state]
  simp only [reduceCtorEq, decide_false, Bool.and_false, Bool.false_eq_true, if_false]
  exact hsettled.letTimePass env

/-! ## Starts that succeed -/

/-- The first call to start the server has succeeded. -/
def CameUp (s : Service) : Prop := s.server.starts[0]? = some (.ended (.ok ()))

/-- What the server has logged is moved to the service; its calls stay as they are. -/
theorem cameUp_onServer_iff {f : WebhookServer → WebhookServer} :
    (s.onServer f).CameUp ↔ (f s.server).starts[0]? = some (.ended (.ok ())) := Iff.rfl

theorem cameUp_foldl {f : Service → Nat → Service} (hf : ∀ t i, t.CameUp → (f t i).CameUp) (indices : List Nat)
    (h : s.CameUp) : (indices.foldl f s).CameUp := by
  induction indices generalizing s with
  | nil => exact h
  | cons i indices ih => exact ih (hf s i h)

/-- The actions that come up in turn, one for each index. -/
theorem cameUp_performEach (env : Surroundings) (action : Nat → Action) (indices : List Nat) (h : s.CameUp) :
    (indices.foldl (fun t i => t.perform env (action i)) s).CameUp :=
  cameUp_foldl (fun _ i ht => start_stays env ht (action i)) indices h

/-- Where the start succeeds as the server goes on, that stays so while all the rest does. -/
theorem cameUp_settleOnce_of_server (h : (s.onServer fun server => server.beginAll.settle).CameUp) :
    (s.settleOnce env).CameUp := by
  have hruns := cameUp_performEach env (.resumeRun · true) (List.range s.runs.length) h
  have hlistens := cameUp_performEach env .beginListening (List.range s.runs.length) hruns
  have hwaits := cameUp_performEach env .beginWaiting (List.range s.runs.length) hlistens
  generalize ht : (List.range s.runs.length).foldl _ _ = t at hwaits
  have hruntime : (t.onRuntime fun r => r.settle env.relay turnLimit).CameUp := hwaits
  have hcloses := start_stays env (start_stays env hruntime .beginClosing) .resumeClosing
  have hends := cameUp_performEach env .resumeClose
    (List.range (t.onRuntime fun r => r.settle env.relay turnLimit).beginClosing.resumeClosing.closers.length) hcloses
  rw [← ht] at hends
  exact hends

theorem CameUp.settleRounds (h : s.CameUp) (env : Surroundings) (rounds : Nat) : (settleRounds env rounds s).CameUp := by
  induction rounds generalizing s with
  | zero => exact h
  | succ rounds ih => exact ih (cameUp_settleOnce_of_server (cameUp_onServer_iff.2 (WebhookServer.started_settle h)))

theorem CameUp.letTimePass (h : s.CameUp) (env : Surroundings) : (s.letTimePass env).CameUp := by
  have hserver : (s.settleServer env).CameUp :=
    (cameUp_onServer_iff.2 (WebhookServer.started_endRequested h)).settleRounds env _
  have hexpired : (((s.settleServer env).onRuntime TaskRuntime.expire).settle env).CameUp :=
    CameUp.settleRounds (s := (s.settleServer env).onRuntime TaskRuntime.expire) hserver env _
  exact (cameUp_performEach env .graceOver _ hexpired).settleRounds env _

/-- **A whole run for which an embedded server comes of the call to start** is one in which the service comes to listen. -/
theorem cameUp_serve {n : Nat} (hfresh : s.Fresh) (guest : Guest) (hopen : (s.server.openServing env.bind).2 = .ok n) :
    (s.serve env guest).CameUp := by
  obtain ⟨hfresh', hserver, -⟩ := hfresh.withGuest guest
  unfold Service.serve
  dsimp only at hfresh' hserver ⊢
  generalize (if guest.isClosed then s.closeRuntime else s) = t at hfresh' hserver
  have hfirst : ((t.run env.bind).settleOnce env).CameUp := by
    have hstart : (t.run env.bind).server = { t.server.start env.bind with log := [] } := rfl
    rw [← hserver, hfresh'.server] at hopen
    refine cameUp_settleOnce_of_server (cameUp_onServer_iff.2 ?_)
    rw [hstart, hfresh'.server]
    exact WebhookServer.started_of_ok _ _ hopen []
  have hruns : (t.run env.bind).runs = [.starting t.server.starts.length] := by
    show t.runs ++ [_] = _
    rw [hfresh'.runs]
    rfl
  have hrounds : (t.run env.bind).settle env = settleRounds env 15 ((t.run env.bind).settleOnce env) := by
    rw [settle, hruns]
    rfl
  have hsettled : ((t.run env.bind).settle env).CameUp := by
    rw [hrounds]
    exact hfirst.settleRounds env 15
  split
  · exact (CameUp.settleRounds (s := ((t.run env.bind).settle env).close) (start_stays env hsettled .close) env _).letTimePass env
  · exact hsettled.letTimePass env

end Service

end WebhookBridge
