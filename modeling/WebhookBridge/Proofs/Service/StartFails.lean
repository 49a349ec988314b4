import WebhookBridge.Proofs.Service.WholeRun

/-!
# Starts that fail, whatever happens meanwhile

Until the server of a service has come to listen, the only run of the service waits for its call to start, or has the fault of
that call. Nothing else that happens changes this: the service may be asked to close, tasks may be submitted, and the embedded
server may end or fail. A run that has ended without a server that listened has therefore ended with the fault of its start, and
nothing has been sent.

## Contents

* `WebhookServer.NeverUp`, `WebhookServer.NeverUp.perform`: a server that has not come to listen;
* `Service.Heads`, `Service.Unopened`: a service whose server has not;
* `Service.unopened_perform`, `Service.cameUp_or_unopened`: what one action and what a course of actions make of it;
* `Service.Unopened.eq_overWith_of_ended`: how its run ends.
-/

namespace WebhookBridge

/-! ## The server -/

namespace WebhookServer

variable {v : WebhookServer} {a : Action}

/-- **A server that has not come to listen**: its one call to start has not succeeded, and there was nothing to stop. -/
structure NeverUp (v : WebhookServer) : Prop where
  state : v.state = .stopped ∨ v.state = .starting
  starts : v.starts.length = 1
  known : ∀ name, v.starts[0]? ≠ some (.ended (.error (.unknownLogLevel name)))
  shutdowns : ∀ call ∈ v.shutdowns, call = .ended (.ok ())

/-- Changes to what has nothing to do with starting and stopping. -/
theorem NeverUp.of_same {u : WebhookServer} (h : v.NeverUp) (hstate : u.state = v.state) (hstarts : u.starts = v.starts)
    (hshutdowns : u.shutdowns = v.shutdowns) : u.NeverUp :=
  ⟨hstate ▸ h.state, hstarts ▸ h.starts, hstarts ▸ h.known, hshutdowns ▸ h.shutdowns⟩

/-- The only call to start goes on. -/
theorem NeverUp.resumeStart (h : v.NeverUp) (i : Nat) :
    (v.resumeStart i).starts[0]? = some (.ended (.ok ())) ∨ (v.resumeStart i).NeverUp := by
  unfold WebhookServer.resumeStart
  split
  · rename_i n hpolling
    have hi : i = 0 := by
      have hlt := (List.getElem?_eq_some_iff.1 hpolling).1
      rw [h.starts] at hlt
      omega
    subst hi
    have hset : ∀ call, (v.starts.set 0 call)[0]? = some call := fun call =>
      List.getElem?_set_self (h.starts ▸ Nat.one_pos)
    -- a call that fails leaves a stopped server, with a fault that is none of the level
    have hfails : ∀ socket fault, (∀ name, fault ≠ .unknownLogLevel name) → (v.failStart 0 socket fault).NeverUp := by
      intro socket fault hfault
      refine ⟨Or.inl rfl, (List.length_set ..).trans h.starts, fun name hname => ?_, h.shutdowns⟩
      have hcall := (hset (.ended (.error fault))).symm.trans hname
      cases hcall
      exact hfault name rfl
    split
    · exact Or.inr h
    · split
      · exact Or.inl (hset _)
      · split
        · exact Or.inr h
        · exact Or.inr (hfails _ _ nofun)
        · exact Or.inr (hfails _ _ nofun)
  · exact Or.inr h

/-- **One action**: the server comes to listen, or it still has not. -/
theorem NeverUp.perform (h : v.NeverUp) (ha : ∀ bind, a ≠ .start bind) :
    (v.perform a).starts[0]? = some (.ended (.ok ())) ∨ (v.perform a).NeverUp := by
  cases a with
  | start bind => exact absurd rfl (ha bind)
  | shutdown grace =>
      have hstate : v.state ≠ .listening := by rcases h.state with hstate | hstate <;> simp [hstate]
      have hshutdown : v.perform (.shutdown grace) = v.addShutdown (.ended (.ok ())) := shutdown_of_not_listening hstate grace
      rw [hshutdown]
      refine Or.inr ⟨h.state, h.starts, h.known, fun call hcall => ?_⟩
      rcases List.mem_append.1 hcall with hbefore | hlast
      · exact h.shutdowns call hbefore
      · exact List.mem_singleton.1 hlast
  | wait =>
      refine Or.inr ?_
      rw [WebhookServer.perform, wait]
      split
      · exact h.of_same rfl rfl rfl
      · split
        · exact h.of_same rfl rfl rfl
        · exact h.of_same rfl rfl rfl
  | resumeStart i => exact h.resumeStart i
  | resumeShutdown i =>
      refine Or.inr ?_
      rw [WebhookServer.perform, resumeShutdown]
      split
      · rename_i hwaiting
        cases h.shutdowns _ (List.mem_of_getElem? hwaiting)
      · exact h
  | resumeWait i =>
      refine Or.inr ?_
      rw [WebhookServer.perform, resumeWait]
      split
      · split
        · exact h
        · exact h.of_same rfl rfl rfl
      · exact h
  | beginServing n => exact Or.inr (h.of_same rfl rfl rfl)
  | endServing n ending => exact Or.inr (h.of_same rfl rfl rfl)

/-- The first call to start of a server that logs at a known level. -/
theorem neverUp_start (listenAddress : Text) {logLevel : Text} (hlevel : logLevel.toLower ∈ embeddedLogLevels) (bind : Binder) :
    ((new listenAddress logLevel).start bind).NeverUp := by
  rw [start, if_neg (by simp [new])]
  have hopens := opens bind (new listenAddress logLevel)
  generalize (new listenAddress logLevel).openServing bind = opened at hopens
  cases hopens with
  | unreadable hparse => exact ⟨Or.inl rfl, rfl, (fun name hname => by cases hname), List.forall_mem_nil _⟩
  | refused hparse hbind => exact ⟨Or.inl rfl, rfl, (fun name hname => by cases hname), List.forall_mem_nil _⟩
  | failed hparse hbind => exact ⟨Or.inl rfl, rfl, (fun name hname => by cases hname), List.forall_mem_nil _⟩
  | unknownLevel hparse hbind hunknown => exact absurd hlevel hunknown
  | serves hparse hbind hknown => exact ⟨Or.inr rfl, rfl, (fun name hname => by cases hname), List.forall_mem_nil _⟩

end WebhookServer

namespace Service

variable {env : Surroundings} {s : Service} {a : Action} {fault : ServerFault} {i : Nat}

/-! ## The service -/

/-- An action that starts nothing: no run begins, and the server is not asked to start. -/
def Action.StartsNothing (a : Action) : Prop := a ≠ .run ∧ ∀ bind, a ≠ .server (.start bind)

/-- **Where a run stands whose server has not come to listen**: it waits for its call to start, or has the fault of that. -/
inductive Heads (s : Service) : RunCall → Prop
  | starting : Heads s (.starting 0)
  | leaving (fault : ServerFault) (hfault : s.server.starts[0]? = some (.ended (.error fault))) : Heads s (leavingWith fault)
  | gone (fault : ServerFault) (hfault : s.server.starts[0]? = some (.ended (.error fault))) : Heads s (overWith fault)

/-- **A service whose server has not come to listen.** -/
structure Unopened (s : Service) : Prop where
  server : s.server.NeverUp
  closing : ∀ result, s.closing = some (.ended result) → result = .ok ()
  runs : ∀ (i : Nat) (call : RunCall), s.runs[i]? = some call → Heads s call
  quiet : Quiet s.runtime

theorem Heads.sidesOf? {call : RunCall} (h : Heads s call) : sidesOf? call = none := by
  cases h <;> rfl

/-- The run of a service has the same fault after any action. -/
theorem Heads.perform {call : RunCall} (h : Heads s call) (a : Action) : Heads (s.perform env a) call := by
  cases h with
  | starting => exact .starting
  | leaving fault hfault => exact .leaving fault (start_stays env hfault a)
  | gone fault hfault => exact .gone fault (start_stays env hfault a)

/-- **One action and the run**: its call to start has succeeded, or it goes on with its fault. -/
theorem Heads.goes {call next : RunCall} (h : Heads s call)
    (hclosing : ∀ result, s.closing = some (.ended result) → result = .ok ()) (hgoes : RunGoes s i a call next) : s.CameUp ∨ Heads s next := by
  cases hgoes with
  | stays => exact Or.inr h
  | serves k listenFirst hstart =>
      cases h
      exact Or.inl hstart
  | settles _ listenFirst outcome sides hsettles =>
      cases hsettles with
      | sidesOver sides hover => cases h
      | startFailed k fault hstart =>
          cases h
          refine Or.inr ?_
          unfold settled
          split
          · rename_i result hresult
            cases hclosing _ (closing_of_result hresult)
            exact .gone fault hstart
          · exact .leaving fault hstart
  | released listenFirst outcome sides result hended =>
      cases hclosing _ hended
      cases h with
      | leaving fault hfault => exact Or.inr (.gone fault hfault)
  | rests listenFirst outcome sides hsides => cases h
  | graceOver outcome sides sides' => cases h
  | listens _ wait hsides => cases h.sidesOf?.symm.trans hsides
  | refuses _ wait defect hsides hfault => cases h.sidesOf?.symm.trans hsides
  | waits _ listen hsides => cases h.sidesOf?.symm.trans hsides
  | stopsListening _ n wait ending hsides => cases h.sidesOf?.symm.trans hsides

/-! ## The closing -/

/-- **One action and the end of the closing**: the closing had ended before, or ends as a call to stop the server has. -/
theorem closing_ended_of_perform {result : Except ServiceFault Unit} (h : (s.perform env a).closing = some (.ended result)) :
    s.closing = some (.ended result) ∨ ∃ (call : Nat) (ending : Except ServerFault Unit),
      (s.perform env a).server.shutdowns[call]? = some (.ended ending) ∧ result = ending.mapError .server := by
  have hasked : s.requestClosing.closing = some (.ended result) → s.closing = some (.ended result) := by
    unfold requestClosing
    split
    · exact nofun
    · exact id
  have hfinished : ∀ (t : Service) (call : Nat) (ending : Except ServerFault Unit),
      t.server.shutdowns[call]? = some (.ended ending) →
      (t.finishClosing ending).closing = some (.ended result) →
      (t.finishClosing ending).server.shutdowns[call]? = some (.ended ending) ∧ result = ending.mapError .server := by
    intro t call ending hcall hclosing
    obtain ⟨-, log, hserver⟩ := keepsServer_finishClosing t ending
    rw [closing_finishClosing] at hclosing
    cases hclosing
    exact ⟨by rw [hserver]; exact hcall, rfl⟩
  cases a with
  | run => exact Or.inl ((aside_run s env.bind).closing ▸ h)
  | resumeRun i listenFirst =>
      refine Or.inl ?_
      rcases resumeRun_cases s i listenFirst with ⟨runs, hruns⟩ | ⟨runs, hruns⟩
      · rw [perform, hruns] at h
        exact h
      · rw [perform, hruns] at h
        exact hasked h
  | beginListening i => exact Or.inl ((aside_beginListening s i).closing ▸ h)
  | beginWaiting i => exact Or.inl ((aside_beginWaiting s i).closing ▸ h)
  | endListening i ending => exact Or.inl ((aside_endListening s i ending).closing ▸ h)
  | graceOver i => exact Or.inl ((aside_graceOver s i).closing ▸ h)
  | close => exact Or.inl (hasked h)
  | cancelClose i => exact Or.inl ((aside_cancelClose s i).closing ▸ h)
  | resumeClose i => exact Or.inl ((aside_resumeClose s i).closing ▸ h)
  | beginClosing =>
      rw [perform] at h ⊢
      unfold beginClosing at h ⊢
      split at h
      · dsimp only at h ⊢
        split at h
        · rename_i ending hcall
          exact Or.inr ⟨_, _, hfinished _ _ _ hcall h⟩
        · cases h
      · exact Or.inl h
  | resumeClosing =>
      rw [perform] at h ⊢
      unfold resumeClosing at h ⊢
      split at h
      · split at h
        · rename_i ending hcall
          exact Or.inr ⟨_, _, hfinished _ _ _ hcall h⟩
        · exact Or.inl h
      · exact Or.inl h
  | server b => exact Or.inl ((aside_onServer s b).closing ▸ h)
  | turn position => exact Or.inl ((aside_onRuntime s _).closing ▸ h)
  | expire => exact Or.inl ((aside_onRuntime s _).closing ▸ h)
  | submit task => exact Or.inl ((aside_onRuntime s _).closing ▸ h)
  | closeRuntime => exact Or.inl ((aside_closeRuntime s).closing ▸ h)

/-! ## The runtime -/

theorem Quiet.submit {r : TaskRuntime HttpSession} (h : Quiet r) (task : TaskInfo) : Quiet ((r.submit task).toOption.getD r) := by
  unfold TaskRuntime.submit
  split
  · exact h
  · have hcall : ((r.addTask task).enqueue (.task r.tasks.length)).callListener
        = (r.addTask task).enqueue (.task r.tasks.length) := by
      simp [TaskRuntime.callListener, TaskRuntime.enqueue, TaskRuntime.addTask, h.waiting]
    rw [hcall]
    exact ⟨h.turns, h.jobs, h.waiting, h.sent⟩

/-- **One action and the runtime**: without a run that listens nothing comes up in it. -/
theorem Unopened.quiet_perform (h : s.Unopened) (env : Surroundings) (a : Action) : Quiet (s.perform env a).runtime := by
  have hsides : ∀ (i : Nat) (call : RunCall), s.runs[i]? = some call → sidesOf? call = none := fun i call hcall =>
    (h.runs i call hcall).sidesOf?
  cases a with
  | run => exact h.quiet.withLog []
  | resumeRun i listenFirst =>
      rw [perform, runtime_resumeRun]
      exact h.quiet
  | beginListening i =>
      rw [perform, beginListening_eq_self (hsides i)]
      exact h.quiet
  | beginWaiting i =>
      rw [perform, beginWaiting_eq_self (hsides i)]
      exact h.quiet
  | endListening i ending =>
      rw [perform, endListening_eq_self (hsides i)]
      exact h.quiet
  | graceOver i =>
      rw [perform, graceOver_eq_self (hsides i)]
      exact h.quiet
  | close =>
      show Quiet s.requestClosing.runtime
      rw [runtime_requestClosing]
      exact h.quiet
  | cancelClose i =>
      rw [perform, runtime_cancelClose]
      exact h.quiet
  | resumeClose i =>
      rw [perform, runtime_resumeClose]
      exact h.quiet
  | beginClosing =>
      rw [perform]
      unfold beginClosing
      split
      · dsimp only
        split
        · exact quiet_finishClosing (h.quiet.withLog []) _
        · exact h.quiet.withLog []
      · exact h.quiet
  | resumeClosing =>
      rw [perform]
      unfold resumeClosing
      split
      · split
        · exact quiet_finishClosing h.quiet _
        · exact h.quiet
      · exact h.quiet
  | server b => exact h.quiet.withLog []
  | turn position =>
      have hturn : (s.runtime.take? env.relay position).getD s.runtime = s.runtime := by
        simp [TaskRuntime.take?, h.quiet.turns]
      show Quiet { (s.runtime.take? env.relay position).getD s.runtime with log := [] }
      rw [hturn]
      exact h.quiet.withLog []
  | expire =>
      show Quiet { s.runtime.expire with log := [] }
      rw [h.quiet.expire]
      exact h.quiet.withLog []
  | submit task => exact (h.quiet.submit task).withLog []
  | closeRuntime => exact quiet_closeRuntime h.quiet

/-! ## Courses of actions -/

/-- One action and the server of a service, where nothing starts. -/
theorem server_perform_of_neverUp (env : Surroundings) (h : s.server.NeverUp) (ha : a.StartsNothing) :
    (s.perform env a).CameUp ∨ (s.perform env a).server.NeverUp := by
  rcases server_goes env s a with ⟨-, log, hserver⟩ | ⟨b, log, hasked, -, hserver⟩
  · rw [hserver]
    exact Or.inr (h.of_same rfl rfl rfl)
  · have hb : ∀ bind, b ≠ .start bind := by
      intro bind hb
      cases hasked with
      | run => exact ha.1 rfl
      | beginWaiting i => cases hb
      | beginClosing hclosing => cases hb
      | server b => exact ha.2 bind (congrArg Action.server hb)
    rw [CameUp, hserver]
    exact (h.perform hb).imp id fun hnever => hnever.of_same rfl rfl rfl

/-- **One action**: the server comes to listen, or it still has not. -/
theorem unopened_perform (h : s.Unopened) (ha : a.StartsNothing) : (s.perform env a).CameUp ∨ (s.perform env a).Unopened := by
  rcases server_perform_of_neverUp env h.server ha with hcame | hserver
  · exact Or.inl hcame
  by_cases hcame : (s.perform env a).CameUp
  · exact Or.inl hcame
  refine Or.inr ⟨hserver, fun result hresult => ?_, fun i call hcall => ?_, h.quiet_perform env a⟩
  · rcases closing_ended_of_perform hresult with hbefore | ⟨k, ending, hended, rfl⟩
    · exact h.closing result hbefore
    · cases hserver.shutdowns _ (List.mem_of_getElem? hended)
      rfl
  · rcases run_goes a hcall with ⟨before, hbefore, hgoes⟩ | ⟨hrun, -⟩
    · rcases (h.runs i before hbefore).goes h.closing hgoes with hup | hheads
      · exact absurd (start_stays env hup a) hcame
      · exact hheads.perform a
    · exact absurd hrun ha.1

/-- The first run of a service that logs at a known level. -/
theorem unopened_run (hfresh : s.Fresh) (hquiet : Quiet s.runtime) {listenAddress logLevel : Text}
    (hserver : s.server = .new listenAddress logLevel) (hlevel : logLevel.toLower ∈ embeddedLogLevels) (bind : Binder) :
    (s.run bind).Unopened := by
  have hruns : (s.run bind).runs = [.starting 0] := by
    show s.runs ++ [.starting s.server.starts.length] = _
    rw [hfresh.runs, hserver]
    rfl
  refine ⟨?_, fun result hresult => ?_, fun i call hcall => ?_, hquiet.withLog []⟩
  · show ({ s.server.start bind with log := [] } : WebhookServer).NeverUp
    rw [hserver]
    exact (WebhookServer.neverUp_start listenAddress hlevel bind).of_same rfl rfl rfl
  · cases hfresh.closing.symm.trans hresult
  · rw [hruns] at hcall
    rw [List.mem_singleton.1 (List.mem_of_getElem? hcall)]
    exact .starting

/-- **A whole course of actions**, of which none but the first starts anything. -/
theorem cameUp_or_unopened (h : s.Unopened) {actions : List Action} (hactions : ∀ a ∈ actions, a.StartsNothing) :
    (s.performAll env actions).CameUp ∨ (s.performAll env actions).Unopened := by
  induction actions using List.reverseRecOn with
  | nil => exact Or.inr h
  | append_singleton actions a ih =>
      rw [performAll_append]
      rcases ih fun b hb => hactions b (List.mem_append_left _ hb) with hcame | hunopened
      · exact Or.inl (start_stays env hcame a)
      · exact unopened_perform hunopened (hactions a (List.mem_append_right _ (List.mem_singleton_self a)))

/-- **A run that has ended without a server that listened** has ended with the fault of its start, which is none of the level. -/
theorem Unopened.eq_overWith_of_ended (h : s.Unopened) {i : Nat} {outcome : Except ServiceFault Unit} {sides : Option Sides}
    (hrun : s.runs[i]? = some (.ended outcome sides)) :
    ∃ fault, s.server.starts[0]? = some (.ended (.error fault)) ∧ (∀ name, fault ≠ .unknownLogLevel name) ∧
      s.runs[i]? = some (overWith fault) := by
  cases h.runs i _ hrun with
  | gone fault hfault => exact ⟨fault, hfault, fun name hname => h.server.known name (hname ▸ hfault), hrun⟩

end Service

end WebhookBridge
