import WebhookBridge.Proofs.Server.Waiters
import WebhookBridge.Proofs.Service.Steps

/-!
# One closing for all who ask for it

However many ask for the closing, and whenever they do, it is begun once. Whoever waits for it learns of its end, and of
nothing else; and as they only wait, it goes on in the same way whether they wait or have given up.

## Contents

* `Service.AsksClosing`, `Service.BeginsClosing`, `Service.EndsClosing`: what happens to the closing, once at most;
* `Service.HasAwaited`, `Service.hasAwaited_performAll`: what a run knows of it;
* `Service.Action.Drives`, `Service.SameCourse`: what the closing depends on;
* `Service.SingleFlight`, `Service.closing_single_flight`: all of this, whatever happens.
-/

namespace WebhookBridge.Service

variable {env : Surroundings} {s s' : Service}

/-! ## Once -/

/-- The closing is asked for, and there is one from now on. -/
def AsksClosing (env : Surroundings) (s : Service) (a : Action) : Prop :=
  s.closing = none ∧ (s.perform env a).closing ≠ none

/-- The closing begins. -/
def BeginsClosing (s : Service) (a : Action) : Prop := a = .beginClosing ∧ s.closing = some .requested

/-- The closing ends. -/
def EndsClosing (env : Surroundings) (s : Service) (a : Action) : Prop :=
  s.closingResult? = none ∧ (s.perform env a).closingResult? ≠ none

/-- The closing reaches a stage. -/
def ReachesStage (env : Surroundings) (n : Nat) (s : Service) (a : Action) : Prop :=
  stage s.closing < n ∧ n ≤ stage (s.perform env a).closing

/-- A stage is reached once. -/
theorem reachesStage_unique {n : Nat} {actions : List Action} {P : Service → Action → Prop}
    (hP : ∀ t a, P t a → ReachesStage env n t a) {i j : Nat} (hi : OccursAt env s actions P i)
    (hj : OccursAt env s actions P j) : i = j := by
  refine OccursAt.unique ?_ hi hj
  intro t a later b ha hb
  have hle := (forward_performAll env (t.perform env a) later).stage_le
  have hreached := (hP t a ha).2
  have hbelow := (hP _ b hb).1
  omega

theorem AsksClosing.reachesStage {a : Action} (h : AsksClosing env s a) : ReachesStage env 1 s a := by
  obtain ⟨hnone, hsome⟩ := h
  refine ⟨?_, ?_⟩
  · rw [hnone]
    exact Nat.zero_lt_one
  · exact stage_pos_iff.2 hsome

theorem BeginsClosing.reachesStage {a : Action} (h : BeginsClosing s a) : ReachesStage env 2 s a := by
  obtain ⟨rfl, hrequested⟩ := h
  refine ⟨?_, stage_beginClosing hrequested⟩
  rw [hrequested, stage_requested]
  omega

theorem closingResult?_eq_some_iff {result : Except ServiceFault Unit} :
    s.closingResult? = some result ↔ s.closing = some (.ended result) := by
  refine ⟨closing_of_result, fun hended => ?_⟩
  rw [closingResult?, hended]

theorem EndsClosing.reachesStage {a : Action} (h : EndsClosing env s a) : ReachesStage env 3 s a := by
  obtain ⟨hopen, hended⟩ := h
  refine ⟨?_, ?_⟩
  · have hle := stage_le_three s.closing
    rcases Nat.lt_or_eq_of_le hle with hlt | heq
    · exact hlt
    · -- the last stage is that of a closing that has ended
      unfold stage at heq
      split at heq
      · cases heq
      · cases heq
      · cases heq
      · rename_i result hclosing
        rw [closingResult?_eq_some_iff.2 hclosing] at hopen
        cases hopen
  · cases hresult : (s.perform env a).closingResult? with
    | none => exact absurd hresult hended
    | some result =>
        rw [closing_of_result hresult]
        exact Nat.le_refl 3

/-! ## Runs -/

/-- **What a run knows of the closing** that it has waited for: that it has ended, and without a fault, unless that is the
    outcome of the run. -/
def HasAwaited (s : Service) : RunCall → Prop
  | .lingering _ _ => s.closing = some (.ended (.ok ()))
  | .ended outcome _ =>
    ∃ result, s.closing = some (.ended result) ∧ ∀ fault, result = .error fault → outcome = .error fault
  | _ => True

theorem HasAwaited.forward {call : RunCall} (h : s.HasAwaited call) (hforward : Forward s s') : s'.HasAwaited call := by
  cases call with
  | starting k => trivial
  | serving sides => trivial
  | closing outcome sides => trivial
  | lingering outcome sides => exact hforward.ended h
  | ended outcome sides =>
      obtain ⟨result, hended, hfault⟩ := h
      exact ⟨result, hforward.ended hended, hfault⟩

theorem hasAwaited_afterClosing {result : Except ServiceFault Unit} (h : s.closing = some (.ended result))
    (outcome : Except ServiceFault Unit) (sides : Option Sides) : s.HasAwaited (afterClosing outcome sides result) := by
  cases result with
  | error fault => exact ⟨_, h, fun _ hfault => hfault⟩
  | ok u =>
      cases sides with
      | some both => exact h
      | none => exact ⟨_, h, fun fault hfault => by cases hfault⟩

theorem hasAwaited_withSides {call : RunCall} (h : s.HasAwaited call) (sides : Sides) :
    s.HasAwaited (withSides sides call) := by
  cases call with
  | starting k => trivial
  | serving other => trivial
  | closing outcome other => trivial
  | lingering outcome other => exact h
  | ended outcome other => exact h

/-- **One action**: a run that is past the closing has waited for its end. -/
theorem RunGoes.hasAwaited {a : Action} {i : Nat} {call next : RunCall} (h : RunGoes s i a call next)
    (hcall : s.HasAwaited call) : s.HasAwaited next := by
  cases h with
  | stays => exact hcall
  | serves k listenFirst hstart => trivial
  | settles _ listenFirst outcome sides hsettles =>
      unfold settled
      split
      · rename_i result hresult
        exact hasAwaited_afterClosing (closing_of_result hresult) outcome sides
      · trivial
  | released listenFirst outcome sides result hclosing => exact hasAwaited_afterClosing hclosing outcome sides
  | rests listenFirst outcome sides hsides => exact ⟨_, hcall, fun fault hfault => by cases hfault⟩
  | graceOver outcome sides sides' => exact ⟨_, hcall, fun fault hfault => by cases hfault⟩
  | listens _ wait hsides => exact hasAwaited_withSides hcall _
  | refuses _ wait defect hsides hfault => exact hasAwaited_withSides hcall _
  | waits _ listen hsides => exact hasAwaited_withSides hcall _
  | stopsListening _ n wait ending hsides => exact hasAwaited_withSides hcall _

/-- **Any actions**: no run is past the closing before its end. -/
theorem hasAwaited_performAll (hruns : s.runs = []) (actions : List Action) {i : Nat} {call : RunCall}
    (h : (s.performAll env actions).runs[i]? = some call) : (s.performAll env actions).HasAwaited call := by
  induction actions using List.reverseRecOn generalizing i call with
  | nil =>
      have hnone : s.runs[i]? = some call := h
      rw [hruns] at hnone
      cases hnone
  | append_singleton actions a ih =>
      rw [performAll_append] at h ⊢
      rcases run_goes a h with ⟨before, hbefore, hgoes⟩ | ⟨rfl, -, rfl⟩
      · exact (hgoes.hasAwaited (ih hbefore)).forward (forward_perform env _ a)
      · trivial

/-! ## What the closing depends on -/

/-- What the closing can be driven on by once it was asked for: not by those who wait for it, be they runs or others. -/
def Action.Drives : Action → Bool
  | .run => true
  | .server _ => true
  | .beginClosing => true
  | .resumeClosing => true
  | _ => false

/-- The closing is where it is in another service, and the server is the same but for those who wait for its end. -/
structure SameCourse (s s' : Service) : Prop where
  closing : s'.closing = s.closing
  settings : s'.settings = s.settings
  server : s.server.SameBesides s'.server

theorem SameCourse.refl (s : Service) : SameCourse s s := ⟨rfl, rfl, s.server.waits, s.server.log, rfl⟩

theorem SameCourse.trans {t : Service} (h : SameCourse s s') (h' : SameCourse s' t) : SameCourse s t :=
  ⟨h'.closing.trans h.closing, h'.settings.trans h.settings, h.server.trans h'.server⟩

theorem SameCourse.symm (h : SameCourse s s') : SameCourse s' s :=
  ⟨h.closing.symm, h.settings.symm, h.server.symm⟩

theorem closing_requestClosing_of_asked (h : s.closing ≠ none) : s.requestClosing.closing = s.closing := by
  unfold requestClosing
  split
  · rename_i hnone
    exact absurd hnone h
  · rfl

theorem closing_resumeRun_of_asked (h : s.closing ≠ none) (i : Nat) (listenFirst : Bool) :
    (s.resumeRun i listenFirst).closing = s.closing := by
  rcases resumeRun_cases s i listenFirst with ⟨runs, hruns⟩ | ⟨runs, hruns⟩
  · rw [hruns]
  · rw [hruns]
    exact closing_requestClosing_of_asked h

/-- Whatever does not drive the closing leaves it where it is, once it was asked for. -/
theorem closing_of_not_drives {a : Action} (ha : a.Drives = false) (h : s.closing ≠ none) :
    (s.perform env a).closing = s.closing := by
  cases a with
  | run => cases ha
  | server b => cases ha
  | beginClosing => cases ha
  | resumeClosing => cases ha
  | resumeRun i listenFirst => exact closing_resumeRun_of_asked h i listenFirst
  | beginListening i => exact (aside_beginListening s i).closing
  | beginWaiting i => exact (aside_beginWaiting s i).closing
  | endListening i ending => exact (aside_endListening s i ending).closing
  | graceOver i => exact (aside_graceOver s i).closing
  | close => exact closing_requestClosing_of_asked h
  | cancelClose i => exact (aside_cancelClose s i).closing
  | resumeClose i => exact (aside_resumeClose s i).closing
  | turn position => exact (aside_onRuntime s _).closing
  | expire => exact (aside_onRuntime s _).closing
  | submit task => exact (aside_onRuntime s _).closing
  | closeRuntime => exact (aside_closeRuntime s).closing

theorem KeepsServer.sameBesides (h : KeepsServer s s') : s.server.SameBesides s'.server := by
  obtain ⟨-, log, hlog⟩ := h
  exact ⟨s.server.waits, log, hlog⟩

/-- **What does not drive the closing** leaves its course the same. -/
theorem sameCourse_of_not_drives {a : Action} (ha : a.Drives = false) (h : s.closing ≠ none) :
    SameCourse s (s.perform env a) := by
  rcases server_goes env s a with hkeeps | ⟨b, log, hasked, hsettings, hserver⟩
  · exact ⟨closing_of_not_drives ha h, hkeeps.1, hkeeps.sameBesides⟩
  · -- all that is asked of the server is to be told of its end
    cases hasked with
    | run => cases ha
    | beginClosing => cases ha
    | server => cases ha
    | beginWaiting i =>
        refine ⟨closing_of_not_drives ha h, hsettings, ?_⟩
        rw [hserver]
        exact (WebhookServer.besides_wait s.server).trans ⟨s.server.wait.waits, log, rfl⟩

theorem SameCourse.onServer (h : SameCourse s s') (b : WebhookServer.Action) :
    SameCourse (s.onServer fun server => server.perform b) (s'.onServer fun server => server.perform b) where
  closing := h.closing
  settings := h.settings
  server := by
    obtain ⟨waits, log, hsame⟩ := h.server.perform b
    exact ⟨waits, [], congrArg (fun server : WebhookServer => { server with log := [] }) hsame⟩

theorem SameCourse.finishClosing (h : SameCourse s s') (result : Except ServerFault Unit) :
    SameCourse (s.finishClosing result) (s'.finishClosing result) where
  closing := by rw [closing_finishClosing, closing_finishClosing]
  settings := by rw [(keepsServer_finishClosing s result).1, (keepsServer_finishClosing s' result).1, h.settings]
  server := by
    have hleft := (keepsServer_finishClosing s result).sameBesides
    have hright := (keepsServer_finishClosing s' result).sameBesides
    exact hleft.symm.trans (h.server.trans hright)

theorem SameCourse.setClosing (h : SameCourse s s') (state : ClosingState) :
    SameCourse (s.setClosing state) (s'.setClosing state) := ⟨rfl, h.settings, h.server⟩

theorem SameCourse.beginClosing (h : SameCourse s s') : SameCourse s.beginClosing s'.beginClosing := by
  unfold Service.beginClosing
  rw [h.closing]
  split
  · have hasked : SameCourse (s.onServer (WebhookServer.shutdown s.settings.gracePeriod))
        (s'.onServer (WebhookServer.shutdown s.settings.gracePeriod)) := h.onServer (.shutdown s.settings.gracePeriod)
    rw [h.settings, h.server.shutdowns]
    dsimp only
    rw [hasked.server.shutdowns]
    split
    · exact hasked.finishClosing _
    · exact hasked.setClosing _
  · exact h

theorem SameCourse.resumeClosing (h : SameCourse s s') : SameCourse s.resumeClosing s'.resumeClosing := by
  unfold Service.resumeClosing
  rw [h.closing]
  split
  · rw [h.server.shutdowns]
    split
    · exact h.finishClosing _
    · exact h
  · exact h

/-- **What drives the closing** drives it alike. -/
theorem SameCourse.perform (h : SameCourse s s') {a : Action} (ha : a.Drives = true) :
    SameCourse (s.perform env a) (s'.perform env a) := by
  cases a with
  | run => exact ⟨h.closing, h.settings, (h.onServer (.start env.bind)).server⟩
  | server b => exact h.onServer b
  | beginClosing => exact h.beginClosing
  | resumeClosing => exact h.resumeClosing
  | _ => cases ha

/-- **Any actions**: the closing goes on as if only those had happened that drive it. -/
theorem sameCourse_filter (env : Surroundings) (hs : s.closing ≠ none) (h : SameCourse s s') (actions : List Action) :
    SameCourse (s.performAll env actions) (s'.performAll env (actions.filter Action.Drives)) := by
  induction actions generalizing s s' with
  | nil => exact h
  | cons a actions ih =>
      have hasked : (s.perform env a).closing ≠ none :=
        stage_pos_iff.1 (Nat.lt_of_lt_of_le (stage_pos_iff.2 hs) (forward_perform env s a).stage_le)
      cases ha : a.Drives with
      | true =>
          rw [List.filter_cons_of_pos ha]
          exact ih hasked (h.perform ha)
      | false =>
          rw [List.filter_cons_of_neg (by simp [ha])]
          exact ih hasked ((sameCourse_of_not_drives ha hs).symm.trans h)

/-- Two courses of actions that drive the closing alike lead it to the same place. -/
theorem closing_of_same_drives (env : Surroundings) (hs : s.closing ≠ none) {actions actions' : List Action}
    (h : actions.filter Action.Drives = actions'.filter Action.Drives) :
    (s.performAll env actions).closing = (s.performAll env actions').closing := by
  have hleft := (sameCourse_filter env hs (SameCourse.refl s) actions).closing
  have hright := (sameCourse_filter env hs (SameCourse.refl s) actions').closing
  rw [← hleft, ← hright, h]

/-! ## Whatever happens -/

/-- **One closing for all who ask for it**, in the course of some actions. -/
structure SingleFlight (env : Surroundings) (s : Service) (actions : List Action) : Prop where
  /-- It is asked for once at most, begins once at most, and ends once at most. -/
  asked : ∀ m n, OccursAt env s actions (AsksClosing env) m → OccursAt env s actions (AsksClosing env) n → m = n
  begun : ∀ m n, OccursAt env s actions BeginsClosing m → OccursAt env s actions BeginsClosing n → m = n
  ended : ∀ m n, OccursAt env s actions (EndsClosing env) m → OccursAt env s actions (EndsClosing env) n → m = n
  /-- Whoever has learnt of an end has learnt of its end; whoever still waits learns of it when they look next. -/
  told : ∀ (i : Nat) (result : Except ServiceFault Unit), (s.performAll env actions).closers[i]? = some (.ended result) →
    (s.performAll env actions).closing = some (.ended result)
  learns : ∀ (i : Nat) (result : Except ServiceFault Unit), (s.performAll env actions).closers[i]? = some .waiting →
    (s.performAll env actions).closing = some (.ended result) →
    ((s.performAll env actions).resumeClose i).closers[i]? = some (.ended result)
  /-- The same goes for a run that waits on its way out. -/
  awaited : ∀ (i : Nat) (call : RunCall), (s.performAll env actions).runs[i]? = some call →
    (s.performAll env actions).HasAwaited call
  released : ∀ (i : Nat) (outcome : Except ServiceFault Unit) (sides : Option Sides) (listenFirst : Bool)
    (result : Except ServiceFault Unit), (s.performAll env actions).runs[i]? = some (.closing outcome sides) →
    (s.performAll env actions).closing = some (.ended result) →
    ((s.performAll env actions).resumeRun i listenFirst).runs[i]? = some (afterClosing outcome sides result)
  /-- From when it was asked for it goes on in the same way, whoever else asks for it, gives up, or never looks again. -/
  course : ∀ before after after', actions = before ++ after → (s.performAll env before).closing ≠ none →
    after.filter Action.Drives = after'.filter Action.Drives →
    (s.performAll env (before ++ after')).closing = (s.performAll env actions).closing

/-- Somebody who waits for a closing that has ended is told of its end. -/
theorem closers_resumeClose {i : Nat} {result : Except ServiceFault Unit} (hwaits : s.closers[i]? = some .waiting)
    (hended : s.closing = some (.ended result)) : (s.resumeClose i).closers[i]? = some (.ended result) := by
  have hresult := closingResult?_eq_some_iff.2 hended
  simp only [resumeClose, hwaits, hresult]
  exact List.getElem?_set_self (List.getElem?_eq_some_iff.1 hwaits).1

/-- A run that waits for a closing that has ended goes on. -/
theorem runs_resumeRun_of_ended {i : Nat} {outcome : Except ServiceFault Unit} {sides : Option Sides}
    {result : Except ServiceFault Unit} (hwaits : s.runs[i]? = some (.closing outcome sides))
    (hended : s.closing = some (.ended result)) (listenFirst : Bool) :
    (s.resumeRun i listenFirst).runs[i]? = some (afterClosing outcome sides result) := by
  have hresult := closingResult?_eq_some_iff.2 hended
  simp only [resumeRun, hwaits, hresult]
  exact List.getElem?_set_self (List.getElem?_eq_some_iff.1 hwaits).1

/-- **There is one closing for all who ask for it**, whatever happens to a service: however many callers and runs ask for it,
    in whatever order, and whoever of them gives up. -/
theorem closing_single_flight {settings : Settings} {conduct : RuntimeConduct} {capacity : Nat} {given : Option HttpSession}
    {s₀ : Service} (hcreate : create settings conduct capacity given = .ok s₀) (env : Surroundings) (actions : List Action) :
    SingleFlight env s₀ actions := by
  have hfresh := fresh_create hcreate
  refine ⟨?_, ?_, ?_, ?_, ?_, ?_, ?_, ?_⟩
  · exact fun m n => reachesStage_unique fun _ _ => AsksClosing.reachesStage
  · exact fun m n => reachesStage_unique fun _ _ => BeginsClosing.reachesStage
  · exact fun m n => reachesStage_unique fun _ _ => EndsClosing.reachesStage
  · intro i result hended
    have hstart : Closes (fun _ => False) s₀.runtimeClosings s₀.clientClosings 0 s₀ := by
      refine ⟨?_, fun i result _ hcloser => ?_⟩
      · rw [hfresh.closing]
        exact .unasked ⟨rfl, rfl⟩
      · rw [hfresh.closers] at hcloser
        cases hcloser
    exact (closes_performAll hstart actions).told i result (Nat.zero_le i) hended
  · exact fun i result => closers_resumeClose
  · exact fun i call => hasAwaited_performAll hfresh.runs actions
  · exact fun i outcome sides listenFirst result hwaits hended => runs_resumeRun_of_ended hwaits hended listenFirst
  · rintro before after after' rfl hasked hdrives
    rw [performAll_append, performAll_append]
    exact closing_of_same_drives env hasked hdrives.symm

/-- Two callers ask for the closing of a service that listens, and one of them gives up before the server has stopped. -/
def oneGivesUp : List Action :=
  startUp ++ [.close, .beginClosing, .close, .cancelClose 0, .server (.endServing 0 (.ok ())), .server (.resumeShutdown 0),
    .resumeClosing, .resumeClose 1]

theorem closing_single_flight_oneGivesUp :
    create .default .sound 1 none = .ok usual ∧
      (usual.performAll silentPeer oneGivesUp).closers = [.cancelled, .ended (.ok ())] ∧
      (usual.performAll silentPeer oneGivesUp).closing = some (.ended (.ok ())) := by
  have hclosers : (usual.performAll silentPeer oneGivesUp).closers = [.cancelled, .ended (.ok ())] := rfl
  have hflight := closing_single_flight create_usual silentPeer oneGivesUp
  exact ⟨create_usual, hclosers, hflight.told 1 (.ok ()) (congrArg (·[1]?) hclosers)⟩

end WebhookBridge.Service
