import Mathlib.Data.List.Induction
import WebhookBridge.Proofs.Service.Runs

/-!
# What a run leaves behind

A run closes everything on its way out, with two exceptions. If the closing began before the server had come to listen,
the server listens on after the run. If the embedded server has failed, the closing fails with it, and the run ends
without having closed the runtime or the client.

## Contents

* `Service.Action.IsStep`: what can happen to a service that is run;
* `Service.sound_perform`, `Service.sound_performAll`: actions and whole orders of them keep the invariant;
* `Service.AllClosed`, `Service.ClosesEarly`, `Service.ServingFailed`: what is to be closed, and what may prevent it;
* `Service.run_closes_everything_iff`: what is closed when a run has ended.
-/

namespace WebhookBridge

/-- The client makes no calls any more. -/
def HttpSession.IsClosed (session : HttpSession) : Prop := session.relay.isOpen = false

/-- A call does not open a client that is closed. -/
theorem Relay.http_isClosed (peer : Peer) (now : Moment) (session : HttpSession) (request : RelayRequest)
    (h : session.IsClosed) : ((Relay.http peer now).call session request).state.IsClosed := by
  show (session.relay.post _ now request.url request.body).relay.isOpen = false
  unfold HttpRelay.post
  split
  · exact h
  · dsimp only
    split
    · exact h
    · exact h

namespace Service

variable {s s' : Service} {early : Prop}

/-! ## The parts move -/

theorem onward_onRuntime {f : TaskRuntime HttpSession → TaskRuntime HttpSession}
    (hf : TaskRuntime.Lasts HttpSession.IsClosed s.runtime (f s.runtime)) : Onward s (s.onRuntime f) :=
  ⟨hf.listeners, fun _ h => h, rfl, fun _ h => h, fun _ h => h⟩

/-- The runtime moves. -/
theorem Sound.onRuntime (h : Sound early s) {f : TaskRuntime HttpSession → TaskRuntime HttpSession}
    (hf : TaskRuntime.Lasts HttpSession.IsClosed s.runtime (f s.runtime)) : Sound early (s.onRuntime f) :=
  have hclosing : ClosingSound early { s with runtime := f s.runtime } := closingSound_runtime h.closing hf.relay
  h.onward hclosing (onward_onRuntime hf) rfl

/-- The server moves by itself. -/
theorem Sound.onServer (h : Sound early s) {a : WebhookServer.Action} (ha : a.IsOwn) :
    Sound early (s.onServer fun server => server.perform a) := by
  obtain ⟨hlength, hstarts⟩ := WebhookServer.starts_perform s.server ha
  refine h.onward (closingSound_own h.closing ha) ?_ rfl
  exact ⟨fun _ hn => hn, fun _ hcall => WebhookServer.waitEnded_perform hcall ha, hlength, hstarts, fun _ hr => hr⟩

/-- Somebody waits for the server to end. -/
theorem Sound.onWait (h : Sound early s) : Sound early (s.onServer WebhookServer.wait) := by
  have hstarts : s.server.wait.starts = s.server.starts := congrArg ServerCore.starts (WebhookServer.core_wait s.server)
  refine h.onward (closingSound_wait h.closing) ?_ rfl
  exact ⟨fun _ hn => hn, fun _ hcall => WebhookServer.waitEnded_wait hcall, congrArg List.length hstarts,
    fun _ hr => hstarts.trans hr, fun _ hr => hr⟩

/-! ## The sides of a run -/

/-- A run has other sides, where the ones that it had have not both ended. -/
theorem Sound.setSides (h : Sound early s) {i : Nat} {call : RunCall} (hcall : s.runs[i]? = some call) {sides : Sides}
    (hsides : sidesOf? call = some sides) (hopen : ¬ s.SidesEnded sides) (other : Sides) :
    Sound early (s.setRun i (Service.withSides other call)) := by
  obtain ⟨hruns, rfl⟩ := h.runs.singleton hcall
  have hfits := h.runs
  rw [hruns] at hfits
  exact h.setRun hruns (hfits.withSides hsides hopen other)

/-- The side that listens begins. -/
theorem sound_beginListening (h : Sound early s) (i : Nat) : Sound early (s.beginListening i) := by
  unfold beginListening
  split
  · exact h
  · rename_i call hcall
    split
    · rename_i wait hsides
      have hfresh : ∀ t : Service, ¬ t.SidesEnded ⟨.fresh, wait⟩ := fun t hended => absurd hended.1 Bool.false_ne_true
      split
      · exact h.setSides hcall hsides (hfresh s) _
      · have hlisten : Sound early (s.onRuntime fun r => r.listen handlers) :=
          h.onRuntime (TaskRuntime.lasts_listen s.runtime handlers)
        exact hlisten.setSides hcall hsides (hfresh _) _
    · exact h

/-- The side that waits for the server begins. -/
theorem sound_beginWaiting (h : Sound early s) (i : Nat) : Sound early (s.beginWaiting i) := by
  unfold beginWaiting
  split
  · exact h
  · rename_i call hcall
    split
    · rename_i listen hsides
      exact h.onWait.setSides hcall hsides (fun hended => absurd hended.2 Bool.false_ne_true) _
    · exact h

/-- The side that listens ends by itself. -/
theorem sound_endListening (h : Sound early s) (i : Nat) (ending : Except Defect Unit) :
    Sound early (s.endListening i ending) := by
  unfold endListening
  split
  · exact h
  · rename_i call hcall
    split
    · rename_i n wait hsides
      split
      · exact h
      · rename_i hopen
        obtain ⟨hruns, rfl⟩ := h.runs.singleton hcall
        have hfits := h.runs
        rw [hruns] at hfits
        have hcancel := TaskRuntime.lasts_cancelListener (P := HttpSession.IsClosed) s.runtime n
        -- the listener is over in the later service: that the sides had not both ended is known of this one only
        have hsides' := hfits.withSides hsides (fun hended => hopen hended.1) ⟨endedSide ending, wait⟩
        exact (h.onRuntime hcancel).setRun hruns (hsides'.onward (onward_onRuntime hcancel))
    · exact h

/-- The side that listens is cancelled: it has ended then. -/
theorem sound_cancelListening (h : Sound early s) (side : ListenSide) :
    Sound early (s.cancelListening side).1 ∧ Onward s (s.cancelListening side).1 ∧
      (s.cancelListening side).1.runs = s.runs ∧
      ((s.cancelListening side).1.listenEnding? (s.cancelListening side).2).isSome = true := by
  unfold cancelListening
  split
  · rename_i ending hending
    exact ⟨h, Onward.refl s, rfl, by rw [hending]; rfl⟩
  · split
    · rename_i n _
      have hcancel := TaskRuntime.lasts_cancelListener (P := HttpSession.IsClosed) s.runtime n
      have hsound : Sound early (s.onRuntime fun r => r.cancelListener n) := h.onRuntime hcancel
      have hon : Onward s (s.onRuntime fun r => r.cancelListener n) := onward_onRuntime hcancel
      exact ⟨hsound, hon, rfl, rfl⟩
    · exact ⟨h, Onward.refl s, rfl, rfl⟩

/-- **The time for lingering is over**: both sides have ended. -/
theorem sound_graceOver (h : Sound early s) (i : Nat) : Sound early (s.graceOver i) := by
  unfold graceOver
  split
  · rename_i outcome sides hcall
    obtain ⟨hruns, rfl⟩ := h.runs.singleton hcall
    have hfits := h.runs
    rw [hruns] at hfits
    cases hfits with
    | lingering _ _ hstarts hclosing =>
        obtain ⟨hsound, hon, hsame, hlisten⟩ := sound_cancelListening h sides.listen
        obtain ⟨result, hstarts⟩ := hstarts
        refine hsound.setRun (hsame.trans hruns) (.done outcome _ ⟨result, hon.starts result hstarts⟩ (hon.closing _ hclosing) ?_)
        intro both hboth
        cases hboth
        refine ⟨hlisten, ?_⟩
        by_cases hwait : (s.waitEnding? sides.wait).isSome = true
        · have hsides : s.SidesEnded ⟨.cancelled, sides.wait⟩ := ⟨rfl, hwait⟩
          show ((s.cancelListening sides.listen).1.waitEnding? (if _ then _ else _)).isSome = true
          rw [if_pos hwait]
          exact (hon.sidesEnded hsides).2
        · show ((s.cancelListening sides.listen).1.waitEnding? (if _ then _ else _)).isSome = true
          rw [if_neg hwait]
          rfl
  · exact h

/-! ## Runs and closings -/

theorem runs_closeRuntime (s : Service) : s.closeRuntime.runs = s.runs := by
  unfold closeRuntime
  split
  · rfl
  · rfl

/-- The runtime is closed, by the closing or by somebody else. -/
theorem Sound.closeRuntime (h : Sound early s) : Sound early s.closeRuntime := by
  unfold Service.closeRuntime
  split
  · exact h.onRuntime (TaskRuntime.lasts_close s.runtime)
  · exact ⟨h.closing, h.runs.onward (.of_same rfl rfl fun _ hended => hended)⟩

theorem onward_closeRuntime (s : Service) : Onward s s.closeRuntime := by
  unfold Service.closeRuntime
  split
  · exact onward_onRuntime (TaskRuntime.lasts_close s.runtime)
  · exact .of_same rfl rfl fun _ hended => hended

/-- The closing goes on to its end. -/
theorem onward_finishClosing (hopen : ∀ result, s.closing ≠ some (.ended result)) (result : Except ServerFault Unit) :
    Onward s (s.finishClosing result) ∧ (s.finishClosing result).runs = s.runs := by
  cases result with
  | error fault => exact ⟨(Onward.refl s).setClosing hopen _, rfl⟩
  | ok u =>
      have hruns := runs_closeRuntime s
      have hclosed := onward_closeRuntime s
      rw [finishClosing]
      split
      · refine ⟨Onward.setClosing ?_ hopen _, hruns⟩
        exact hclosed.trans (.of_same rfl rfl fun _ hended => hended)
      · refine ⟨Onward.setClosing ?_ hopen _, hruns⟩
        exact hclosed.trans (.of_same rfl rfl fun _ hended => hended)

/-- The server is asked to stop. -/
theorem onward_shutdown (s : Service) (grace : Binary64) : Onward s (s.onServer (WebhookServer.shutdown grace)) := by
  have hstarts := WebhookServer.starts_shutdown s.server grace
  refine ⟨fun _ hn => hn, fun call hcall => ?_, congrArg List.length hstarts, fun _ hr => hstarts.trans hr,
    fun _ hr => hr⟩
  obtain ⟨result, hended⟩ := hcall
  refine ⟨result, ?_⟩
  show (s.server.shutdown grace).waits[call]? = _
  rw [WebhookServer.waits_shutdown, hended]

theorem onward_beginClosing (s : Service) : Onward s s.beginClosing ∧ s.beginClosing.runs = s.runs := by
  unfold beginClosing
  split
  · rename_i hrequested
    have hopen : ∀ result, s.closing ≠ some (.ended result) := by
      intro result hended
      rw [hrequested] at hended
      cases hended
    have hasked := onward_shutdown s s.settings.gracePeriod
    dsimp only
    split
    · rename_i result _
      obtain ⟨hfinish, hruns⟩ := onward_finishClosing
        (s := s.onServer (WebhookServer.shutdown s.settings.gracePeriod)) hopen result
      exact ⟨hasked.trans hfinish, hruns⟩
    · exact ⟨hasked.setClosing hopen _, rfl⟩
  · exact ⟨Onward.refl s, rfl⟩

theorem onward_resumeClosing (s : Service) : Onward s s.resumeClosing ∧ s.resumeClosing.runs = s.runs := by
  unfold resumeClosing
  split
  · rename_i call hstopping
    split
    · rename_i result _
      refine onward_finishClosing (fun ended hended => ?_) result
      rw [hstopping] at hended
      cases hended
    · exact ⟨Onward.refl s, rfl⟩
  · exact ⟨Onward.refl s, rfl⟩

/-- Who waits for the closing does not matter to it. -/
theorem Sound.withClosers (h : Sound early s) (closers : List CloseCall) : Sound early { s with closers := closers } :=
  ⟨h.closing, h.runs.onward (.of_same rfl rfl fun _ hended => hended)⟩

theorem sound_resumeClose (h : Sound early s) (i : Nat) : Sound early (s.resumeClose i) := by
  unfold resumeClose
  split
  · exact h.withClosers _
  · exact h

theorem sound_cancelClose (h : Sound early s) (i : Nat) : Sound early (s.cancelClose i) := by
  unfold cancelClose
  split
  · exact h.withClosers _
  · exact h

/-- **The run begins.** Nobody has started the server before. -/
theorem sound_run (h : Sound early s) (bind : Binder) (hone : (s.run bind).runs.length ≤ 1) : Sound early (s.run bind) := by
  have happend : (s.run bind).runs = s.runs ++ [.starting s.server.starts.length] := rfl
  -- one run is all there is, so that there was none before
  have hnone : s.runs = [] := by
    rw [happend, List.length_append] at hone
    exact List.eq_nil_of_length_eq_zero (Nat.le_zero.1 (Nat.le_of_succ_le_succ hone))
  have hfits := h.runs
  rw [hnone] at hfits
  cases hfits with
  | none hstarts =>
      have hserver := unstopped_of_no_start h.closing hstarts
      obtain ⟨-, hlength, -⟩ := WebhookServer.unstopped_start hserver hstarts bind
      refine ⟨closingSound_start h.closing hstarts bind, ?_⟩
      rw [happend, hnone, hstarts]
      exact .starting hlength

/-! ## Actions -/

/-- What can happen to a service that is run: nobody else calls its server. -/
def Action.IsStep : Action → Prop
  | .server a => a.IsOwn
  | _ => True

/-- The closing is about to begin although the server does not listen. -/
def ClosesNow (s : Service) (a : Action) : Prop :=
  a = .beginClosing ∧ s.closing = some .requested ∧ s.server.state ≠ .listening

variable {env : Surroundings}

/-- **One action** keeps the invariant, where it does not make a second run. -/
theorem sound_perform (henv : ∀ session request, HttpSession.IsClosed session → (env.relay.call session request).state.IsClosed)
    (h : Sound early s) {a : Action} (ha : a.IsStep) (hone : (s.perform env a).runs.length ≤ 1) :
    Sound (early ∨ s.ClosesNow a) (s.perform env a) := by
  -- only the beginning of the closing can be too early
  have hkeep : a ≠ .beginClosing → Sound early (s.perform env a) → Sound (early ∨ s.ClosesNow a) (s.perform env a) := by
    intro hother hsound
    have hsame : (early ∨ s.ClosesNow a) = early := by simp [ClosesNow, hother]
    rw [hsame]
    exact hsound
  cases a with
  | run => exact hkeep (by simp) (sound_run h env.bind hone)
  | resumeRun i listenFirst => exact hkeep (by simp) (sound_resumeRun h i listenFirst)
  | beginListening i => exact hkeep (by simp) (sound_beginListening h i)
  | beginWaiting i => exact hkeep (by simp) (sound_beginWaiting h i)
  | endListening i ending => exact hkeep (by simp) (sound_endListening h i ending)
  | graceOver i => exact hkeep (by simp) (sound_graceOver h i)
  | close => exact hkeep (by simp) (h.requestClosing.withClosers _)
  | cancelClose i => exact hkeep (by simp) (sound_cancelClose h i)
  | resumeClose i => exact hkeep (by simp) (sound_resumeClose h i)
  | resumeClosing =>
      obtain ⟨hon, hruns⟩ := onward_resumeClosing s
      exact hkeep (by simp) (h.onward (closingSound_resumeClosing h.closing) hon hruns)
  | server a => exact hkeep (by simp) (h.onServer ha)
  | turn position => exact hkeep (by simp) (h.onRuntime (TaskRuntime.lasts_take? henv s.runtime position))
  | expire => exact hkeep (by simp) (h.onRuntime (TaskRuntime.lasts_expire s.runtime))
  | submit task =>
      refine hkeep (by simp) (h.onRuntime ?_)
      cases hsubmit : s.runtime.submit task with
      | error fault => exact .refl s.runtime
      | ok r => exact TaskRuntime.lasts_submit hsubmit
  | closeRuntime => exact hkeep (by simp) h.closeRuntime
  | beginClosing =>
      obtain ⟨hon, hruns⟩ := onward_beginClosing s
      have hnow : s.ClosesNow .beginClosing = (s.closing = some .requested ∧ s.server.state ≠ .listening) := by
        simp [ClosesNow]
      rw [hnow]
      exact h.onward (closingSound_beginClosing h.closing) hon hruns

/-! ## Whole orders of actions -/

theorem length_runs_setRun (s : Service) (i : Nat) (call : RunCall) : (s.setRun i call).runs.length = s.runs.length :=
  List.length_set

theorem length_runs_settleRun (s : Service) (i : Nat) (outcome : Except ServiceFault Unit) (sides : Option Sides) :
    (s.settleRun i outcome sides).runs.length = s.runs.length := by
  unfold settleRun
  split
  · exact length_runs_setRun s i _
  · rw [length_runs_setRun, runs_requestClosing]

theorem length_runs_resumeRun (s : Service) (i : Nat) (listenFirst : Bool) :
    (s.resumeRun i listenFirst).runs.length = s.runs.length := by
  unfold resumeRun
  split
  · split
    · exact length_runs_setRun s i _
    · exact length_runs_settleRun s i _ _
    · rfl
  · split
    · rfl
    · exact length_runs_settleRun s i _ _
  · split
    · exact length_runs_setRun s i _
    · rfl
  · split
    · exact length_runs_setRun s i _
    · rfl
  · rfl

theorem length_runs_cancelListening (s : Service) (side : ListenSide) :
    (s.cancelListening side).1.runs.length = s.runs.length := by
  unfold cancelListening
  split
  · rfl
  · split
    · rfl
    · rfl

/-- Runs are never forgotten. -/
theorem length_runs_perform (env : Surroundings) (s : Service) (a : Action) :
    s.runs.length ≤ (s.perform env a).runs.length := by
  cases a with
  | run =>
      show s.runs.length ≤ (s.runs ++ [_]).length
      rw [List.length_append]
      exact Nat.le_add_right _ _
  | resumeRun i listenFirst => exact Nat.le_of_eq (length_runs_resumeRun s i listenFirst).symm
  | beginListening i =>
      show s.runs.length ≤ (s.beginListening i).runs.length
      unfold beginListening
      repeat' split
      all_goals first | exact Nat.le_refl _ | exact Nat.le_of_eq (length_runs_setRun _ i _).symm
  | beginWaiting i =>
      show s.runs.length ≤ (s.beginWaiting i).runs.length
      unfold beginWaiting
      repeat' split
      all_goals first | exact Nat.le_refl _ | exact Nat.le_of_eq (length_runs_setRun _ i _).symm
  | endListening i ending =>
      show s.runs.length ≤ (s.endListening i ending).runs.length
      unfold endListening
      repeat' split
      all_goals first | exact Nat.le_refl _ | exact Nat.le_of_eq (length_runs_setRun _ i _).symm
  | graceOver i =>
      show s.runs.length ≤ (s.graceOver i).runs.length
      unfold graceOver
      split
      · exact Nat.le_of_eq ((length_runs_setRun _ i _).trans (length_runs_cancelListening s _)).symm
      · exact Nat.le_refl _
  | close => exact Nat.le_of_eq (congrArg List.length (runs_requestClosing s)).symm
  | cancelClose i =>
      show s.runs.length ≤ (s.cancelClose i).runs.length
      unfold cancelClose
      split
      · exact Nat.le_refl _
      · exact Nat.le_refl _
  | resumeClose i =>
      show s.runs.length ≤ (s.resumeClose i).runs.length
      unfold resumeClose
      split
      · exact Nat.le_refl _
      · exact Nat.le_refl _
  | beginClosing => exact Nat.le_of_eq (congrArg List.length (onward_beginClosing s).2).symm
  | resumeClosing => exact Nat.le_of_eq (congrArg List.length (onward_resumeClosing s).2).symm
  | server a => exact Nat.le_refl _
  | turn position => exact Nat.le_refl _
  | expire => exact Nat.le_refl _
  | submit task => exact Nat.le_refl _
  | closeRuntime => exact Nat.le_of_eq (congrArg List.length (runs_closeRuntime s)).symm

theorem performAll_append (env : Surroundings) (s : Service) (before after : List Action) :
    s.performAll env (before ++ after) = (s.performAll env before).performAll env after := List.foldl_append

/-- **The closing began before the server listened**: at some point it was asked for and began, and at that point the
    server was stopped, starting or stopping. -/
def ClosesEarly (env : Surroundings) (s : Service) (actions : List Action) : Prop :=
  ∃ before a after, actions = before ++ a :: after ∧ (s.performAll env before).ClosesNow a

/-- What happened at some point of a longer run happened before, or with its last action. -/
theorem exists_split_append {α : Type} {p : List α → α → Prop} {l : List α} {a : α} :
    (∃ before b after, l ++ [a] = before ++ b :: after ∧ p before b) ↔
      (∃ before b after, l = before ++ b :: after ∧ p before b) ∨ p l a := by
  constructor
  · rintro ⟨before, b, after, hsplit, hp⟩
    rcases List.eq_nil_or_concat after with rfl | ⟨rest, last, rfl⟩
    · obtain ⟨rfl, hlast⟩ := List.append_inj' hsplit rfl
      cases hlast
      exact Or.inr hp
    · have hmoved : l ++ [a] = (before ++ b :: rest) ++ [last] := by simpa using hsplit
      obtain ⟨rfl, -⟩ := List.append_inj' hmoved rfl
      exact Or.inl ⟨before, b, rest, rfl, hp⟩
  · rintro (⟨before, b, after, rfl, hp⟩ | hp)
    · exact ⟨before, b, after ++ [a], by simp, hp⟩
    · exact ⟨l, a, [], rfl, hp⟩

theorem closesEarly_append (env : Surroundings) (s : Service) (actions : List Action) (a : Action) :
    ClosesEarly env s (actions ++ [a]) ↔ ClosesEarly env s actions ∨ (s.performAll env actions).ClosesNow a :=
  exists_split_append

/-- **Any order of actions** with at most one run keeps the invariant. -/
theorem sound_performAll
    (henv : ∀ session request, HttpSession.IsClosed session → (env.relay.call session request).state.IsClosed)
    (h : Sound False s) (actions : List Action) :
    (∀ a ∈ actions, a.IsStep) → (s.performAll env actions).runs.length ≤ 1 →
      Sound (ClosesEarly env s actions) (s.performAll env actions) := by
  induction actions using List.reverseRecOn with
  | nil =>
      intro _ _
      have hnone : ClosesEarly env s [] = False := by
        refine eq_false ?_
        rintro ⟨before, a, after, hsplit, -⟩
        exact absurd hsplit.symm (by simp)
      rw [hnone]
      exact h
  | append_singleton actions a ih =>
      intro hsteps hone
      rw [performAll_append] at hone
      -- there was at most one run before the last action as well
      have hbefore := ih (fun b hb => hsteps b (List.mem_append_left _ hb))
        (Nat.le_trans (length_runs_perform env _ a) hone)
      rw [performAll_append, closesEarly_append]
      exact sound_perform henv hbefore (hsteps a (by simp)) hone

/-! ## What is closed -/

/-- The invariant before anything happened. -/
theorem sound_create {settings : Settings} {conduct : RuntimeConduct} {capacity : Nat} {given : Option HttpSession}
    (h : create settings conduct capacity given = .ok s) : Sound False s := by
  unfold create at h
  split at h
  · cases h
  · split at h
    · cases h
    · cases h
      exact ⟨.unasked id (.idle rfl rfl rfl) rfl rfl, .none rfl⟩

/-- **Everything is closed**: the server has stopped and has no address, the runtime was closed, and the client as well if none
    was given to the service, and both sides of the run have ended. -/
structure AllClosed (s : Service) (given : Option HttpSession) (sides : Option Sides) : Prop where
  server : s.server.state = .stopped
  address : s.server.currentAddress = []
  runtime : 0 < s.runtimeClosings
  client : given = none → s.runtime.relay.IsClosed
  sides : ∀ both, sides = some both → s.SidesEnded both

/-- The server has come to listen. -/
def Started (s : Service) : Prop := StartCall.ended (.ok ()) ∈ s.server.starts

/-- An embedded server has ended with a defect. -/
def ServingFailed (s : Service) : Prop := ∃ serving ∈ s.server.servings, ∃ defect, serving.ending = some (.error defect)

theorem currentAddress_of_stopped {server : WebhookServer} (h : server.state = .stopped) : server.currentAddress = [] := by
  rw [WebhookServer.currentAddress, h]
  rfl

/-- A service to which no client was given has one of its own, which is closed if it is not open. -/
theorem isClosed_of_own {given : Option HttpSession} (hgiven : s.ownsClient = given.isNone) (hclient : s.ownClientOpen = false)
    (hnone : given = none) : s.runtime.relay.IsClosed := by
  rwa [ownClientOpen, hgiven, hnone, Option.isNone_none, Bool.true_and] at hclient

/-- What a closing that failed leaves. -/
theorem failed_iff {fault : ServiceFault} (h : ClosingSound early s) (hclosing : s.closing = some (.ended (.error fault)))
    (given : Option HttpSession) (sides : Option Sides) : s.AllClosed given sides ↔ ¬ (s.Started ∧ (early ∨ s.ServingFailed)) := by
  rw [ClosingSound, hclosing] at h
  cases h with
  | failed defect hearly hserver hclosings =>
      have hstarted : s.Started := by
        rw [Started, show s.server.starts = [.ended (.ok ())] from hserver.starts]
        exact List.mem_singleton.2 rfl
      obtain ⟨serving, hservings, hending⟩ := hserver.servings
      have hfailed : s.ServingFailed := by
        refine ⟨serving, ?_, defect, hending⟩
        rw [show s.server.servings = [serving] from hservings]
        exact List.mem_singleton.2 rfl
      constructor
      · intro hclosed
        exact absurd hclosings (Nat.ne_of_gt hclosed.runtime)
      · intro hnot
        exact absurd ⟨hstarted, Or.inr hfailed⟩ hnot

/-- What a closing that did not fail leaves, when the start has ended. -/
theorem done_iff (h : ClosingSound early s) {given : Option HttpSession} (hgiven : s.ownsClient = given.isNone) (hclosing : s.closing = some (.ended (.ok ())))
    (hstarts : ∃ result, s.server.starts = [.ended result]) {sides : Option Sides}
    (hsides : ∀ both, sides = some both → s.SidesEnded both) :
    s.AllClosed given sides ↔ ¬ (s.Started ∧ (early ∨ s.ServingFailed)) := by
  obtain ⟨result, hone⟩ := hstarts
  rw [ClosingSound, hclosing] at h
  cases h with
  | missed hearly hserver hcalls hclosings hclient =>
      cases hserver with
      | idle hnone _ _ => rw [show s.server.starts = [] from hnone] at hone; cases hone
      | starting serving hpolling _ _ => rw [show s.server.starts = _ from hpolling] at hone; cases hone
      | refused fault hrefused hstate =>
          -- the start was refused: there was nothing to stop, and the closing missed nothing
          have hnot : ¬ s.Started := by
            rw [Started, show s.server.starts = [.ended (.error fault)] from hrefused]
            simp
          exact ⟨fun _ hbad => hnot hbad.1,
            fun _ => ⟨hstate, currentAddress_of_stopped hstate, hclosings, isClosed_of_own hgiven hclient, hsides⟩⟩
      | listening serving hstarted _ hstate _ _ =>
          have hmem : s.Started := by
            rw [Started, show s.server.starts = [.ended (.ok ())] from hstarted]
            exact List.mem_singleton.2 rfl
          -- nobody will ask this server to stop again
          have hlistens : s.server.state = .listening := hstate
          refine ⟨fun hclosed => ?_, fun hnot => absurd ⟨hmem, Or.inl hearly⟩ hnot⟩
          have hstopped := hclosed.server
          rw [hlistens] at hstopped
          cases hstopped
  | stopped hearly hserver hclosings hclient =>
      obtain ⟨serving, hservings, hending⟩ := hserver.servings
      -- the embedded server, the only one, has ended well
      have hnot : ¬ s.ServingFailed := by
        rintro ⟨serving', hmem, defect, hfailed⟩
        rw [show s.server.servings = [serving] from hservings] at hmem
        cases List.mem_singleton.1 hmem
        rw [hending] at hfailed
        cases hfailed
      refine ⟨fun _ hbad => ?_, fun _ => ?_⟩
      · rcases hbad.2 with hbefore | hfailed
        · exact hearly hbefore
        · exact hnot hfailed
      · exact ⟨hserver.state, currentAddress_of_stopped hserver.state, hclosings, isClosed_of_own hgiven hclient, hsides⟩

/-- **What is closed when a run has ended.** Whatever order things happen in, and whatever becomes of the address, the
    embedded server, the listener and the runtime: when the one run of a service has ended, with whatever outcome,
    everything is closed, unless the server had come to listen and the closing began before it did, or the embedded server
    failed. -/
theorem run_closes_everything_iff {settings : Settings} {conduct : RuntimeConduct} {capacity : Nat}
    {given : Option HttpSession} {s₀ : Service} (hcreate : create settings conduct capacity given = .ok s₀) (bind : Binder) (peer : Peer) (now : Moment)
    {actions : List Action} (hsteps : ∀ a ∈ actions, a.IsStep) {outcome : Except ServiceFault Unit}
    {sides : Option Sides} (hended : (s₀.performAll ⟨bind, Relay.http peer now⟩ actions).runs = [.ended outcome sides]) :
    (s₀.performAll ⟨bind, Relay.http peer now⟩ actions).AllClosed given sides ↔
      ¬ ((s₀.performAll ⟨bind, Relay.http peer now⟩ actions).Started ∧
        (ClosesEarly ⟨bind, Relay.http peer now⟩ s₀ actions ∨
          (s₀.performAll ⟨bind, Relay.http peer now⟩ actions).ServingFailed)) := by
  have hone : (s₀.performAll ⟨bind, Relay.http peer now⟩ actions).runs.length ≤ 1 := by
    rw [hended]
    exact Nat.le_refl _
  have hsound : Sound (ClosesEarly ⟨bind, Relay.http peer now⟩ s₀ actions) _ :=
    sound_performAll (Relay.http_isClosed peer now) (sound_create hcreate) actions hsteps hone
  have hgiven := (ownsClient_performAll ⟨bind, Relay.http peer now⟩ actions s₀).trans (ownsClient_create hcreate)
  have hfits := hsound.runs
  rw [hended] at hfits
  cases hfits with
  | failed _ _ fault hstarts hclosing => exact failed_iff hsound.closing hclosing given sides
  | done _ _ hstarts hclosing hsides => exact done_iff hsound.closing hgiven hclosing hstarts hsides

/-- The service with the default settings and a runtime that does what it should. -/
def usual : Service where
  settings := .default
  app := ⟨[.literal "/webhook"]⟩
  conduct := .sound
  ownsClient := true
  server := .new ":4000" "INFO"
  runtime := .new 1 (.new Settings.defaultTimeout)
  closing := none
  closers := []
  runs := []
  runtimeClosings := 0
  clientClosings := 0
  log := []

/-- The service with the default settings, whosever its client is. -/
theorem create_default (given : Option HttpSession) : create .default .sound 1 given
    = .ok { usual with ownsClient := given.isNone, runtime := .new 1 (given.getD (.new Settings.defaultTimeout)) } := by
  have hparse : RoutePattern.parse Settings.default.endpoint = .ok [.literal "/webhook"] := by decide +kernel
  rw [create, if_neg (by decide), WebApp.create, hparse]
  rfl

theorem create_usual : create .default .sound 1 none = .ok usual := create_default none

/-- Any address can be bound, and no peer answers. -/
def silentPeer : Surroundings := ⟨.bound, Relay.http (fun _ => .silence) ⟨0, 1970⟩⟩

/-- A run begins, the server comes to listen, and so do both sides. -/
def startUp : List Action :=
  [.run, .server (.beginServing 0), .server (.resumeStart 0), .resumeRun 0 true, .beginListening 0, .beginWaiting 0]

/-- The closing is asked for and begins. -/
def closeDown : List Action := [.close, .beginClosing]

/-- A run of which the closing stops the server. -/
def orderlyRun : List Action :=
  startUp ++ closeDown ++ [.server (.endServing 0 (.ok ())), .server (.resumeShutdown 0), .server (.resumeWait 0),
    .resumeClosing, .turn 0, .turn 0, .resumeRun 0 true, .resumeRun 0 true]

/-- A run of which the closing came before its start. -/
def lateRun : List Action := closeDown ++ startUp ++ [.turn 0, .turn 0, .resumeRun 0 true, .graceOver 0]

theorem run_closes_everything_iff_orderly :
    create .default .sound 1 none = .ok usual ∧ (∀ a ∈ orderlyRun, a.IsStep) ∧
      (usual.performAll silentPeer orderlyRun).runs = [.ended (.ok ()) (some ⟨.listening 0, .waiting 0⟩)] ∧
      (usual.performAll silentPeer orderlyRun).Started ∧
      ¬ (ClosesEarly silentPeer usual orderlyRun ∨ (usual.performAll silentPeer orderlyRun).ServingFailed) := by
  have hsteps : ∀ a ∈ orderlyRun, a.IsStep := by
    simp [orderlyRun, startUp, closeDown, Action.IsStep, WebhookServer.Action.IsOwn]
  have hstarted : (usual.performAll silentPeer orderlyRun).Started := List.mem_singleton.2 rfl
  have hclosed : (usual.performAll silentPeer orderlyRun).AllClosed none (some ⟨.listening 0, .waiting 0⟩) := by
    refine ⟨rfl, rfl, Nat.one_pos, fun _ => rfl, fun both hboth => ?_⟩
    cases hboth
    exact ⟨rfl, rfl⟩
  have hnot := (run_closes_everything_iff create_usual .bound (fun _ => .silence) ⟨0, 1970⟩ hsteps rfl).1 hclosed
  exact ⟨create_usual, hsteps, rfl, hstarted, fun hbad => hnot ⟨hstarted, hbad⟩⟩

/-- A service that was closed before it was run serves on after the run. -/
theorem lateRun_leaves_listening :
    create .default .sound 1 none = .ok usual ∧ (∀ a ∈ lateRun, a.IsStep) ∧
      (usual.performAll silentPeer lateRun).runs = [.ended (.ok ()) (some ⟨.listening 0, .cancelled⟩)] ∧
      (usual.performAll silentPeer lateRun).server.state = .listening := by
  refine ⟨create_usual, ?_, rfl, rfl⟩
  simp [lateRun, startUp, closeDown, Action.IsStep, WebhookServer.Action.IsOwn]

end Service

end WebhookBridge
