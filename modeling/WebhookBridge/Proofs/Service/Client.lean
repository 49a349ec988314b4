import WebhookBridge.Proofs.TaskRuntime.Lasting
import WebhookBridge.Service.Lifecycle

/-!
# The client of a service

A service makes its calls through one client, which is its own or was given to it. Which of the two never changes. The client
itself is changed by calls, and closed by the closing if it is the service's own; so whatever these two keep of it holds for
as long as the service lives.

## Contents

* `Service.ownsClient_create`, `Service.ownsClient_performAll`: whose the client is;
* `Service.runtime_create`, `Service.runtime_requestClosing` and others: what does not touch the runtime;
* `Service.HasClient`, `Service.hasClient_perform`, `Service.hasClient_performAll`: what is kept of the client.
-/

namespace WebhookBridge.Service

variable {s s' : Service} {settings : Settings} {conduct : RuntimeConduct} {capacity : Nat} {given : Option HttpSession}

/-! ## Whose the client is -/

theorem ownsClient_create (h : create settings conduct capacity given = .ok s) : s.ownsClient = given.isNone := by
  unfold create at h
  split at h
  · cases h
  · split at h
    · cases h
    · cases h
      rfl

theorem ownsClient_closeRuntime (s : Service) : s.closeRuntime.ownsClient = s.ownsClient := by
  unfold closeRuntime
  split
  · rfl
  · rfl

theorem ownsClient_finishClosing (s : Service) (result : Except ServerFault Unit) :
    (s.finishClosing result).ownsClient = s.ownsClient := by
  cases result with
  | error fault => rfl
  | ok u =>
      rw [finishClosing]
      split
      · exact ownsClient_closeRuntime s
      · exact ownsClient_closeRuntime s

theorem ownsClient_requestClosing (s : Service) : s.requestClosing.ownsClient = s.ownsClient := by
  unfold requestClosing
  split
  · rfl
  · rfl

theorem ownsClient_settleRun (s : Service) (i : Nat) (outcome : Except ServiceFault Unit) (sides : Option Sides) :
    (s.settleRun i outcome sides).ownsClient = s.ownsClient := by
  unfold settleRun
  split
  · rfl
  · exact ownsClient_requestClosing s

theorem ownsClient_cancelListening (s : Service) (side : ListenSide) :
    (s.cancelListening side).1.ownsClient = s.ownsClient := by
  unfold cancelListening
  split
  · rfl
  · split
    · rfl
    · rfl

/-- **Whose the client is** never changes. -/
theorem ownsClient_perform (env : Surroundings) (s : Service) (a : Action) : (s.perform env a).ownsClient = s.ownsClient := by
  cases a with
  | run => rfl
  | resumeRun i listenFirst =>
      show (s.resumeRun i listenFirst).ownsClient = s.ownsClient
      unfold resumeRun
      repeat' split
      all_goals first | rfl | exact ownsClient_settleRun s i _ _
  | beginListening i =>
      show (s.beginListening i).ownsClient = s.ownsClient
      unfold beginListening
      repeat' split
      all_goals rfl
  | beginWaiting i =>
      show (s.beginWaiting i).ownsClient = s.ownsClient
      unfold beginWaiting
      repeat' split
      all_goals rfl
  | endListening i ending =>
      show (s.endListening i ending).ownsClient = s.ownsClient
      unfold endListening
      repeat' split
      all_goals rfl
  | graceOver i =>
      show (s.graceOver i).ownsClient = s.ownsClient
      unfold graceOver
      split
      · exact ownsClient_cancelListening s _
      · rfl
  | close => exact ownsClient_requestClosing s
  | cancelClose i =>
      show (s.cancelClose i).ownsClient = s.ownsClient
      unfold cancelClose
      split
      · rfl
      · rfl
  | resumeClose i =>
      show (s.resumeClose i).ownsClient = s.ownsClient
      unfold resumeClose
      split
      · rfl
      · rfl
  | beginClosing =>
      show s.beginClosing.ownsClient = s.ownsClient
      unfold beginClosing
      split
      · dsimp only
        split
        · exact ownsClient_finishClosing _ _
        · rfl
      · rfl
  | resumeClosing =>
      show s.resumeClosing.ownsClient = s.ownsClient
      unfold resumeClosing
      repeat' split
      all_goals first | rfl | exact ownsClient_finishClosing s _
  | server a => rfl
  | turn position => rfl
  | expire => rfl
  | submit task => rfl
  | closeRuntime => exact ownsClient_closeRuntime s

theorem ownsClient_performAll (env : Surroundings) (actions : List Action) :
    ∀ s : Service, (s.performAll env actions).ownsClient = s.ownsClient := by
  induction actions with
  | nil => exact fun s => rfl
  | cons a actions ih => exact fun s => (ih (s.perform env a)).trans (ownsClient_perform env s a)

/-! ## What does not touch the runtime -/

theorem runtime_create (h : create settings conduct capacity given = .ok s) :
    s.runtime = .new capacity (given.getD (HttpSession.new settings.httpTimeout)) := by
  unfold create at h
  split at h
  · cases h
  · split at h
    · cases h
    · cases h
      rfl

theorem runtime_requestClosing (s : Service) : s.requestClosing.runtime = s.runtime := by
  unfold requestClosing
  split
  · rfl
  · rfl

theorem runtime_settleRun (s : Service) (i : Nat) (outcome : Except ServiceFault Unit) (sides : Option Sides) :
    (s.settleRun i outcome sides).runtime = s.runtime := by
  unfold settleRun
  split
  · rfl
  · exact runtime_requestClosing s

theorem runtime_resumeRun (s : Service) (i : Nat) (listenFirst : Bool) :
    (s.resumeRun i listenFirst).runtime = s.runtime := by
  unfold resumeRun
  split
  · split
    · rfl
    · exact runtime_settleRun s i _ _
    · rfl
  · split
    · rfl
    · exact runtime_settleRun s i _ _
  · split
    · rfl
    · rfl
  · split
    · rfl
    · rfl
  · rfl

theorem runtime_cancelClose (s : Service) (i : Nat) : (s.cancelClose i).runtime = s.runtime := by
  unfold cancelClose
  split
  · rfl
  · rfl

theorem runtime_resumeClose (s : Service) (i : Nat) : (s.resumeClose i).runtime = s.runtime := by
  unfold resumeClose
  split
  · rfl
  · rfl

/-! ## What is kept of the client -/

/-- The client has a property. -/
def HasClient (P : HttpSession → Prop) (s : Service) : Prop := P s.runtime.relay

section Kept

variable {P : HttpSession → Prop}

theorem HasClient.of_runtime (h : s.HasClient P) (hruntime : s'.runtime = s.runtime) : s'.HasClient P := by
  rw [HasClient, hruntime]
  exact h

theorem HasClient.onRuntime (h : s.HasClient P) {f : TaskRuntime HttpSession → TaskRuntime HttpSession}
    (hf : TaskRuntime.Lasts P s.runtime (f s.runtime)) : (s.onRuntime f).HasClient P := hf.relay h

theorem HasClient.beginListening (h : s.HasClient P) (i : Nat) : (s.beginListening i).HasClient P := by
  unfold Service.beginListening
  split
  · exact h
  · split
    · split
      · exact h
      · have hlistens : (s.onRuntime fun r => r.listen handlers).HasClient P :=
          h.onRuntime (TaskRuntime.lasts_listen s.runtime handlers)
        exact hlistens
    · exact h

theorem HasClient.beginWaiting (h : s.HasClient P) (i : Nat) : (s.beginWaiting i).HasClient P := by
  unfold Service.beginWaiting
  split
  · exact h
  · split
    · exact h
    · exact h

theorem HasClient.cancelListener (h : s.HasClient P) (n : Nat) : (s.onRuntime fun r => r.cancelListener n).HasClient P :=
  h.onRuntime (TaskRuntime.lasts_cancelListener s.runtime n)

theorem HasClient.endListening (h : s.HasClient P) (i : Nat) (ending : Except Defect Unit) :
    (s.endListening i ending).HasClient P := by
  unfold Service.endListening
  split
  · exact h
  · split
    · split
      · exact h
      · exact h.cancelListener _
    · exact h

theorem HasClient.cancelListening (h : s.HasClient P) (side : ListenSide) : (s.cancelListening side).1.HasClient P := by
  unfold Service.cancelListening
  split
  · exact h
  · split
    · exact h.cancelListener _
    · exact h

theorem HasClient.graceOver (h : s.HasClient P) (i : Nat) : (s.graceOver i).HasClient P := by
  unfold Service.graceOver
  split
  · exact h.cancelListening _
  · exact h

theorem HasClient.closeRuntime (h : s.HasClient P) : s.closeRuntime.HasClient P := by
  unfold Service.closeRuntime
  split
  · exact h.onRuntime (TaskRuntime.lasts_close s.runtime)
  · exact h

/-- The client is closed if it is the service's own. -/
theorem HasClient.closeClient (h : s.HasClient P) (hclosed : s.ownsClient = true → ∀ session, P session → P session.closed) :
    s.closeClient.HasClient P := by
  show P (if s.ownsClient then s.runtime.relay.closed else s.runtime.relay)
  split
  · rename_i hown
    exact hclosed hown _ h
  · exact h

theorem HasClient.finishClosing (h : s.HasClient P)
    (hclosed : s.ownsClient = true → ∀ session, P session → P session.closed) (result : Except ServerFault Unit) :
    (s.finishClosing result).HasClient P := by
  cases result with
  | error fault => exact h
  | ok u =>
      rw [← ownsClient_closeRuntime s] at hclosed
      rw [Service.finishClosing]
      split
      · exact HasClient.closeClient h.closeRuntime hclosed
      · exact HasClient.closeClient h.closeRuntime hclosed

theorem HasClient.beginClosing (h : s.HasClient P)
    (hclosed : s.ownsClient = true → ∀ session, P session → P session.closed) : s.beginClosing.HasClient P := by
  unfold Service.beginClosing
  split
  · have hasked : (s.onServer (WebhookServer.shutdown s.settings.gracePeriod)).HasClient P := h
    dsimp only
    split
    · exact hasked.finishClosing hclosed _
    · exact hasked
  · exact h

theorem HasClient.resumeClosing (h : s.HasClient P)
    (hclosed : s.ownsClient = true → ∀ session, P session → P session.closed) : s.resumeClosing.HasClient P := by
  unfold Service.resumeClosing
  split
  · split
    · exact h.finishClosing hclosed _
    · exact h
  · exact h

theorem HasClient.submit (h : s.HasClient P) (task : TaskInfo) :
    (s.onRuntime fun r => (r.submit task).toOption.getD r).HasClient P := by
  apply h.onRuntime
  cases hsubmit : s.runtime.submit task with
  | ok r => exact TaskRuntime.lasts_submit hsubmit
  | error fault => exact .refl s.runtime

/-- **One action and the client**: what calls keep of it is kept, if closing it keeps that as well where it is the service's
    own. -/
theorem hasClient_perform {env : Surroundings}
    (hcalls : ∀ session request, P session → P (env.relay.call session request).state)
    (hclosed : s.ownsClient = true → ∀ session, P session → P session.closed) (h : s.HasClient P) (a : Action) :
    (s.perform env a).HasClient P := by
  cases a with
  | run => exact h
  | resumeRun i listenFirst => exact h.of_runtime (runtime_resumeRun s i listenFirst)
  | beginListening i => exact h.beginListening i
  | beginWaiting i => exact h.beginWaiting i
  | endListening i ending => exact h.endListening i ending
  | graceOver i => exact h.graceOver i
  | close => exact h.of_runtime (runtime_requestClosing s)
  | cancelClose i => exact h.of_runtime (runtime_cancelClose s i)
  | resumeClose i => exact h.of_runtime (runtime_resumeClose s i)
  | beginClosing => exact h.beginClosing hclosed
  | resumeClosing => exact h.resumeClosing hclosed
  | server b => exact h
  | turn position => exact h.onRuntime (TaskRuntime.lasts_take? hcalls s.runtime position)
  | expire => exact h.onRuntime (TaskRuntime.lasts_expire s.runtime)
  | submit task => exact h.submit task
  | closeRuntime => exact h.closeRuntime

/-- **Any order of actions.** -/
theorem hasClient_performAll {env : Surroundings}
    (hcalls : ∀ session request, P session → P (env.relay.call session request).state)
    (hclosed : s.ownsClient = true → ∀ session, P session → P session.closed) (h : s.HasClient P) (actions : List Action) :
    (s.performAll env actions).HasClient P := by
  induction actions generalizing s with
  | nil => exact h
  | cons a actions ih =>
      apply ih
      · rw [ownsClient_perform]
        exact hclosed
      · exact hasClient_perform hcalls hclosed h a

end Kept

end WebhookBridge.Service
