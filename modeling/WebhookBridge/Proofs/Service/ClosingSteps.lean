import WebhookBridge.Proofs.Service.Ending

/-!
# What a closing closes

The closing asks the server to stop, and what that call comes to decides about everything after it. If it returns, the
runtime and the client are closed, once each, whatever the runtime makes of it. If it fails, neither is closed: the closing
ends there and then, and as there is only one, nobody makes up for it.

## Contents

* `Service.Aside`: what goes on beside the closing;
* `Service.ClosingFrom`, `Service.Closes`: the closing by its state, with what it has closed so far;
* `Service.closes_perform`, `Service.closes_performAll`: whatever happens keeps the invariant;
* `Service.close_closes_once_iff`: what has been closed when somebody learns of the end of the closing.
-/

namespace WebhookBridge.Service

variable {s s' : Service} {env : Surroundings}

/-! ## Beside the closing -/

/-- A later service with the closing where it was: whoever has learnt of an end by now has done so before, or of the end of
    this closing. -/
structure Aside (s s' : Service) : Prop where
  closing : s'.closing = s.closing
  closers : ∀ (i : Nat) (result : Except ServiceFault Unit), s'.closers[i]? = some (.ended result) →
    s.closers[i]? = some (.ended result) ∨ s.closing = some (.ended result)
  runtimeClosings : s'.runtimeClosings = s.runtimeClosings
  ownsClient : s'.ownsClient = s.ownsClient
  clientClosings : s'.clientClosings = s.clientClosings
  stops : ∀ (k : Nat) (stop : Except ServerFault Unit),
    s.server.shutdowns[k]? = some (.ended stop) → s'.server.shutdowns[k]? = some (.ended stop)

theorem Aside.refl (s : Service) : Aside s s := ⟨rfl, fun _ _ h => Or.inl h, rfl, rfl, rfl, fun _ _ h => h⟩

theorem Aside.trans {t : Service} (h : Aside s s') (h' : Aside s' t) : Aside s t where
  closing := h'.closing.trans h.closing
  closers i result hcloser := by
    rcases h'.closers i result hcloser with hbefore | hended
    · exact h.closers i result hbefore
    · exact Or.inr (h.closing ▸ hended)
  runtimeClosings := h'.runtimeClosings.trans h.runtimeClosings
  ownsClient := h'.ownsClient.trans h.ownsClient
  clientClosings := h'.clientClosings.trans h.clientClosings
  stops k stop hstop := h'.stops k stop (h.stops k stop hstop)

theorem aside_onRuntime (s : Service) (f : TaskRuntime HttpSession → TaskRuntime HttpSession) : Aside s (s.onRuntime f) :=
  ⟨rfl, fun _ _ h => Or.inl h, rfl, rfl, rfl, fun _ _ h => h⟩

theorem aside_onServer (s : Service) (a : WebhookServer.Action) : Aside s (s.onServer fun server => server.perform a) :=
  ⟨rfl, fun _ _ h => Or.inl h, rfl, rfl, rfl, fun _ _ h => WebhookServer.shutdown_stays_ended h a⟩

theorem aside_setRun (s : Service) (i : Nat) (call : RunCall) : Aside s (s.setRun i call) :=
  ⟨rfl, fun _ _ h => Or.inl h, rfl, rfl, rfl, fun _ _ h => h⟩

theorem aside_closeRuntime (s : Service) : Aside s s.closeRuntime := by
  unfold closeRuntime
  split
  · exact aside_onRuntime s _
  · exact ⟨rfl, fun _ _ h => Or.inl h, rfl, rfl, rfl, fun _ _ h => h⟩

theorem aside_run (s : Service) (bind : Binder) : Aside s (s.run bind) :=
  have hserver := aside_onServer s (.start bind)
  ⟨hserver.closing, hserver.closers, hserver.runtimeClosings, hserver.ownsClient, hserver.clientClosings, hserver.stops⟩

theorem aside_beginListening (s : Service) (i : Nat) : Aside s (s.beginListening i) := by
  unfold beginListening
  split
  · exact Aside.refl s
  · split
    · split
      · exact aside_setRun s i _
      · exact (aside_onRuntime s _).trans (aside_setRun _ i _)
    · exact Aside.refl s

theorem aside_beginWaiting (s : Service) (i : Nat) : Aside s (s.beginWaiting i) := by
  unfold beginWaiting
  split
  · exact Aside.refl s
  · split
    · exact (aside_onServer s .wait).trans (aside_setRun _ i _)
    · exact Aside.refl s

theorem aside_endListening (s : Service) (i : Nat) (ending : Except Defect Unit) : Aside s (s.endListening i ending) := by
  unfold endListening
  split
  · exact Aside.refl s
  · split
    · split
      · exact Aside.refl s
      · exact (aside_onRuntime s _).trans (aside_setRun _ i _)
    · exact Aside.refl s

theorem aside_cancelListening (s : Service) (side : ListenSide) : Aside s (s.cancelListening side).1 := by
  unfold cancelListening
  split
  · exact Aside.refl s
  · split
    · rename_i n _
      show Aside s (s.onRuntime fun r => r.cancelListener n)
      exact aside_onRuntime s _
    · exact Aside.refl s

theorem aside_graceOver (s : Service) (i : Nat) : Aside s (s.graceOver i) := by
  unfold graceOver
  split
  · exact (aside_cancelListening s _).trans (aside_setRun _ i _)
  · exact Aside.refl s

/-- Somebody learns of the end of the closing. -/
theorem aside_resumeClose (s : Service) (i : Nat) : Aside s (s.resumeClose i) := by
  unfold resumeClose
  split
  · rename_i result _ hresult
    refine ⟨rfl, fun j told hcloser => ?_, rfl, rfl, rfl, fun _ _ h => h⟩
    have hset : (s.closers.set i (.ended result))[j]? = some (.ended told) := hcloser
    rw [List.getElem?_set] at hset
    split at hset
    · split at hset
      · cases hset
        exact Or.inr (closing_of_result hresult)
      · cases hset
    · exact Or.inl hset
  · exact Aside.refl s

/-- Somebody gives up, and learns of nothing. -/
theorem aside_cancelClose (s : Service) (i : Nat) : Aside s (s.cancelClose i) := by
  unfold cancelClose
  split
  · refine ⟨rfl, fun j told hcloser => ?_, rfl, rfl, rfl, fun _ _ h => h⟩
    have hset : (s.closers.set i .cancelled)[j]? = some (.ended told) := hcloser
    rw [List.getElem?_set] at hset
    split at hset
    · split at hset
      · cases hset
      · cases hset
    · exact Or.inl hset
  · exact Aside.refl s

/-! ## The closing by its state -/

/-- How often the runtime is closed after a call to stop. -/
def closingsAfter : Except ServerFault Unit → Nat
  | .ok () => 1
  | .error _ => 0

/-- How often the client is closed, which is only done if it is the service's own. -/
def clientClosingsAfter (s : Service) (stop : Except ServerFault Unit) : Nat := if s.ownsClient then closingsAfter stop else 0

theorem clientClosingsAfter_error (s : Service) (fault : ServerFault) : s.clientClosingsAfter (.error fault) = 0 := ite_self 0

theorem clientClosingsAfter_congr (h : s'.ownsClient = s.ownsClient) (stop : Except ServerFault Unit) :
    s'.clientClosingsAfter stop = s.clientClosingsAfter stop := by
  rw [clientClosingsAfter, clientClosingsAfter, h]

/-- The runtime and the client have been closed so many times. -/
def HasClosed (s : Service) (runtime client : Nat) : Prop := s.runtimeClosings = runtime ∧ s.clientClosings = client

/-- **The closing by its state**, and how often it has closed the runtime and the client: not at all until it has ended, and
    then by what its call to stop came to. -/
inductive ClosingFrom (call : Nat → Prop) (runtime client : Nat) (s : Service) : Option ClosingState → Prop
  | unasked (hclosed : s.HasClosed runtime client) : ClosingFrom call runtime client s none
  | requested (hclosed : s.HasClosed runtime client) : ClosingFrom call runtime client s (some .requested)
  | stopping (k : Nat) (hcall : call k) (hclosed : s.HasClosed runtime client) :
      ClosingFrom call runtime client s (some (.stoppingServer k))
  | ended (k : Nat) (stop : Except ServerFault Unit) (hcall : call k)
      (hstop : s.server.shutdowns[k]? = some (.ended stop))
      (hclosed : s.HasClosed (runtime + closingsAfter stop) (client + s.clientClosingsAfter stop)) :
      ClosingFrom call runtime client s (some (.ended (stop.mapError .server)))

/-- **The invariant of the one closing**: how far it has come, and that nobody who asked for it since has learnt of anything
    but its end. -/
structure Closes (call : Nat → Prop) (runtime client first : Nat) (s : Service) : Prop where
  closing : ClosingFrom call runtime client s s.closing
  told : ∀ i result, first ≤ i → s.closers[i]? = some (.ended result) → s.closing = some (.ended result)

variable {call : Nat → Prop} {runtime client first : Nat}

/-- What goes on beside the closing keeps the invariant. -/
theorem Closes.aside (h : Closes call runtime client first s) (haside : Aside s s') :
    Closes call runtime client first s' := by
  have hkept : ∀ {m n}, s.HasClosed m n → s'.HasClosed m n := fun hclosed =>
    ⟨haside.runtimeClosings.trans hclosed.1, haside.clientClosings.trans hclosed.2⟩
  refine ⟨?_, fun i result hi hcloser => ?_⟩
  · have hclosing := h.closing
    rw [haside.closing]
    generalize s.closing = closing at hclosing ⊢
    cases hclosing with
    | unasked hclosed => exact .unasked (hkept hclosed)
    | requested hclosed => exact .requested (hkept hclosed)
    | stopping k hcall hclosed => exact .stopping k hcall (hkept hclosed)
    | ended k stop hcall hstop hclosed =>
        refine .ended k stop hcall (haside.stops k stop hstop) (hkept ?_)
        rwa [clientClosingsAfter_congr haside.ownsClient]
  · rw [haside.closing]
    rcases haside.closers i result hcloser with hbefore | hended
    · exact h.told i result hi hbefore
    · exact hended

/-- More calls may be the closing's own. -/
theorem Closes.mono (h : Closes call runtime client first s) {call' : Nat → Prop} (hcalls : ∀ k, call k → call' k) :
    Closes call' runtime client first s := by
  refine ⟨?_, h.told⟩
  have hclosing := h.closing
  generalize s.closing = closing at hclosing ⊢
  cases hclosing with
  | unasked hclosed => exact .unasked hclosed
  | requested hclosed => exact .requested hclosed
  | stopping k hcall hclosed => exact .stopping k (hcalls k hcall) hclosed
  | ended k stop hcall hstop hclosed => exact .ended k stop (hcalls k hcall) hstop hclosed

/-! ## The closing goes on -/

theorem Closes.requestClosing (h : Closes call runtime client first s) :
    Closes call runtime client first s.requestClosing := by
  unfold Service.requestClosing
  split
  · rename_i hnone
    have hclosing := h.closing
    rw [hnone] at hclosing
    cases hclosing with
    | unasked hclosed =>
        refine ⟨.requested hclosed, fun i result hi hcloser => ?_⟩
        have hended := h.told i result hi hcloser
        rw [hnone] at hended
        cases hended
  · exact h

/-- A closing that has not ended has told nobody of an end. -/
theorem Closes.untold (h : Closes call runtime client first s) (hopen : ∀ result, s.closing ≠ some (.ended result))
    {i : Nat} (hi : first ≤ i) (result : Except ServiceFault Unit) : s.closers[i]? ≠ some (.ended result) :=
  fun hcloser => hopen result (h.told i result hi hcloser)

/-- The closing has closed nothing until it has ended. -/
theorem Closes.hasClosed (h : Closes call runtime client first s) (hopen : ∀ result, s.closing ≠ some (.ended result)) :
    s.HasClosed runtime client := by
  have hclosing := h.closing
  generalize s.closing = closing at hclosing hopen
  cases hclosing with
  | unasked hclosed => exact hclosed
  | requested hclosed => exact hclosed
  | stopping k hcall hclosed => exact hclosed
  | ended k stop hcall hstop hclosed => exact absurd rfl (hopen _)

/-- Once the server has stopped, the closing closes the runtime and the service's own client, and leaves the rest as it was. -/
theorem finishClosing_closes (s : Service) :
    (s.finishClosing (.ok ())).runtimeClosings = s.runtimeClosings + 1 ∧
      (s.finishClosing (.ok ())).clientClosings = s.clientClosings + s.clientClosingsAfter (.ok ()) ∧
      (s.finishClosing (.ok ())).closing = some (.ended (.ok ())) ∧
      (s.finishClosing (.ok ())).closers = s.closers ∧
      (s.finishClosing (.ok ())).server.shutdowns = s.server.shutdowns := by
  have hclient : (if s.closeRuntime.ownsClient then s.closeRuntime.clientClosings + 1 else s.closeRuntime.clientClosings)
      = s.clientClosings + s.clientClosingsAfter (.ok ()) := by
    have haside := aside_closeRuntime s
    rw [haside.ownsClient, haside.clientClosings, clientClosingsAfter]
    split
    · rfl
    · rfl
  have hsame : s.closeRuntime.closers = s.closers ∧
      s.closeRuntime.server.shutdowns = s.server.shutdowns := by
    unfold closeRuntime
    split
    · exact ⟨rfl, rfl⟩
    · exact ⟨rfl, rfl⟩
  obtain ⟨hclosers, hshutdowns⟩ := hsame
  rw [finishClosing]
  split
  · exact ⟨rfl, hclient, rfl, hclosers, hshutdowns⟩
  · exact ⟨rfl, hclient, rfl, hclosers, hshutdowns⟩

/-- **The rest of a closing**: it comes to what its call to stop came to. -/
theorem Closes.finishClosing (h : Closes call runtime client first s) (hopen : ∀ result, s.closing ≠ some (.ended result))
    {k : Nat} (hcall : call k) {stop : Except ServerFault Unit} (hstop : s.server.shutdowns[k]? = some (.ended stop)) :
    Closes call runtime client first (s.finishClosing stop) := by
  obtain ⟨hruntime, hclient⟩ := h.hasClosed hopen
  cases stop with
  | error fault =>
      refine ⟨.ended k (.error fault) hcall hstop ⟨hruntime, ?_⟩, fun i result hi hcloser => ?_⟩
      · rw [clientClosingsAfter_error]
        exact hclient
      · exact absurd hcloser (h.untold hopen hi result)
  | ok u =>
      obtain ⟨hruntime', hclient', hclosing, hclosers, hshutdowns⟩ := finishClosing_closes s
      refine ⟨?_, fun i result hi hcloser => ?_⟩
      · rw [hclosing]
        refine .ended k (.ok ()) hcall ?_ ⟨hruntime'.trans (congrArg (· + 1) hruntime), ?_⟩
        · exact (congrArg (·[k]?) hshutdowns).trans hstop
        · rw [clientClosingsAfter_congr (ownsClient_finishClosing s (.ok ())), hclient', hclient]
      · have hcloser' : s.closers[i]? = some (.ended result) := hclosers ▸ hcloser
        exact absurd hcloser' (h.untold hopen hi result)

/-- The closing is about to ask the server to stop, with the call at a position. -/
def AsksNow (s : Service) (a : Action) (k : Nat) : Prop :=
  a = .beginClosing ∧ s.closing = some .requested ∧ k = s.server.shutdowns.length

/-- **The closing begins**: it waits for its call to stop, or goes on at once. -/
theorem Closes.beginClosing (h : Closes call runtime client first s) :
    Closes (fun k => call k ∨ s.AsksNow .beginClosing k) runtime client first s.beginClosing := by
  have hmore : Closes (fun k => call k ∨ s.AsksNow .beginClosing k) runtime client first s :=
    h.mono fun k hk => Or.inl hk
  unfold Service.beginClosing
  split
  · rename_i hrequested
    have hopen : ∀ result, s.closing ≠ some (.ended result) := by simp [hrequested]
    have hasked := hmore.aside (aside_onServer s (.shutdown s.settings.gracePeriod))
    have hmine : call s.server.shutdowns.length ∨ s.AsksNow .beginClosing s.server.shutdowns.length :=
      Or.inr ⟨rfl, hrequested, rfl⟩
    dsimp only
    split
    · rename_i stop hstop
      exact hasked.finishClosing hopen hmine hstop
    · refine ⟨.stopping _ hmine (hasked.hasClosed hopen), fun i result hi hcloser => ?_⟩
      exact absurd hcloser (hasked.untold hopen hi result)
  · exact hmore

/-- **The closing goes on** when its call to stop has ended. -/
theorem Closes.resumeClosing (h : Closes call runtime client first s) :
    Closes call runtime client first s.resumeClosing := by
  unfold Service.resumeClosing
  split
  · rename_i k hstopping
    have hclosing := h.closing
    rw [hstopping] at hclosing
    cases hclosing with
    | stopping _ hcall hclosed =>
        have hopen : ∀ result, s.closing ≠ some (.ended result) := by simp [hstopping]
        split
        · rename_i stop hstop
          exact h.finishClosing hopen hcall hstop
        · exact h
  · exact h

/-- Whoever asks for a closing that has ended learns of its end at once. -/
theorem closers_close (s : Service) :
    ∃ added, s.close.closers = s.closers ++ [added] ∧
      ∀ result, added = .ended result → s.closing = some (.ended result) := by
  unfold close
  cases hresult : s.closingResult? with
  | none => exact ⟨_, rfl, fun result hadded => by cases hadded⟩
  | some ended =>
      refine ⟨_, rfl, fun result hadded => ?_⟩
      cases hadded
      exact closing_of_result hresult

/-- **Somebody more asks for the closing.** -/
theorem Closes.close (h : Closes call runtime client first s) : Closes call runtime client first s.close := by
  refine h.requestClosing.aside ⟨rfl, fun i result hcloser => ?_, rfl, rfl, rfl, fun _ _ hstop => hstop⟩
  have hclosers : s.requestClosing.closers = s.closers := by
    unfold Service.requestClosing
    split
    · rfl
    · rfl
  obtain ⟨added, happend, hadded⟩ := closers_close s
  rw [happend, List.getElem?_append, List.getElem?_singleton] at hcloser
  split at hcloser
  · exact Or.inl (hclosers ▸ hcloser)
  · split at hcloser
    · exact Or.inr ((onward_requestClosing s).closing _ (hadded _ (Option.some.inj hcloser)))
    · cases hcloser

/-! ## Whatever happens -/

theorem Closes.settleRun (h : Closes call runtime client first s) (i : Nat) (outcome : Except ServiceFault Unit)
    (sides : Option Sides) : Closes call runtime client first (s.settleRun i outcome sides) := by
  unfold Service.settleRun
  split
  · exact h.aside (aside_setRun s i _)
  · exact h.requestClosing.aside (aside_setRun _ i _)

theorem Closes.resumeRun (h : Closes call runtime client first s) (i : Nat) (listenFirst : Bool) :
    Closes call runtime client first (s.resumeRun i listenFirst) := by
  unfold Service.resumeRun
  split
  · split
    · exact h.aside (aside_setRun s i _)
    · exact h.settleRun i _ _
    · exact h
  · split
    · exact h
    · exact h.settleRun i _ _
  · split
    · exact h.aside (aside_setRun s i _)
    · exact h
  · split
    · exact h.aside (aside_setRun s i _)
    · exact h
  · exact h

/-- **One action** keeps the invariant; the call to stop that the closing makes is its own from then on. -/
theorem closes_perform (h : Closes call runtime client first s) (a : Action) :
    Closes (fun k => call k ∨ s.AsksNow a k) runtime client first (s.perform env a) := by
  have hmore : ∀ {t}, Closes call runtime client first t →
      Closes (fun k => call k ∨ s.AsksNow a k) runtime client first t := fun ht => ht.mono fun _ hk => Or.inl hk
  cases a with
  | run => exact hmore (h.aside (aside_run s env.bind))
  | resumeRun i listenFirst => exact hmore (h.resumeRun i listenFirst)
  | beginListening i => exact hmore (h.aside (aside_beginListening s i))
  | beginWaiting i => exact hmore (h.aside (aside_beginWaiting s i))
  | endListening i ending => exact hmore (h.aside (aside_endListening s i ending))
  | graceOver i => exact hmore (h.aside (aside_graceOver s i))
  | close => exact hmore h.close
  | cancelClose i => exact hmore (h.aside (aside_cancelClose s i))
  | resumeClose i => exact hmore (h.aside (aside_resumeClose s i))
  | beginClosing => exact h.beginClosing
  | resumeClosing => exact hmore h.resumeClosing
  | server a => exact hmore (h.aside (aside_onServer s a))
  | turn position => exact hmore (h.aside (aside_onRuntime s _))
  | expire => exact hmore (h.aside (aside_onRuntime s _))
  | submit task => exact hmore (h.aside (aside_onRuntime s _))
  | closeRuntime => exact hmore (h.aside (aside_closeRuntime s))

/-- **The closing's own call to stop** has this position: at some point the closing was asked for and began, and at that
    point as many calls to stop had been made. -/
def OwnStop (env : Surroundings) (s : Service) (actions : List Action) (k : Nat) : Prop :=
  ∃ before a after, actions = before ++ a :: after ∧ (s.performAll env before).AsksNow a k

/-- **Any order of actions** keeps the invariant. -/
theorem closes_performAll (h : Closes (fun _ => False) runtime client first s) (actions : List Action) :
    Closes (OwnStop env s actions) runtime client first (s.performAll env actions) := by
  induction actions using List.reverseRecOn with
  | nil => exact h.mono fun _ hk => absurd hk id
  | append_singleton actions a ih =>
      rw [performAll_append]
      refine (closes_perform ih a).mono fun k hk => ?_
      rcases hk with ⟨before, b, after, rfl, hnow⟩ | hnow
      · exact ⟨before, b, after ++ [a], by simp, hnow⟩
      · exact ⟨actions, a, [], rfl, hnow⟩

/-! ## What has been closed -/

/-- **What has been closed** when somebody learns of the end of the closing that they were the first to ask for, whatever
    state the service was in then and whatever has happened since: the closing's own call to stop has come to what they
    learn of, and the runtime and the service's own client have been closed once each exactly if it returned; otherwise
    neither has been closed. A client that was given to the service is never closed. Whether the runtime fails to close makes
    no difference. -/
theorem close_closes_once_iff (env : Surroundings) {s : Service} (hfirst : s.closing = none) (actions : List Action)
    {result : Except ServiceFault Unit}
    (hended : (s.performAll env (.close :: actions)).closers[s.closers.length]? = some (.ended result)) :
    ∃ k stop, OwnStop env s (.close :: actions) k ∧
      (s.performAll env (.close :: actions)).server.shutdowns[k]? = some (.ended stop) ∧
      result = stop.mapError .server ∧
      ((s.performAll env (.close :: actions)).HasClosed (s.runtimeClosings + 1)
          (s.clientClosings + if s.ownsClient then 1 else 0) ↔ stop = .ok ()) ∧
      (stop ≠ .ok () → (s.performAll env (.close :: actions)).HasClosed s.runtimeClosings s.clientClosings) := by
  have hstart : Closes (fun _ => False) s.runtimeClosings s.clientClosings s.closers.length s := by
    refine ⟨?_, fun i result hi hcloser => ?_⟩
    · rw [hfirst]
      exact .unasked ⟨rfl, rfl⟩
    · exact absurd (List.getElem?_eq_some_iff.1 hcloser).1 (Nat.not_lt.2 hi)
  have hcloses : Closes (OwnStop env s (.close :: actions)) s.runtimeClosings s.clientClosings s.closers.length
      (s.performAll env (.close :: actions)) := closes_performAll hstart _
  have hclosing := hcloses.closing
  rw [hcloses.told s.closers.length result (Nat.le_refl _) hended] at hclosing
  cases hclosing with
  | ended k stop hcall hstop hclosed =>
      rw [clientClosingsAfter_congr (ownsClient_performAll env _ s)] at hclosed
      refine ⟨k, stop, hcall, hstop, rfl, ?_, ?_⟩
      · cases stop with
        | ok u => exact ⟨fun _ => rfl, fun _ => hclosed⟩
        | error fault =>
            refine ⟨fun hboth => ?_, fun hok => by cases hok⟩
            exact absurd (hclosed.1.symm.trans hboth.1) (Nat.ne_of_lt (Nat.lt_succ_self _))
      · intro hfailed
        cases stop with
        | ok u => exact absurd rfl hfailed
        | error fault =>
            rw [clientClosingsAfter_error] at hclosed
            exact hclosed

/-- The closing is asked for and begins, the embedded server ends in some way, and whoever asked learns of the end. -/
def closeAfter (ending : Except Defect Unit) : List Action :=
  [.close, .beginClosing, .server (.endServing 0 ending), .server (.resumeShutdown 0), .resumeClosing, .resumeClose 0]

theorem close_closes_once_iff_orderly :
    (usual.performAll silentPeer startUp).closing = none ∧
      ((usual.performAll silentPeer startUp).performAll silentPeer (closeAfter (.ok ()))).closers[0]?
        = some (.ended (.ok ())) ∧
      ((usual.performAll silentPeer startUp).performAll silentPeer (closeAfter (.ok ()))).HasClosed 1 1 := by
  have hended : ((usual.performAll silentPeer startUp).performAll silentPeer (closeAfter (.ok ()))).closers[0]?
      = some (.ended (.ok ())) := rfl
  obtain ⟨k, stop, -, -, hresult, hiff, -⟩ := close_closes_once_iff silentPeer rfl _ hended
  refine ⟨rfl, hended, hiff.2 ?_⟩
  cases stop with
  | ok u => rfl
  | error fault => cases hresult

/-- A closing of which the call to stop fails closes nothing, whether the embedded server has failed or is missing. -/
theorem failedStop_closes_nothing :
    ((usual.performAll silentPeer startUp).performAll silentPeer (closeAfter (.error .tooDeep))).closers[0]?
        = some (.ended (.error (.server (.broken .tooDeep)))) ∧
      ((usual.performAll silentPeer startUp).performAll silentPeer (closeAfter (.error .tooDeep))).HasClosed 0 0 ∧
      (((usual.performAll silentPeer startUp).onServer fun server => { server with server := none }).performAll silentPeer
        [.close, .beginClosing, .resumeClose 0]).closers[0]? = some (.ended (.error (.server .nothingServing))) ∧
      (((usual.performAll silentPeer startUp).onServer fun server => { server with server := none }).performAll silentPeer
        [.close, .beginClosing, .resumeClose 0]).HasClosed 0 0 :=
  ⟨rfl, ⟨rfl, rfl⟩, rfl, ⟨rfl, rfl⟩⟩

end WebhookBridge.Service
