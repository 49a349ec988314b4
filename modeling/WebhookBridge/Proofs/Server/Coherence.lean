import Mathlib.Data.List.Chain
import WebhookBridge.Proofs.Server.Stages

/-!
# The server at every moment

Calls to start, to stop and to wait may come from anywhere and at any time, and embedded servers come up and go down as
they like. What the server holds fits the state that it is in at every moment nonetheless, and the state only ever moves
along its cycle, or back to stopped where a start fails.

## Contents

* `ServerState.Leads`: the moves that a server may make;
* `WebhookServer.stages`, `start_eq`, `shutdown_eq`: what an action passes through, where it changes the state twice;
* `WebhookServer.Coherent`, `coherent_perform`, `coherent_run`: what fits together at every moment;
* `WebhookServer.Coherent.isChain_stages`: an action moves along the cycle;
* `WebhookServer.Orderly`, `Proceeds`, `orderly_run`: what can be said of a server whatever has happened to it.
-/

namespace WebhookBridge

/-- **The moves of a server**: around from stopped over starting, listening and stopping, and from starting back. -/
inductive ServerState.Leads : ServerState → ServerState → Prop
  | start : Leads .stopped .starting
  | listen : Leads .starting .listening
  | fail : Leads .starting .stopped
  | stop : Leads .listening .stopping
  | finish : Leads .stopping .stopped

/-- Whether a call to start has not ended. -/
def StartCall.isPolling : StartCall → Bool
  | .polling _ => true
  | .ended _ => false

/-- Whether a call to stop has not ended. -/
def ShutdownCall.isWaiting : ShutdownCall → Bool
  | .waiting _ _ => true
  | .ended _ => false

/-- The text of a host and a port holds a colon at least. -/
theorem Address.format_ne_nil (a : Address) : a.format ≠ [] := by
  unfold format formatHostPort
  split
  · exact List.cons_ne_nil _ _
  · have hcolon : (":" : Text) ≠ [] := by decide
    simp [hcolon]

namespace WebhookServer

variable {s t : WebhookServer}

/-! ## Calls in small steps -/

/-- The server after one of its moves, or after something that left it where it was. -/
def Moves (s t : WebhookServer) : Prop := t.state = s.state ∨ s.state.Leads t.state

/-- A call to start is let in. -/
def enterStart (s : WebhookServer) : WebhookServer := s.withState .starting

/-- A call to start that was let in opens a socket with an embedded server, or fails. -/
def openStart (bind : Binder) (s : WebhookServer) : WebhookServer :=
  match s.openServing bind with
  | (s, .ok n) => s.addStart (.polling n)
  | (s, .error fault) => (s.withState .stopped).addStart (.ended (.error fault))

/-- A call to stop is let in: the embedded server is asked to end, and the call is about to wait for it. -/
def enterShutdown (grace : Binary64) (s : WebhookServer) : WebhookServer :=
  match s.server, s.serving with
  | some m, some n => ((s.withState .stopping).requestEnd m grace).addShutdown (.waiting n s.socket)
  | _, _ => (s.withState .stopping).addShutdown (.ended (.error .nothingServing))

/-- What an action passes through, one after the other; between two of these the state is written once at most. -/
def stages (s : WebhookServer) : Action → List WebhookServer
  | .start bind => if s.state = .stopped then [s.enterStart, s.enterStart.openStart bind] else [s.start bind]
  | .shutdown grace =>
    if s.state = .listening then [s.enterShutdown grace, (s.enterShutdown grace).resumeShutdown s.shutdowns.length]
    else [s.shutdown grace]
  | a => [s.perform a]

theorem openServing_withState (s : WebhookServer) (state : ServerState) (bind : Binder) :
    (s.withState state).openServing bind
      = ((s.openServing bind).1.withState state, (s.openServing bind).2) := by
  have hlisten : (s.withState state).listenAddress = s.listenAddress := rfl
  unfold openServing
  rw [hlisten]
  cases Address.parse s.listenAddress with
  | error error => rfl
  | ok a =>
      dsimp only
      cases bind a with
      | refused reason => rfl
      | failed defect => rfl
      | bound b =>
          dsimp only
          show (if embeddedLogLevels.contains s.logLevel then _ else _) = _
          split
          · rfl
          · rfl

/-- Opening a socket moves nothing. -/
theorem state_openServing (s : WebhookServer) (bind : Binder) : (s.openServing bind).1.state = s.state :=
  congrArg (·.1.state) (openServing_withState s s.state bind)

theorem withState_self (h : s.state = .stopped) : s.withState .stopped = s := by
  rw [withState, ← h]

/-- **A start** from the stopped state is let in first, and then opens a socket. -/
theorem start_eq (h : s.state = .stopped) (bind : Binder) : s.start bind = s.enterStart.openStart bind := by
  rw [start, if_neg (by simp [h]), openStart, enterStart, openServing_withState]
  have hstate := (state_openServing s bind).trans h
  cases hopen : s.openServing bind with
  | mk opened result =>
      rw [hopen] at hstate
      cases result with
      | ok n => rfl
      | error fault =>
          show opened.addStart _ = (opened.withState .stopped).addStart _
          rw [withState_self hstate]

/-- **A stop** from the listening state is let in first, and then goes on as far as it can. -/
theorem shutdown_eq (h : s.state = .listening) (grace : Binary64) :
    s.shutdown grace = (s.enterShutdown grace).resumeShutdown s.shutdowns.length := by
  have hcall : ∀ call, (s.shutdowns ++ [call])[s.shutdowns.length]? = some call := by simp
  rw [shutdown, if_neg (by simp [h]), enterShutdown]
  cases s.server with
  | none => simp only [resumeShutdown, addShutdown, withState, hcall]
  | some m =>
      cases s.serving with
      | none => simp only [resumeShutdown, addShutdown, withState, hcall]
      | some n =>
          simp only [resumeShutdown, addShutdown, withState, requestEnd, hcall, endingOf?]
          cases ((s.servings.modify m _)[n]?.bind (·.ending)) with
          | none => rfl
          | some ending =>
              -- the call that was about to wait takes the last place, whether it has waited or not
              cases s.socket with
              | none => simp [finishShutdown, drop, report]
              | some k => simp [finishShutdown, drop, report, closeSocket]

/-! ## What fits together -/

/-- The server holds nothing. -/
def Clear (s : WebhookServer) : Prop := s.server = none ∧ s.serving = none ∧ s.socket = none ∧ s.address = []

/-- The server holds an embedded server, which serves the socket that it holds as well, and an address. -/
def Holds (s : WebhookServer) (n : Nat) (held : Serving) : Prop :=
  s.servings[n]? = some held ∧ s.server = some n ∧ s.serving = some n ∧ s.socket = some held.socket ∧ s.address ≠ []

/-- **What fits together at every moment**: the calls that wait and what is held, by the state. A server that starts may
    have let in a call that does not poll yet. -/
structure Coherent (s : WebhookServer) : Prop where
  starts : s.starts.countP StartCall.isPolling ≤ if s.state = .starting then 1 else 0
  shutdowns : s.shutdowns.countP ShutdownCall.isWaiting = if s.state = .stopping then 1 else 0
  clear : s.state = .stopped ∨ s.state = .starting → s.Clear
  holds : s.state = .listening ∨ s.state = .stopping → ∃ n held, s.Holds n held
  waits : ∀ n socket, .waiting n socket ∈ s.shutdowns → s.serving = some n ∧ s.socket = socket
  served : .ended (.error .nothingServing) ∉ s.shutdowns
  bound : ∀ serving ∈ s.servings, ∃ socket, s.sockets[serving.socket]? = some socket ∧ socket.bound.isSome = true

theorem coherent_new (listenAddress logLevel : Text) : (new listenAddress logLevel).Coherent where
  starts := Nat.le_refl 0
  shutdowns := rfl
  clear _ := ⟨rfl, rfl, rfl, rfl⟩
  holds h := by rcases h with h | h <;> cases h
  waits _ _ h := by cases h
  served h := by cases h
  bound _ h := by cases h

/-! ### Embedded servers and sockets -/

/-- An embedded server that changes still serves its socket. -/
theorem Coherent.modifyServings (h : s.Coherent) (n : Nat) {f : Serving → Serving}
    (hf : ∀ serving, (f serving).socket = serving.socket) :
    { s with servings := s.servings.modify n f }.Coherent where
  starts := h.starts
  shutdowns := h.shutdowns
  clear := h.clear
  holds hstate := by
    obtain ⟨m, held, hfound, hserver, hserving, hsocket, haddress⟩ := h.holds hstate
    have hsame : (if n = m then f held else held).socket = held.socket := by
      split
      · exact hf held
      · rfl
    refine ⟨m, if n = m then f held else held, ?_, hserver, hserving, ?_, haddress⟩
    · show (s.servings.modify n f)[m]? = _
      rw [List.getElem?_modify, hfound]
      rfl
    · rw [hsame]
      exact hsocket
  waits := h.waits
  served := h.served
  bound serving hmem := by
    obtain ⟨m, hm⟩ := List.mem_iff_getElem?.1 hmem
    rw [show ({ s with servings := s.servings.modify n f } : WebhookServer).servings = s.servings.modify n f from rfl,
      List.getElem?_modify] at hm
    obtain ⟨before, hbefore, rfl⟩ := Option.map_eq_some_iff.1 hm
    obtain ⟨socket, hsocket, hbound⟩ := h.bound before (List.mem_of_getElem? hbefore)
    refine ⟨socket, ?_, hbound⟩
    rw [← hsocket]
    split
    · rw [hf]
    · rfl

/-- Sockets that come up, or are closed, do not matter to the others. -/
theorem Coherent.withSockets (h : s.Coherent) {sockets : List Socket}
    (hbound : ∀ (k : Nat) (socket : Socket), s.sockets[k]? = some socket →
      ∃ socket', sockets[k]? = some socket' ∧ socket'.bound = socket.bound) :
    { s with sockets := sockets }.Coherent where
  starts := h.starts
  shutdowns := h.shutdowns
  clear := h.clear
  holds := h.holds
  waits := h.waits
  served := h.served
  bound serving hmem := by
    obtain ⟨socket, hsocket, hsome⟩ := h.bound serving hmem
    obtain ⟨socket', hsocket', hsame⟩ := hbound _ _ hsocket
    exact ⟨socket', hsocket', hsame ▸ hsome⟩

theorem Coherent.addSocket (h : s.Coherent) (bound : Option Address) (isOpen : Bool) :
    (s.addSocket bound isOpen).Coherent := by
  refine h.withSockets fun k socket hsocket => ⟨socket, ?_, rfl⟩
  rw [List.getElem?_append_left (List.getElem?_eq_some_iff.1 hsocket).1, hsocket]

theorem Coherent.closeSocket (h : s.Coherent) (n : Nat) : (s.closeSocket n).Coherent := by
  refine h.withSockets fun k socket hsocket => ?_
  rw [List.getElem?_modify, hsocket]
  refine ⟨_, rfl, ?_⟩
  split
  · rfl
  · rfl

/-! ### Calls -/

/-- A call to start that has ended does not matter. -/
theorem Coherent.addStart (h : s.Coherent) (result : Except ServerFault Unit) :
    (s.addStart (.ended result)).Coherent where
  starts := by
    show (s.starts ++ [StartCall.ended result]).countP StartCall.isPolling ≤ _
    rw [List.countP_append]
    exact h.starts
  shutdowns := h.shutdowns
  clear := h.clear
  holds := h.holds
  waits := h.waits
  served := h.served
  bound := h.bound

/-- A call to stop that has ended does not matter. -/
theorem Coherent.addShutdown (h : s.Coherent) : (s.addShutdown (.ended (.ok ()))).Coherent where
  starts := h.starts
  shutdowns := by
    show (s.shutdowns ++ [ShutdownCall.ended (.ok ())]).countP ShutdownCall.isWaiting = _
    rw [List.countP_append, h.shutdowns]
    rfl
  clear := h.clear
  holds := h.holds
  waits n socket hmem := by
    rcases List.mem_append.1 hmem with hmem | hmem
    · exact h.waits n socket hmem
    · cases List.mem_singleton.1 hmem
  served hmem := by
    rcases List.mem_append.1 hmem with hmem | hmem
    · exact h.served hmem
    · cases List.mem_singleton.1 hmem
  bound := h.bound

/-- No call to start polls unless the server starts. -/
theorem Coherent.starts_eq (h : s.Coherent) (hstate : s.state ≠ .starting) :
    s.starts.countP StartCall.isPolling = 0 := by
  have hle := h.starts
  rw [if_neg hstate] at hle
  exact Nat.le_zero.1 hle

/-- No call to stop waits unless the server stops. -/
theorem Coherent.shutdowns_eq (h : s.Coherent) (hstate : s.state ≠ .stopping) :
    s.shutdowns.countP ShutdownCall.isWaiting = 0 := by
  rw [h.shutdowns, if_neg hstate]

/-- A server with a call to start that polls is starting. -/
theorem Coherent.state_of_polling (h : s.Coherent) {i n : Nat} (hcall : s.starts[i]? = some (.polling n)) :
    s.state = .starting := by
  refine Decidable.byContradiction fun hstate => ?_
  exact List.countP_eq_zero.1 (h.starts_eq hstate) _ (List.mem_of_getElem? hcall) rfl

/-- A server with a call to stop that waits is stopping. -/
theorem Coherent.state_of_waiting (h : s.Coherent) {n : Nat} {socket : Option Nat}
    (hcall : .waiting n socket ∈ s.shutdowns) : s.state = .stopping := by
  refine Decidable.byContradiction fun hstate => ?_
  exact List.countP_eq_zero.1 (h.shutdowns_eq hstate) _ hcall rfl

/-- No call to start is left once the one that polled has ended. -/
theorem Coherent.countP_starts_set (h : s.Coherent) {i n : Nat} (hcall : s.starts[i]? = some (.polling n))
    (result : Except ServerFault Unit) : (s.starts.set i (.ended result)).countP StartCall.isPolling = 0 := by
  obtain ⟨hlt, hget⟩ := List.getElem?_eq_some_iff.1 hcall
  have hle := h.starts
  rw [if_pos (h.state_of_polling hcall)] at hle
  rw [List.countP_set hlt, hget]
  exact Nat.sub_eq_zero_of_le hle

/-- No call to stop is left once the one that waited has ended. -/
theorem Coherent.countP_shutdowns_set (h : s.Coherent) {i n : Nat} {socket : Option Nat}
    (hcall : s.shutdowns[i]? = some (.waiting n socket)) (result : Except ServerFault Unit) :
    (s.shutdowns.set i (.ended result)).countP ShutdownCall.isWaiting = 0 := by
  obtain ⟨hlt, hget⟩ := List.getElem?_eq_some_iff.1 hcall
  rw [List.countP_set hlt, hget, h.shutdowns, if_pos (h.state_of_waiting (List.mem_of_getElem? hcall))]
  rfl

/-! ### Starting -/

/-- The one call to start polls from the moment that its embedded server is there. -/
theorem Coherent.beginPolling (h : s.Coherent) (hstopped : s.state = .stopped) (b : Address) :
    ((((s.addSocket (some b) true).addServing s.sockets.length).withState .starting).addStart
      (.polling s.servings.length)).Coherent where
  starts := by
    show (s.starts ++ [StartCall.polling s.servings.length]).countP StartCall.isPolling ≤ 1
    rw [List.countP_append, h.starts_eq (by simp [hstopped])]
    exact Nat.le_refl 1
  shutdowns := h.shutdowns_eq (by simp [hstopped])
  clear _ := h.clear (Or.inl hstopped)
  holds hstate := by rcases hstate with hstate | hstate <;> cases hstate
  waits := h.waits
  served := h.served
  bound serving hmem := by
    have hmem' : serving ∈ s.servings ++ [⟨s.sockets.length, false, none, none⟩] := hmem
    rcases List.mem_append.1 hmem' with hmem | hmem
    · exact (h.addSocket (some b) true).bound serving hmem
    · refine ⟨⟨some b, true⟩, ?_, rfl⟩
      rw [List.mem_singleton.1 hmem]
      exact List.getElem?_concat_length

/-- A start that is let in finds nothing held. -/
theorem Coherent.enterStart (h : s.Coherent) (hstopped : s.state = .stopped) : s.enterStart.Coherent where
  starts := Nat.le_trans (Nat.le_of_eq (h.starts_eq (by simp [hstopped]))) (Nat.zero_le 1)
  shutdowns := h.shutdowns_eq (by simp [hstopped])
  clear _ := h.clear (Or.inl hstopped)
  holds hstate := by rcases hstate with hstate | hstate <;> cases hstate
  waits := h.waits
  served := h.served
  bound := h.bound

/-- A start that was let in waits for its embedded server, or has failed. -/
theorem Coherent.openStart (h : s.Coherent) (hstopped : s.state = .stopped) (bind : Binder) :
    (s.enterStart.openStart bind).Coherent := by
  rw [← start_eq hstopped, start, if_neg (by simp [hstopped]), openServing]
  cases Address.parse s.listenAddress with
  | error error => exact h.addStart _
  | ok a =>
      dsimp only
      cases bind a with
      | refused reason => exact (h.addSocket none false).addStart _
      | failed defect => exact (h.addSocket none true).addStart _
      | bound b =>
          dsimp only
          cases embeddedLogLevels.contains s.logLevel with
          | false => exact (h.addSocket (some b) true).addStart _
          | true => exact h.beginPolling hstopped b

/-- A start whose embedded server ended before it accepted connections leads back to the stopped state. -/
theorem Coherent.failStart (h : s.Coherent) {i n : Nat} (hcall : s.starts[i]? = some (.polling n)) (socket : Nat)
    (fault : ServerFault) : (s.failStart i socket fault).Coherent where
  starts := Nat.le_of_eq (h.countP_starts_set hcall _)
  shutdowns := h.shutdowns_eq (by simp [h.state_of_polling hcall])
  clear _ := h.clear (Or.inr (h.state_of_polling hcall))
  holds hstate := by rcases hstate with hstate | hstate <;> cases hstate
  waits := h.waits
  served := h.served
  bound := (h.closeSocket socket).bound

/-- A start whose embedded server accepts connections leads to a server that holds it. -/
theorem Coherent.completeStart (h : s.Coherent) {i n : Nat} (hcall : s.starts[i]? = some (.polling n)) {held : Serving}
    (hheld : s.servings[n]? = some held) : (s.completeStart i n held.socket).Coherent where
  starts := Nat.le_of_eq (h.countP_starts_set hcall _)
  shutdowns := h.shutdowns_eq (by simp [h.state_of_polling hcall])
  clear hstate := by rcases hstate with hstate | hstate <;> cases hstate
  holds _ := by
    obtain ⟨socket, hsocket, hbound⟩ := h.bound held (List.mem_of_getElem? hheld)
    obtain ⟨b, hb⟩ := Option.isSome_iff_exists.1 hbound
    have haddress : (s.completeStart i n held.socket).address = b.format := by
      simp only [WebhookServer.completeStart, hold, report, hsocket, Option.bind_some, hb]
    refine ⟨n, held, hheld, rfl, rfl, rfl, ?_⟩
    rw [haddress]
    exact b.format_ne_nil
  -- nobody waits for a server that starts
  waits m socket hmem := by
    have hstate := (h.state_of_polling hcall).symm.trans (h.state_of_waiting hmem)
    cases hstate
  served := h.served
  bound := h.bound

theorem Coherent.resumeStart (h : s.Coherent) (i : Nat) : (s.resumeStart i).Coherent := by
  unfold WebhookServer.resumeStart
  split
  · rename_i n hcall
    split
    · exact h
    · rename_i held hheld
      split
      · exact h.completeStart hcall hheld
      · split
        · exact h
        · exact h.failStart hcall held.socket _
        · exact h.failStart hcall held.socket _
  · exact h

/-! ### Stopping -/

theorem Coherent.enterShutdown (h : s.Coherent) (hlistening : s.state = .listening) (grace : Binary64) :
    (s.enterShutdown grace).Coherent := by
  obtain ⟨n, held, hfound, hserver, hserving, hsocket, haddress⟩ := h.holds (Or.inl hlistening)
  have hwaiting : ({ s with state := .stopping, shutdowns := s.shutdowns ++ [.waiting n s.socket] } :
      WebhookServer).Coherent :=
    { starts := Nat.le_of_eq (h.starts_eq (by simp [hlistening]))
      shutdowns := by
        show (s.shutdowns ++ [ShutdownCall.waiting n s.socket]).countP ShutdownCall.isWaiting = 1
        rw [List.countP_append, h.shutdowns_eq (by simp [hlistening])]
        rfl
      clear := fun hstate => by rcases hstate with hstate | hstate <;> cases hstate
      holds := fun _ => ⟨n, held, hfound, hserver, hserving, hsocket, haddress⟩
      waits := fun m socket hmem => by
        rcases List.mem_append.1 hmem with hmem | hmem
        · exact h.waits m socket hmem
        · cases List.mem_singleton.1 hmem
          exact ⟨hserving, rfl⟩
      served := fun hmem => by
        rcases List.mem_append.1 hmem with hmem | hmem
        · exact h.served hmem
        · cases List.mem_singleton.1 hmem
      bound := h.bound }
  rw [WebhookServer.enterShutdown, hserver, hserving]
  exact hwaiting.modifyServings n fun _ => rfl

/-- A call that learns of the end of an embedded server does not miss one. -/
theorem passOn_ne_nothingServing (ending : Except Defect Unit) : passOn ending ≠ .error .nothingServing := by
  cases ending with
  | ok _ => exact fun h => by cases h
  | error defect => exact fun h => by cases h

/-- The server lets go of what it holds when the one call that waited has ended. -/
theorem Coherent.letGo (h : s.Coherent) {i n : Nat} {socket : Option Nat}
    (hcall : s.shutdowns[i]? = some (.waiting n socket)) (ending : Except Defect Unit) (message : Text) :
    { s.drop.report message with shutdowns := s.shutdowns.set i (.ended (passOn ending)) }.Coherent where
  starts := Nat.le_of_eq (h.starts_eq (by simp [h.state_of_waiting (List.mem_of_getElem? hcall)]))
  shutdowns := h.countP_shutdowns_set hcall _
  clear _ := ⟨rfl, rfl, rfl, rfl⟩
  holds hstate := by rcases hstate with hstate | hstate <;> cases hstate
  waits _ _ hmem := absurd rfl (List.countP_eq_zero.1 (h.countP_shutdowns_set hcall _) _ hmem)
  served hmem := by
    rcases List.mem_or_eq_of_mem_set hmem with hmem | heq
    · exact h.served hmem
    · exact passOn_ne_nothingServing ending (ShutdownCall.ended.inj heq).symm
  bound := h.bound

theorem Coherent.resumeShutdown (h : s.Coherent) (i : Nat) : (s.resumeShutdown i).Coherent := by
  unfold WebhookServer.resumeShutdown
  split
  · rename_i n socket hcall
    split
    · exact h
    · rename_i ending _
      cases socket with
      | none => exact h.letGo hcall ending _
      | some k => exact (h.closeSocket k).letGo hcall ending _
  · exact h

/-! ### Everything that can happen -/

theorem Coherent.withWaits (h : s.Coherent) (waits : List WaitCall) : { s with waits := waits }.Coherent :=
  ⟨h.starts, h.shutdowns, h.clear, h.holds, h.waits, h.served, h.bound⟩

theorem Coherent.wait (h : s.Coherent) : s.wait.Coherent := by
  unfold WebhookServer.wait
  split
  · exact h.withWaits _
  · split
    · exact h.withWaits _
    · exact h.withWaits _

theorem Coherent.resumeWait (h : s.Coherent) (i : Nat) : (s.resumeWait i).Coherent := by
  unfold WebhookServer.resumeWait
  split
  · split
    · exact h
    · exact h.withWaits _
  · exact h

theorem Coherent.start (h : s.Coherent) (bind : Binder) : (s.start bind).Coherent := by
  by_cases hstopped : s.state = .stopped
  · rw [start_eq hstopped]
    exact h.openStart hstopped bind
  · rw [WebhookServer.start, if_pos hstopped]
    exact h.addStart _

theorem Coherent.shutdown (h : s.Coherent) (grace : Binary64) : (s.shutdown grace).Coherent := by
  by_cases hlistening : s.state = .listening
  · rw [shutdown_eq hlistening]
    exact (h.enterShutdown hlistening grace).resumeShutdown _
  · rw [WebhookServer.shutdown, if_pos hlistening]
    exact h.addShutdown

/-- **Whatever happens**, what fits together does so afterwards. -/
theorem coherent_perform (h : s.Coherent) (a : Action) : (s.perform a).Coherent := by
  cases a with
  | start bind => exact h.start bind
  | shutdown grace => exact h.shutdown grace
  | wait => exact h.wait
  | resumeStart i => exact h.resumeStart i
  | resumeShutdown i => exact h.resumeShutdown i
  | resumeWait i => exact h.resumeWait i
  | beginServing n =>
      refine h.modifyServings n fun serving => ?_
      split
      · rfl
      · rfl
  | endServing n ending =>
      refine h.modifyServings n fun serving => ?_
      split
      · rfl
      · rfl

theorem coherent_run (h : s.Coherent) (actions : List Action) : (s.run actions).Coherent := by
  induction actions generalizing s with
  | nil => exact h
  | cons a actions ih => exact ih (coherent_perform h a)

/-! ## The moves -/

/-- A call to start that was let in goes on, or leads back to the stopped state. -/
theorem moves_openStart (h : s.state = .starting) (bind : Binder) : s.Moves (s.openStart bind) := by
  have hstate := state_openServing s bind
  unfold openStart
  cases hopen : s.openServing bind with
  | mk opened result =>
      rw [hopen] at hstate
      cases result with
      | ok n => exact Or.inl hstate
      | error fault =>
          refine Or.inr ?_
          rw [h]
          exact .fail

theorem state_enterShutdown (s : WebhookServer) (grace : Binary64) : (s.enterShutdown grace).state = .stopping := by
  unfold enterShutdown
  split
  · rfl
  · rfl

theorem Coherent.moves_resumeStart (h : s.Coherent) (i : Nat) : s.Moves (s.resumeStart i) := by
  unfold WebhookServer.resumeStart
  split
  · rename_i n hcall
    have hstate := h.state_of_polling hcall
    split
    · exact Or.inl rfl
    · split
      · exact Or.inr (hstate ▸ .listen)
      · split
        · exact Or.inl rfl
        · exact Or.inr (hstate ▸ .fail)
        · exact Or.inr (hstate ▸ .fail)
  · exact Or.inl rfl

theorem Coherent.moves_resumeShutdown (h : s.Coherent) (i : Nat) : s.Moves (s.resumeShutdown i) := by
  unfold WebhookServer.resumeShutdown
  split
  · rename_i n socket hcall
    split
    · exact Or.inl rfl
    · exact Or.inr (h.state_of_waiting (List.mem_of_getElem? hcall) ▸ .finish)
  · exact Or.inl rfl

/-- An action that writes the state once at most is one move. -/
theorem isChain_of_moves (h : s.Moves t) : List.IsChain Moves [s, t] := .cons_cons h (.singleton t)

/-- **An action moves along the cycle**, once or twice. -/
theorem Coherent.isChain_stages (h : s.Coherent) (a : Action) : List.IsChain Moves (s :: s.stages a) := by
  cases a with
  | start bind =>
      show List.IsChain Moves (s :: if s.state = .stopped then _ else _)
      split
      · rename_i hstopped
        have henter : s.Moves s.enterStart := Or.inr (hstopped ▸ .start)
        exact .cons_cons henter (isChain_of_moves (moves_openStart rfl bind))
      · rename_i hstopped
        refine isChain_of_moves (Or.inl ?_)
        rw [WebhookServer.start, if_pos hstopped]
        rfl
  | shutdown grace =>
      show List.IsChain Moves (s :: if s.state = .listening then _ else _)
      split
      · rename_i hlistening
        have henter : s.Moves (s.enterShutdown grace) :=
          Or.inr (by rw [hlistening, state_enterShutdown]; exact .stop)
        exact .cons_cons henter (isChain_of_moves ((h.enterShutdown hlistening grace).moves_resumeShutdown _))
      · rename_i hlistening
        refine isChain_of_moves (Or.inl ?_)
        rw [WebhookServer.shutdown, if_pos hlistening]
        rfl
  | wait => exact isChain_of_moves (Or.inl (congrArg ServerCore.state s.core_wait))
  | resumeStart i => exact isChain_of_moves (h.moves_resumeStart i)
  | resumeShutdown i => exact isChain_of_moves (h.moves_resumeShutdown i)
  | resumeWait i => exact isChain_of_moves (Or.inl (congrArg ServerCore.state (s.core_resumeWait i)))
  | beginServing n => exact isChain_of_moves (Or.inl rfl)
  | endServing n ending => exact isChain_of_moves (Or.inl rfl)

/-- An action is the last of what it passes through. -/
theorem getLast?_stages (s : WebhookServer) (a : Action) : (s.stages a).getLast? = some (s.perform a) := by
  cases a with
  | start bind =>
      show (if s.state = ServerState.stopped then _ else _ : List WebhookServer).getLast? = _
      split
      · rename_i hstopped
        exact congrArg some (start_eq hstopped bind).symm
      · rfl
  | shutdown grace =>
      show (if s.state = ServerState.listening then _ else _ : List WebhookServer).getLast? = _
      split
      · rename_i hlistening
        exact congrArg some (shutdown_eq hlistening grace).symm
      · rfl
  | _ => rfl

/-- What fits together does so in the midst of an action, too. -/
theorem Coherent.stages (h : s.Coherent) (a : Action) : ∀ t ∈ s.stages a, t.Coherent := by
  have hlast : ∀ t ∈ [s.perform a], t.Coherent := fun t ht => List.mem_singleton.1 ht ▸ coherent_perform h a
  cases a with
  | start bind =>
      show ∀ t ∈ (if s.state = .stopped then _ else _), _
      split
      · rename_i hstopped
        refine List.forall_mem_cons.2 ⟨h.enterStart hstopped, ?_⟩
        rw [← start_eq hstopped]
        exact hlast
      · exact hlast
  | shutdown grace =>
      show ∀ t ∈ (if s.state = .listening then _ else _), _
      split
      · rename_i hlistening
        refine List.forall_mem_cons.2 ⟨h.enterShutdown hlistening grace, ?_⟩
        rw [← shutdown_eq hlistening]
        exact hlast
      · exact hlast
  | _ => exact hlast

/-! ## The server at every moment -/

/-- A call to stop has learned how the embedded server ended, and the server is left with nothing: its socket is closed,
    too. -/
def Finished (s : WebhookServer) (i : Nat) (socket : Option Nat) (ending : Except Defect Unit) : Prop :=
  s.shutdowns[i]? = some (.ended (passOn ending)) ∧ s.state = .stopped ∧ s.Clear ∧
    ∃ k held, socket = some k ∧ s.sockets[k]? = some held ∧ held.isOpen = false

/-- **What can be said of a server** whatever has happened to it. -/
structure Orderly (s : WebhookServer) : Prop where
  clear : s.state = .stopped ∨ s.state = .starting → s.Clear
  holds : s.state = .listening ∨ s.state = .stopping → ∃ n held, s.Holds n held
  /-- No call to stop has missed the embedded server. -/
  served : .ended (.error .nothingServing) ∉ s.shutdowns
  oneStart : s.starts.countP StartCall.isPolling ≤ 1
  oneShutdown : s.shutdowns.countP ShutdownCall.isWaiting ≤ 1
  refused : s.state ≠ .stopped → (ServerFault.notStopped s.state).isOwn = true ∧
    ∀ bind, s.start bind = s.addStart (.ended (.error (.notStopped s.state)))
  ignored : s.state ≠ .listening → ∀ grace, s.shutdown grace = s.addShutdown (.ended (.ok ()))
  address : s.currentAddress ≠ [] ↔ s.state = .listening
  finishes : ∀ i n socket ending, s.shutdowns[i]? = some (.waiting n socket) → s.endingOf? n = some ending →
    (s.resumeShutdown i).Finished i socket ending

/-- A call to stop ends once the embedded server has. -/
theorem Coherent.finished (h : s.Coherent) {i n : Nat} {socket : Option Nat} {ending : Except Defect Unit}
    (hcall : s.shutdowns[i]? = some (.waiting n socket)) (hending : s.endingOf? n = some ending) :
    (s.resumeShutdown i).Finished i socket ending := by
  obtain ⟨m, held, hfound, -, -, hsocket, -⟩ := h.holds (Or.inr (h.state_of_waiting (List.mem_of_getElem? hcall)))
  obtain ⟨opened, hopened, -⟩ := h.bound held (List.mem_of_getElem? hfound)
  have hsame : socket = some held.socket := (h.waits n socket (List.mem_of_getElem? hcall)).2.symm.trans hsocket
  have hlt := (List.getElem?_eq_some_iff.1 hcall).1
  unfold WebhookServer.resumeShutdown
  rw [hcall, hsame]
  dsimp only
  rw [hending]
  refine ⟨List.getElem?_set_self hlt, rfl, ⟨rfl, rfl, rfl, rfl⟩, held.socket, { opened with isOpen := false }, rfl, ?_, rfl⟩
  show (s.sockets.modify held.socket _)[held.socket]? = _
  rw [List.getElem?_modify_eq, hopened]
  rfl

theorem Coherent.orderly (h : s.Coherent) : s.Orderly where
  clear := h.clear
  holds := h.holds
  served := h.served
  oneStart := by
    refine Nat.le_trans h.starts ?_
    split
    · exact Nat.le_refl 1
    · exact Nat.zero_le 1
  oneShutdown := by
    refine Nat.le_trans (Nat.le_of_eq h.shutdowns) ?_
    split
    · exact Nat.le_refl 1
    · exact Nat.zero_le 1
  refused hstate := ⟨rfl, fun bind => by rw [WebhookServer.start, if_pos hstate]⟩
  ignored hstate grace := by rw [WebhookServer.shutdown, if_pos hstate]
  address := by
    unfold currentAddress
    split
    · rename_i hlistening
      obtain ⟨n, held, -, -, -, -, haddress⟩ := h.holds (Or.inl hlistening)
      exact ⟨fun _ => hlistening, fun _ => haddress⟩
    · rename_i hlistening
      exact ⟨fun hne => absurd rfl hne, fun h => absurd h hlistening⟩
  finishes _ _ _ _ hcall hending := h.finished hcall hending

/-- **What happens next** moves a server along its cycle, through states in which it is orderly, too. -/
def Proceeds (s : WebhookServer) : Prop :=
  ∀ a, (s.stages a).getLast? = some (s.perform a) ∧ List.IsChain Moves (s :: s.stages a) ∧ ∀ t ∈ s.stages a, t.Orderly

theorem Coherent.proceeds (h : s.Coherent) : s.Proceeds :=
  fun a => ⟨getLast?_stages s a, h.isChain_stages a, fun t ht => (h.stages a t ht).orderly⟩

/-- **A server is orderly at every moment**, whatever has happened to it and in whichever order, and goes on so. -/
theorem orderly_run (listenAddress logLevel : Text) (actions : List Action) :
    ((new listenAddress logLevel).run actions).Orderly ∧ ((new listenAddress logLevel).run actions).Proceeds := by
  have h := coherent_run (coherent_new listenAddress logLevel) actions
  exact ⟨h.orderly, h.proceeds⟩

end WebhookServer

end WebhookBridge
