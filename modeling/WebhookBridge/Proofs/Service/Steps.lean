import WebhookBridge.Proofs.Service.ClosingSteps

/-!
# What one action does

An action reaches a service in three places: its runs, of which it moves one at most; its server, of which it performs one
action at most; and its closing, which only ever goes forward. What is to be said of all actions is said here once for each
of the three.

## Contents

* `Service.Fresh`: a service before anything happened;
* `Service.OccursAt`, `Service.Occurs`: something happens in the course of some actions;
* `Service.Settles`, `Service.RunGoes`, `Service.run_goes`: what one action does to one run;
* `Service.server_goes`: what it does to the server;
* `Service.Forward`, `Service.forward_perform`, `Service.forward_performAll`: what it does to the closing.
-/

namespace WebhookBridge.Service

variable {env : Surroundings} {s s' : Service}

/-! ## Before anything happened -/

/-- A service of which nobody has asked anything. -/
structure Fresh (s : Service) : Prop where
  closing : s.closing = none
  closers : s.closers = []
  runs : s.runs = []
  server : s.server = .new s.settings.address s.settings.logLevel

theorem fresh_create {settings : Settings} {conduct : RuntimeConduct} {capacity : Nat} {given : Option HttpSession}
    (h : create settings conduct capacity given = .ok s) : s.Fresh := by
  unfold create at h
  split at h
  · cases h
  · split at h
    · cases h
    · cases h
      exact ⟨rfl, rfl, rfl, rfl⟩

/-! ## In the course of some actions -/

/-- After so many of the actions the next one does something, given the service then. -/
def OccursAt (env : Surroundings) (s : Service) (actions : List Action) (P : Service → Action → Prop)
    (n : Nat) : Prop :=
  ∃ before a after, actions = before ++ a :: after ∧ before.length = n ∧ P (s.performAll env before) a

/-- At some point an action does something. -/
def Occurs (env : Surroundings) (s : Service) (actions : List Action) (P : Service → Action → Prop) : Prop :=
  ∃ n, OccursAt env s actions P n

theorem Occurs.last {P : Service → Action → Prop} {actions : List Action} {a : Action} (h : P (s.performAll env actions) a) :
    Occurs env s (actions ++ [a]) P := ⟨actions.length, actions, a, [], rfl, rfl, h⟩

theorem Occurs.append {P : Service → Action → Prop} {actions : List Action} (h : Occurs env s actions P) (a : Action) :
    Occurs env s (actions ++ [a]) P := by
  obtain ⟨n, before, b, after, rfl, hlength, hb⟩ := h
  exact ⟨n, before, b, after ++ [a], by simp, hlength, hb⟩

/-- **What cannot happen again** once it has happened happens at one point at most. -/
theorem OccursAt.unique {P : Service → Action → Prop} {actions : List Action} {m n : Nat}
    (honce : ∀ t a later b, P t a → ¬ P ((t.perform env a).performAll env later) b)
    (h : OccursAt env s actions P m) (h' : OccursAt env s actions P n) : m = n := by
  have hle : ∀ {m n}, OccursAt env s actions P m → OccursAt env s actions P n → m ≤ n := by
    rintro m n ⟨before, a, after, hsplit, rfl, ha⟩ ⟨before', b, after', hsplit', rfl, hb⟩
    by_contra hlt
    -- the later point is reached by the action at the earlier one, and some more
    have hprefix : before' ++ [b] <+: before := by
      have hlonger : before ++ a :: after = (before' ++ [b]) ++ after' := by simp [← hsplit, hsplit']
      refine List.prefix_of_prefix_length_le ⟨after', rfl⟩ ⟨a :: after, hlonger⟩ ?_
      rw [List.length_append, List.length_singleton]
      omega
    obtain ⟨later, rfl⟩ := hprefix
    rw [performAll_append, performAll_append] at ha
    exact honce _ b later a hb ha
  exact Nat.le_antisymm (hle h h') (hle h' h)

/-! ## One run -/

/-- How the sides of a run ended that have ended. -/
def endings (s : Service) (sides : Sides) : List (Except ServiceFault Unit) :=
  (s.listenEnding? sides.listen).toList ++ (s.waitEnding? sides.wait).toList

/-- **What settles a run**: its start has failed, or one of its sides has ended. -/
inductive Settles (s : Service) (listenFirst : Bool) : RunCall → Except ServiceFault Unit → Option Sides → Prop
  | startFailed (k : Nat) (fault : ServerFault) (hstart : s.server.starts[k]? = some (.ended (.error fault))) :
      Settles s listenFirst (.starting k) (.error (.server fault)) none
  | sidesOver (sides : Sides) (hover : s.endings sides ≠ []) :
      Settles s listenFirst (.serving sides)
        (firstFault listenFirst (s.listenEnding? sides.listen) (s.waitEnding? sides.wait)) (some sides)

/-- Where a run goes that is settled: to the closing, or past it if that has ended. -/
def settled (s : Service) (outcome : Except ServiceFault Unit) (sides : Option Sides) : RunCall :=
  match s.closingResult? with
  | some result => afterClosing outcome sides result
  | none => .closing outcome sides

/-- **What one action does to one run.** -/
inductive RunGoes (s : Service) (i : Nat) : Action → RunCall → RunCall → Prop
  | stays (a : Action) (call : RunCall) : RunGoes s i a call call
  | serves (k : Nat) (listenFirst : Bool) (hstart : s.server.starts[k]? = some (.ended (.ok ()))) :
      RunGoes s i (.resumeRun i listenFirst) (.starting k) (.serving ⟨.fresh, .fresh⟩)
  | settles (call : RunCall) (listenFirst : Bool) (outcome : Except ServiceFault Unit) (sides : Option Sides)
      (h : s.Settles listenFirst call outcome sides) :
      RunGoes s i (.resumeRun i listenFirst) call (s.settled outcome sides)
  | released (listenFirst : Bool) (outcome : Except ServiceFault Unit) (sides : Option Sides)
      (result : Except ServiceFault Unit) (hclosing : s.closing = some (.ended result)) :
      RunGoes s i (.resumeRun i listenFirst) (.closing outcome sides) (afterClosing outcome sides result)
  | rests (listenFirst : Bool) (outcome : Except ServiceFault Unit) (sides : Sides) (hsides : s.SidesEnded sides) :
      RunGoes s i (.resumeRun i listenFirst) (.lingering outcome sides) (.ended outcome (some sides))
  | graceOver (outcome : Except ServiceFault Unit) (sides sides' : Sides) :
      RunGoes s i (.graceOver i) (.lingering outcome sides) (.ended outcome (some sides'))
  | listens (call : RunCall) (wait : WaitSide) (hsides : sidesOf? call = some ⟨.fresh, wait⟩) :
      RunGoes s i (.beginListening i) call (withSides ⟨.listening s.runtime.listeners.length, wait⟩ call)
  | refuses (call : RunCall) (wait : WaitSide) (defect : Defect) (hsides : sidesOf? call = some ⟨.fresh, wait⟩)
      (hfault : s.conduct.listenFault = some defect) :
      RunGoes s i (.beginListening i) call (withSides ⟨.failed defect, wait⟩ call)
  | waits (call : RunCall) (listen : ListenSide) (hsides : sidesOf? call = some ⟨listen, .fresh⟩) :
      RunGoes s i (.beginWaiting i) call (withSides ⟨listen, .waiting s.server.waits.length⟩ call)
  | stopsListening (call : RunCall) (n : Nat) (wait : WaitSide) (ending : Except Defect Unit)
      (hsides : sidesOf? call = some ⟨.listening n, wait⟩) :
      RunGoes s i (.endListening i ending) call (withSides ⟨endedSide ending, wait⟩ call)

/-- A run of the service, where an action has brought it. -/
def RunFrom (s : Service) (a : Action) (i : Nat) (next : RunCall) : Prop :=
  ∃ call, s.runs[i]? = some call ∧ RunGoes s i a call next

theorem runFrom_of_same (hruns : s'.runs = s.runs) (a : Action) {i : Nat} {next : RunCall} (h : s'.runs[i]? = some next) :
    s.RunFrom a i next := by
  rw [hruns] at h
  exact ⟨next, h, .stays a next⟩

/-- Of all runs one is moved. -/
theorem runFrom_setRun (hruns : s'.runs = s.runs) {a : Action} {i j : Nat} {call moved next : RunCall}
    (hcall : s.runs[i]? = some call) (hmoved : RunGoes s i a call moved) (h : (s'.setRun i moved).runs[j]? = some next) :
    s.RunFrom a j next := by
  have hset : (s'.runs.set i moved)[j]? = some next := h
  rw [hruns, List.getElem?_set] at hset
  split at hset
  · rename_i hij
    split at hset
    · cases hset
      subst hij
      exact ⟨call, hcall, hmoved⟩
    · cases hset
  · exact ⟨next, hset, .stays a next⟩

/-- Settling a run moves no other run. -/
theorem settleRun_eq (s : Service) (i : Nat) (outcome : Except ServiceFault Unit) (sides : Option Sides) :
    ∃ t : Service, s.settleRun i outcome sides = t.setRun i (s.settled outcome sides) ∧ t.runs = s.runs := by
  unfold settleRun settled
  cases s.closingResult? with
  | some result => exact ⟨s, rfl, rfl⟩
  | none => exact ⟨s.requestClosing, rfl, runs_requestClosing s⟩

theorem endings_ne_nil_iff {sides : Sides} :
    s.endings sides ≠ [] ↔ ¬ (s.listenEnding? sides.listen = none ∧ s.waitEnding? sides.wait = none) := by
  unfold endings
  cases s.listenEnding? sides.listen with
  | none =>
      cases s.waitEnding? sides.wait with
      | none => simp
      | some ending => simp
  | some ending => simp

theorem run_goes_resumeRun {i j : Nat} {listenFirst : Bool} {next : RunCall}
    (h : (s.resumeRun i listenFirst).runs[j]? = some next) : s.RunFrom (.resumeRun i listenFirst) j next := by
  have hsettles : ∀ {call outcome sides}, s.runs[i]? = some call → s.Settles listenFirst call outcome sides →
      (s.settleRun i outcome sides).runs[j]? = some next → s.RunFrom (.resumeRun i listenFirst) j next := by
    intro call outcome sides hcall hsettles hnext
    obtain ⟨t, hset, hruns⟩ := settleRun_eq s i outcome sides
    rw [hset] at hnext
    exact runFrom_setRun hruns hcall (.settles call listenFirst outcome sides hsettles) hnext
  unfold resumeRun at h
  split at h
  · rename_i k hcall
    split at h
    · rename_i hstart
      exact runFrom_setRun rfl hcall (.serves k listenFirst hstart) h
    · rename_i fault hstart
      exact hsettles hcall (.startFailed k fault hstart) h
    · exact runFrom_of_same rfl _ h
  · rename_i sides hcall
    split at h
    · exact runFrom_of_same rfl _ h
    · rename_i hover
      refine hsettles hcall (.sidesOver sides (endings_ne_nil_iff.2 ?_)) h
      exact fun hnone => hover hnone.1 hnone.2
  · rename_i outcome sides hcall
    split at h
    · rename_i result hresult
      exact runFrom_setRun rfl hcall (.released listenFirst outcome sides result (closing_of_result hresult)) h
    · exact runFrom_of_same rfl _ h
  · rename_i outcome sides hcall
    split at h
    · rename_i hlisten hwait
      exact runFrom_setRun rfl hcall (.rests listenFirst outcome sides ⟨by rw [hlisten]; rfl, by rw [hwait]; rfl⟩) h
    · exact runFrom_of_same rfl _ h
  · exact runFrom_of_same rfl _ h

theorem run_goes_beginListening {i j : Nat} {next : RunCall} (h : (s.beginListening i).runs[j]? = some next) :
    s.RunFrom (.beginListening i) j next := by
  unfold beginListening at h
  split at h
  · exact runFrom_of_same rfl _ h
  · rename_i call hcall
    split at h
    · rename_i wait hsides
      split at h
      · rename_i defect hfault
        exact runFrom_setRun rfl hcall (.refuses call wait defect hsides hfault) h
      · exact runFrom_setRun rfl hcall (.listens call wait hsides) h
    · exact runFrom_of_same rfl _ h

theorem run_goes_beginWaiting {i j : Nat} {next : RunCall} (h : (s.beginWaiting i).runs[j]? = some next) :
    s.RunFrom (.beginWaiting i) j next := by
  unfold beginWaiting at h
  split at h
  · exact runFrom_of_same rfl _ h
  · rename_i call hcall
    split at h
    · rename_i listen hsides
      exact runFrom_setRun rfl hcall (.waits call listen hsides) h
    · exact runFrom_of_same rfl _ h

theorem run_goes_endListening {i j : Nat} {ending : Except Defect Unit} {next : RunCall}
    (h : (s.endListening i ending).runs[j]? = some next) : s.RunFrom (.endListening i ending) j next := by
  unfold endListening at h
  split at h
  · exact runFrom_of_same rfl _ h
  · rename_i call hcall
    split at h
    · rename_i n wait hsides
      split at h
      · exact runFrom_of_same rfl _ h
      · exact runFrom_setRun rfl hcall (.stopsListening call n wait ending hsides) h
    · exact runFrom_of_same rfl _ h

theorem runs_cancelListening (s : Service) (side : ListenSide) : (s.cancelListening side).1.runs = s.runs := by
  unfold cancelListening
  split
  · rfl
  · split
    · rfl
    · rfl

theorem run_goes_graceOver {i j : Nat} {next : RunCall} (h : (s.graceOver i).runs[j]? = some next) :
    s.RunFrom (.graceOver i) j next := by
  unfold graceOver at h
  split at h
  · rename_i outcome sides hcall
    exact runFrom_setRun (runs_cancelListening s sides.listen) hcall (.graceOver outcome sides _) h
  · exact runFrom_of_same rfl _ h

/-- A run that has just been asked for. -/
def RunBegins (s : Service) (a : Action) (i : Nat) (next : RunCall) : Prop :=
  a = .run ∧ s.runs.length = i ∧ next = .starting s.server.starts.length

/-- **One action and one run**: the run was there and has gone on, or it has just been asked for. -/
theorem run_goes (a : Action) {i : Nat} {next : RunCall} (h : (s.perform env a).runs[i]? = some next) :
    s.RunFrom a i next ∨ s.RunBegins a i next := by
  cases a with
  | run =>
      have happend : (s.runs ++ [.starting s.server.starts.length])[i]? = some next := h
      rw [List.getElem?_append, List.getElem?_singleton] at happend
      split at happend
      · exact Or.inl ⟨next, happend, .stays _ next⟩
      · split at happend
        · cases happend
          exact Or.inr ⟨rfl, by omega, rfl⟩
        · cases happend
  | resumeRun j listenFirst => exact Or.inl (run_goes_resumeRun h)
  | beginListening j => exact Or.inl (run_goes_beginListening h)
  | beginWaiting j => exact Or.inl (run_goes_beginWaiting h)
  | endListening j ending => exact Or.inl (run_goes_endListening h)
  | graceOver j => exact Or.inl (run_goes_graceOver h)
  | close => exact Or.inl (runFrom_of_same (runs_requestClosing s) _ h)
  | cancelClose j =>
      have hruns : (s.cancelClose j).runs = s.runs := by
        unfold cancelClose
        split
        · rfl
        · rfl
      exact Or.inl (runFrom_of_same hruns _ h)
  | resumeClose j =>
      have hruns : (s.resumeClose j).runs = s.runs := by
        unfold resumeClose
        split
        · rfl
        · rfl
      exact Or.inl (runFrom_of_same hruns _ h)
  | beginClosing => exact Or.inl (runFrom_of_same (onward_beginClosing s).2 _ h)
  | resumeClosing => exact Or.inl (runFrom_of_same (onward_resumeClosing s).2 _ h)
  | server b => exact Or.inl (runFrom_of_same rfl _ h)
  | turn position => exact Or.inl (runFrom_of_same rfl _ h)
  | expire => exact Or.inl (runFrom_of_same rfl _ h)
  | submit task => exact Or.inl (runFrom_of_same rfl _ h)
  | closeRuntime => exact Or.inl (runFrom_of_same (runs_closeRuntime s) _ h)

/-! ## The server -/

/-- The settings are the same, and so is the server, apart from what it has logged. -/
def KeepsServer (s s' : Service) : Prop := s'.settings = s.settings ∧ ∃ log, s'.server = { s.server with log := log }

theorem KeepsServer.refl (s : Service) : KeepsServer s s := ⟨rfl, s.server.log, rfl⟩

theorem keepsServer_closeRuntime (s : Service) : KeepsServer s s.closeRuntime := by
  unfold closeRuntime
  split
  · exact ⟨rfl, [], rfl⟩
  · exact KeepsServer.refl s

theorem keepsServer_requestClosing (s : Service) : KeepsServer s s.requestClosing := by
  unfold requestClosing
  split
  · exact KeepsServer.refl s
  · exact KeepsServer.refl s

theorem keepsServer_finishClosing (s : Service) (result : Except ServerFault Unit) :
    KeepsServer s (s.finishClosing result) := by
  cases result with
  | error fault => exact KeepsServer.refl s
  | ok u =>
      rw [finishClosing]
      split
      · exact keepsServer_closeRuntime s
      · exact keepsServer_closeRuntime s

theorem keepsServer_resumeClosing (s : Service) : KeepsServer s s.resumeClosing := by
  unfold resumeClosing
  split
  · split
    · exact keepsServer_finishClosing s _
    · exact KeepsServer.refl s
  · exact KeepsServer.refl s

/-- **A run that goes on** changes nothing but the runs, and may ask for the closing. -/
theorem resumeRun_cases (s : Service) (i : Nat) (listenFirst : Bool) :
    (∃ runs, s.resumeRun i listenFirst = { s with runs := runs }) ∨
      ∃ runs, s.resumeRun i listenFirst = { s.requestClosing with runs := runs } := by
  have hsettles : ∀ outcome sides, (∃ runs, s.settleRun i outcome sides = { s with runs := runs }) ∨
      ∃ runs, s.settleRun i outcome sides = { s.requestClosing with runs := runs } := by
    intro outcome sides
    unfold settleRun
    split
    · exact Or.inl ⟨_, rfl⟩
    · exact Or.inr ⟨_, rfl⟩
  unfold resumeRun
  split
  · split
    · exact Or.inl ⟨_, rfl⟩
    · exact hsettles _ _
    · exact Or.inl ⟨_, rfl⟩
  · split
    · exact Or.inl ⟨_, rfl⟩
    · exact hsettles _ _
  · split
    · exact Or.inl ⟨_, rfl⟩
    · exact Or.inl ⟨_, rfl⟩
  · split
    · exact Or.inl ⟨_, rfl⟩
    · exact Or.inl ⟨_, rfl⟩
  · exact Or.inl ⟨_, rfl⟩

theorem keepsServer_resumeRun (s : Service) (i : Nat) (listenFirst : Bool) : KeepsServer s (s.resumeRun i listenFirst) := by
  rcases resumeRun_cases s i listenFirst with ⟨runs, hruns⟩ | ⟨runs, hruns⟩
  · rw [hruns]
    exact KeepsServer.refl s
  · rw [hruns]
    exact keepsServer_requestClosing s

theorem keepsServer_beginListening (s : Service) (i : Nat) : KeepsServer s (s.beginListening i) := by
  unfold beginListening
  split
  · exact KeepsServer.refl s
  · split
    · split
      · exact KeepsServer.refl s
      · exact ⟨rfl, [], rfl⟩
    · exact KeepsServer.refl s

theorem keepsServer_endListening (s : Service) (i : Nat) (ending : Except Defect Unit) :
    KeepsServer s (s.endListening i ending) := by
  unfold endListening
  split
  · exact KeepsServer.refl s
  · split
    · split
      · exact KeepsServer.refl s
      · exact ⟨rfl, [], rfl⟩
    · exact KeepsServer.refl s

theorem keepsServer_graceOver (s : Service) (i : Nat) : KeepsServer s (s.graceOver i) := by
  have hcancel : ∀ side, KeepsServer s (s.cancelListening side).1 := by
    intro side
    unfold cancelListening
    split
    · exact KeepsServer.refl s
    · split
      · exact ⟨rfl, [], rfl⟩
      · exact KeepsServer.refl s
  unfold graceOver
  split
  · exact hcancel _
  · exact KeepsServer.refl s

theorem keepsServer_cancelClose (s : Service) (i : Nat) : KeepsServer s (s.cancelClose i) := by
  unfold cancelClose
  split
  · exact KeepsServer.refl s
  · exact KeepsServer.refl s

theorem keepsServer_resumeClose (s : Service) (i : Nat) : KeepsServer s (s.resumeClose i) := by
  unfold resumeClose
  split
  · exact KeepsServer.refl s
  · exact KeepsServer.refl s

/-- **What one action asks of the server**, if anything. -/
inductive ServerAsked (env : Surroundings) (s : Service) : Action → WebhookServer.Action → Prop
  | run : ServerAsked env s .run (.start env.bind)
  | beginWaiting (i : Nat) : ServerAsked env s (.beginWaiting i) .wait
  | beginClosing (hclosing : s.closing = some .requested) :
      ServerAsked env s .beginClosing (.shutdown s.settings.gracePeriod)
  | server (b : WebhookServer.Action) : ServerAsked env s (.server b) b

/-- **One action and the server**: it is the same, or has performed the one action that it was asked for; the settings are the
    same. -/
theorem server_goes (env : Surroundings) (s : Service) (a : Action) :
    KeepsServer s (s.perform env a) ∨
      ∃ b log, ServerAsked env s a b ∧ (s.perform env a).settings = s.settings ∧
        (s.perform env a).server = { s.server.perform b with log := log } := by
  cases a with
  | run => exact Or.inr ⟨_, [], .run, rfl, rfl⟩
  | server b => exact Or.inr ⟨b, [], .server b, rfl, rfl⟩
  | beginWaiting i =>
      show KeepsServer s (s.beginWaiting i) ∨ ∃ b log, _ ∧ (s.beginWaiting i).settings = _ ∧ (s.beginWaiting i).server = _
      unfold beginWaiting
      split
      · exact Or.inl (KeepsServer.refl s)
      · split
        · exact Or.inr ⟨_, [], .beginWaiting i, rfl, rfl⟩
        · exact Or.inl (KeepsServer.refl s)
  | beginClosing =>
      show KeepsServer s s.beginClosing ∨ ∃ b log, _ ∧ s.beginClosing.settings = _ ∧ s.beginClosing.server = _
      unfold beginClosing
      split
      · rename_i hclosing
        dsimp only
        split
        · rename_i result _
          obtain ⟨hsettings, log, hlog⟩ :=
            keepsServer_finishClosing (s.onServer (WebhookServer.shutdown s.settings.gracePeriod)) result
          exact Or.inr ⟨_, log, .beginClosing hclosing, hsettings, hlog⟩
        · exact Or.inr ⟨_, [], .beginClosing hclosing, rfl, rfl⟩
      · exact Or.inl (KeepsServer.refl s)
  | resumeClosing => exact Or.inl (keepsServer_resumeClosing s)
  | resumeRun i listenFirst => exact Or.inl (keepsServer_resumeRun s i listenFirst)
  | beginListening i => exact Or.inl (keepsServer_beginListening s i)
  | endListening i ending => exact Or.inl (keepsServer_endListening s i ending)
  | graceOver i => exact Or.inl (keepsServer_graceOver s i)
  | close => exact Or.inl (keepsServer_requestClosing s)
  | cancelClose i => exact Or.inl (keepsServer_cancelClose s i)
  | resumeClose i => exact Or.inl (keepsServer_resumeClose s i)
  | turn position => exact Or.inl ⟨rfl, [], rfl⟩
  | expire => exact Or.inl ⟨rfl, [], rfl⟩
  | submit task => exact Or.inl ⟨rfl, [], rfl⟩
  | closeRuntime => exact Or.inl (keepsServer_closeRuntime s)

/-! ## The closing -/

/-- How far a closing has come. -/
def stage : Option ClosingState → Nat
  | none => 0
  | some .requested => 1
  | some (.stoppingServer _) => 2
  | some (.ended _) => 3

@[simp] theorem stage_requested : stage (some .requested) = 1 := rfl

@[simp] theorem stage_stopping (k : Nat) : stage (some (.stoppingServer k)) = 2 := rfl

@[simp] theorem stage_ended (result : Except ServiceFault Unit) : stage (some (.ended result)) = 3 := rfl

theorem stage_le_three (closing : Option ClosingState) : stage closing ≤ 3 := by
  unfold stage
  split
  · omega
  · omega
  · omega
  · omega

theorem stage_pos_iff {closing : Option ClosingState} : 0 < stage closing ↔ closing ≠ none := by
  unfold stage
  split
  · simp
  · simp
  · simp
  · simp

/-- The closing is where it was, or further. -/
def Forward (s s' : Service) : Prop := s'.closing = s.closing ∨ stage s.closing < stage s'.closing

theorem Forward.trans {t : Service} (h : Forward s s') (h' : Forward s' t) : Forward s t := by
  rcases h with hsame | hfurther
  · rcases h' with hsame' | hfurther'
    · exact Or.inl (hsame'.trans hsame)
    · exact Or.inr (hsame ▸ hfurther')
  · rcases h' with hsame' | hfurther'
    · exact Or.inr (hsame'.symm ▸ hfurther)
    · exact Or.inr (Nat.lt_trans hfurther hfurther')

theorem Forward.stage_le (h : Forward s s') : stage s.closing ≤ stage s'.closing := by
  rcases h with hsame | hfurther
  · exact Nat.le_of_eq (congrArg stage hsame.symm)
  · exact Nat.le_of_lt hfurther

theorem Aside.forward (h : Aside s s') : Forward s s' := Or.inl h.closing

theorem forward_requestClosing (s : Service) : Forward s s.requestClosing := by
  unfold requestClosing
  split
  · rename_i hnone
    refine Or.inr ?_
    rw [hnone]
    exact Nat.zero_lt_one
  · exact Or.inl rfl

theorem forward_resumeRun (s : Service) (i : Nat) (listenFirst : Bool) : Forward s (s.resumeRun i listenFirst) := by
  rcases resumeRun_cases s i listenFirst with ⟨runs, hruns⟩ | ⟨runs, hruns⟩
  · rw [hruns]
    exact Or.inl rfl
  · rw [hruns]
    exact forward_requestClosing s

theorem closing_finishClosing (s : Service) (result : Except ServerFault Unit) :
    (s.finishClosing result).closing = some (.ended (result.mapError .server)) := by
  cases result with
  | error fault => rfl
  | ok u => rfl

/-- The closing begins when it was asked for, and is past that then. -/
theorem stage_beginClosing (h : s.closing = some .requested) : 1 < stage s.beginClosing.closing := by
  simp only [beginClosing, h]
  split
  · rw [closing_finishClosing, stage_ended]
    omega
  · exact Nat.lt_succ_self 1

theorem forward_beginClosing (s : Service) : Forward s s.beginClosing := by
  by_cases hclosing : s.closing = some .requested
  · refine Or.inr ?_
    rw [hclosing, stage_requested]
    exact stage_beginClosing hclosing
  · refine Or.inl ?_
    unfold beginClosing
    split
    · rename_i hrequested
      exact absurd hrequested hclosing
    · rfl

theorem forward_resumeClosing (s : Service) : Forward s s.resumeClosing := by
  unfold resumeClosing
  split
  · rename_i k hstopping
    split
    · refine Or.inr ?_
      rw [closing_finishClosing, hstopping, stage_ended, stage_stopping]
      omega
    · exact Or.inl rfl
  · exact Or.inl rfl

/-- **One action and the closing**: it goes forward. -/
theorem forward_perform (env : Surroundings) (s : Service) (a : Action) : Forward s (s.perform env a) := by
  cases a with
  | run => exact (aside_run s env.bind).forward
  | resumeRun i listenFirst => exact forward_resumeRun s i listenFirst
  | beginListening i => exact (aside_beginListening s i).forward
  | beginWaiting i => exact (aside_beginWaiting s i).forward
  | endListening i ending => exact (aside_endListening s i ending).forward
  | graceOver i => exact (aside_graceOver s i).forward
  | close => exact forward_requestClosing s
  | cancelClose i => exact (aside_cancelClose s i).forward
  | resumeClose i => exact (aside_resumeClose s i).forward
  | beginClosing => exact forward_beginClosing s
  | resumeClosing => exact forward_resumeClosing s
  | server b => exact (aside_onServer s b).forward
  | turn position => exact (aside_onRuntime s _).forward
  | expire => exact (aside_onRuntime s _).forward
  | submit task => exact (aside_onRuntime s _).forward
  | closeRuntime => exact (aside_closeRuntime s).forward

/-- **Any actions and the closing**: it goes forward. -/
theorem forward_performAll (env : Surroundings) (s : Service) (actions : List Action) :
    Forward s (s.performAll env actions) := by
  induction actions generalizing s with
  | nil => exact Or.inl rfl
  | cons a actions ih => exact (forward_perform env s a).trans (ih (s.perform env a))

/-- A closing that has ended has ended for good. -/
theorem Forward.ended (h : Forward s s') {result : Except ServiceFault Unit} (hended : s.closing = some (.ended result)) :
    s'.closing = some (.ended result) := by
  rcases h with hsame | hfurther
  · exact hsame.trans hended
  · rw [hended, stage_ended] at hfurther
    exact absurd hfurther (Nat.not_lt.2 (stage_le_three s'.closing))

end WebhookBridge.Service
