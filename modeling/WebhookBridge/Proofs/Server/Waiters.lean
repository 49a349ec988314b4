import WebhookBridge.Server.Lifecycle

/-!
# Those who wait for the server to end

Calls that wait for the end of the embedded server learn of it, and that is all: whatever else the server does, it does the
same however many of them there are, and whatever it has logged.

## Contents

* `WebhookServer.besides`, `WebhookServer.SameBesides`: servers that differ in nothing else;
* `WebhookServer.SameBesides.perform`: they go on alike.
-/

namespace WebhookBridge.WebhookServer

/-- The server with other calls that wait for its end, and another log. -/
def besides (s : WebhookServer) (waits : List WaitCall) (log : List LogEvent) : WebhookServer :=
  { s with waits := waits, log := log }

/-- The same server, apart from who waits for its end and what it has logged. -/
def SameBesides (s s' : WebhookServer) : Prop := ∃ waits log, s' = s.besides waits log

variable (s : WebhookServer) (waits : List WaitCall) (log : List LogEvent)

/-! ## What does not show -/

@[simp] theorem besides_listenAddress : (s.besides waits log).listenAddress = s.listenAddress := rfl

@[simp] theorem besides_server : (s.besides waits log).server = s.server := rfl

@[simp] theorem besides_serving : (s.besides waits log).serving = s.serving := rfl

@[simp] theorem besides_socket : (s.besides waits log).socket = s.socket := rfl

@[simp] theorem besides_servings : (s.besides waits log).servings = s.servings := rfl

@[simp] theorem besides_starts : (s.besides waits log).starts = s.starts := rfl

@[simp] theorem besides_shutdowns : (s.besides waits log).shutdowns = s.shutdowns := rfl

@[simp] theorem besides_endingOf? (n : Nat) : (s.besides waits log).endingOf? n = s.endingOf? n := rfl

@[simp] theorem besides_withState (state : ServerState) :
    (s.besides waits log).withState state = (s.withState state).besides waits log := rfl

@[simp] theorem besides_requestEnd (n : Nat) (grace : Binary64) :
    (s.besides waits log).requestEnd n grace = (s.requestEnd n grace).besides waits log := rfl

/-! ## Starting and stopping -/

theorem besides_openServing (bind : Binder) :
    (s.besides waits log).openServing bind = ((s.openServing bind).1.besides waits log, (s.openServing bind).2) := by
  unfold openServing
  rw [besides_listenAddress]
  cases Address.parse s.listenAddress with
  | error e => rfl
  | ok a =>
      dsimp only
      cases bind a with
      | refused reason => rfl
      | failed defect => rfl
      | bound b =>
          dsimp only
          by_cases hlevel : embeddedLogLevels.contains s.logLevel = true
          · have hsame : embeddedLogLevels.contains (s.besides waits log).logLevel = true := hlevel
            rw [if_pos hsame, if_pos hlevel]
            rfl
          · have hsame : ¬ embeddedLogLevels.contains (s.besides waits log).logLevel = true := hlevel
            rw [if_neg hsame, if_neg hlevel]
            rfl

theorem besides_start (bind : Binder) : (s.besides waits log).start bind = (s.start bind).besides waits log := by
  unfold start
  rw [besides_openServing]
  by_cases hstate : s.state ≠ .stopped
  · have hsame : (s.besides waits log).state ≠ .stopped := hstate
    rw [if_pos hsame, if_pos hstate]
    rfl
  · have hsame : ¬ (s.besides waits log).state ≠ .stopped := hstate
    rw [if_neg hsame, if_neg hstate]
    obtain ⟨opened, result⟩ := s.openServing bind
    cases result with
    | error fault => rfl
    | ok n => rfl

theorem besides_resumeStart (i : Nat) : (s.resumeStart i).SameBesides ((s.besides waits log).resumeStart i) := by
  unfold resumeStart
  simp only [besides_starts, besides_servings]
  split
  · split
    · exact ⟨_, _, rfl⟩
    · split
      · exact ⟨_, _, rfl⟩
      · split
        · exact ⟨_, _, rfl⟩
        · exact ⟨_, _, rfl⟩
        · exact ⟨_, _, rfl⟩
  · exact ⟨_, _, rfl⟩

theorem besides_finishShutdown (socket : Option Nat) :
    (s.finishShutdown socket).SameBesides ((s.besides waits log).finishShutdown socket) := by
  cases socket with
  | none => exact ⟨_, _, rfl⟩
  | some n => exact ⟨_, _, rfl⟩

theorem besides_shutdown (grace : Binary64) : (s.shutdown grace).SameBesides ((s.besides waits log).shutdown grace) := by
  unfold shutdown
  by_cases hstate : s.state ≠ .listening
  · have hsame : (s.besides waits log).state ≠ .listening := hstate
    rw [if_pos hsame, if_pos hstate]
    exact ⟨_, _, rfl⟩
  · have hsame : ¬ (s.besides waits log).state ≠ .listening := hstate
    rw [if_neg hsame, if_neg hstate]
    simp only [besides_server, besides_serving, besides_socket, besides_withState, besides_requestEnd, besides_endingOf?]
    split
    · rename_i m n _ _
      split
      · rename_i ending _
        obtain ⟨waits', log', hsame⟩ :=
          besides_finishShutdown ((s.withState .stopping).requestEnd m grace) waits log s.socket
        exact ⟨waits', log', congrArg (·.addShutdown (.ended (passOn ending))) hsame⟩
      · exact ⟨_, _, rfl⟩
    · exact ⟨_, _, rfl⟩

theorem besides_resumeShutdown (i : Nat) : (s.resumeShutdown i).SameBesides ((s.besides waits log).resumeShutdown i) := by
  unfold resumeShutdown
  simp only [besides_shutdowns, besides_endingOf?]
  split
  · rename_i n socket _
    split
    · exact ⟨_, _, rfl⟩
    · obtain ⟨waits', log', hsame⟩ := besides_finishShutdown s waits log socket
      simp only [hsame]
      exact ⟨waits', log', rfl⟩
  · exact ⟨_, _, rfl⟩

/-! ## Waiting -/

theorem besides_wait : s.SameBesides s.wait := by
  unfold wait
  split
  · exact ⟨_, _, rfl⟩
  · split
    · exact ⟨_, _, rfl⟩
    · exact ⟨_, _, rfl⟩

theorem besides_resumeWait (i : Nat) : s.SameBesides (s.resumeWait i) := by
  unfold resumeWait
  split
  · split
    · exact ⟨_, _, rfl⟩
    · exact ⟨_, _, rfl⟩
  · exact ⟨_, _, rfl⟩

/-! ## Whatever the server does -/

variable {s} {s' t : WebhookServer}

theorem SameBesides.trans (h : SameBesides s s') (h' : SameBesides s' t) : SameBesides s t := by
  obtain ⟨_, _, rfl⟩ := h
  obtain ⟨waits, log, rfl⟩ := h'
  exact ⟨waits, log, rfl⟩

theorem SameBesides.symm (h : SameBesides s s') : SameBesides s' s := by
  obtain ⟨_, _, rfl⟩ := h
  exact ⟨s.waits, s.log, rfl⟩

theorem SameBesides.shutdowns (h : SameBesides s s') : s'.shutdowns = s.shutdowns := by
  obtain ⟨waits, log, rfl⟩ := h
  exact besides_shutdowns s waits log

/-- **Whatever the server does**, it does the same however many wait for its end. -/
theorem SameBesides.perform (h : SameBesides s s') (b : Action) : SameBesides (s.perform b) (s'.perform b) := by
  cases b with
  | wait => exact (besides_wait s).symm.trans (h.trans (besides_wait s'))
  | resumeWait i => exact (besides_resumeWait s i).symm.trans (h.trans (besides_resumeWait s' i))
  | start bind =>
      obtain ⟨waits, log, rfl⟩ := h
      exact ⟨waits, log, besides_start s waits log bind⟩
  | shutdown grace =>
      obtain ⟨waits, log, rfl⟩ := h
      exact besides_shutdown s waits log grace
  | resumeStart i =>
      obtain ⟨waits, log, rfl⟩ := h
      exact besides_resumeStart s waits log i
  | resumeShutdown i =>
      obtain ⟨waits, log, rfl⟩ := h
      exact besides_resumeShutdown s waits log i
  | beginServing n =>
      obtain ⟨waits, log, rfl⟩ := h
      exact ⟨waits, log, rfl⟩
  | endServing n ending =>
      obtain ⟨waits, log, rfl⟩ := h
      exact ⟨waits, log, rfl⟩

end WebhookBridge.WebhookServer
