import Mathlib.Data.List.Induction
import WebhookBridge.Proofs.Relay.Containment
import WebhookBridge.Proofs.Service.Ending
import WebhookBridge.Proofs.Task.Replies
import WebhookBridge.Proofs.TaskRuntime.Dispatching

/-!
# Which tasks fail

A task that was accepted before the service is closed gets what its input says and its calls come to, with two exceptions.
The closing strands it: the service's own client is closed right after the runtime, while tasks still stand in the queue and
jobs have still calls to make, which the client refuses. Or it is lost, because a call that is made for it meets any other
defect. Both get the reply of a handler that has failed. A client that was given to the service and is open strands nothing.

## Contents

* `Service.Stranded`, `Service.Lost`: a task was stranded or lost at some point of a run;
* `Service.Action.CutsOff`: what may cut off jobs;
* `Service.tracks_perform`, `Service.tracks_performAll`: whatever happens, it is known how a task stands;
* `Service.accepted_dispatched_iff`: what a task gets whose job has ended.
-/

namespace WebhookBridge

theorem HttpSession.closed_eq {session : HttpSession} (h : session.reopened ≠ session) : session.closed = session := by
  have hclosed := isOpen_of_reopened h
  obtain ⟨⟨timeout, jar, isOpen⟩, sent⟩ := session
  have hopen : isOpen = false := hclosed
  rw [hopen]
  rfl

namespace Service

variable {s : Service} {env : Surroundings} {info : TaskInfo} {failed cut : Prop} {n : Nat}

/-! ## One task of a service -/

/-- What is known of one task of a service. -/
abbrev Tracks (env : Surroundings) (info : TaskInfo) (failed cut : Prop) (n : Nat) (s : Service) : Prop :=
  TaskRuntime.Tracks env.relay HttpSession.reopened info failed cut n s.runtime

/-- The client of a service strands a task. -/
abbrev Strands (env : Surroundings) (s : Service) (n : Nat) : Prop := TaskRuntime.Strands env.relay s.runtime n

/-- The runtime moves, and what it has logged is gathered. -/
theorem tracks_onRuntime {f : TaskRuntime HttpSession → TaskRuntime HttpSession}
    (h : TaskRuntime.Tracks env.relay HttpSession.reopened info failed cut n (f s.runtime)) :
    Tracks env info failed cut n (s.onRuntime f) := h.of_sameWork ⟨rfl, rfl, rfl, rfl, rfl⟩ rfl rfl

/-- The server is of no concern to tasks. -/
theorem tracks_onServer (h : Tracks env info failed cut n s) (f : WebhookServer → WebhookServer) :
    Tracks env info failed cut n (s.onServer f) := h.of_sameWork ⟨rfl, rfl, rfl, rfl, rfl⟩ rfl rfl

/-! ## Runs -/

/-- The side that listens for tasks begins. -/
theorem tracks_beginListening (h : Tracks env info failed cut n s) (i : Nat) :
    Tracks env info failed cut n (s.beginListening i) := by
  unfold beginListening
  split
  · exact h
  · split
    · split
      · exact h
      · have hlistens : Tracks env info failed cut n (s.onRuntime fun r => r.listen handlers) :=
          tracks_onRuntime (TaskRuntime.tracks_listen h fun _ _ => rfl)
        exact hlistens
    · exact h

theorem tracks_beginWaiting (h : Tracks env info failed cut n s) (i : Nat) :
    Tracks env info failed cut n (s.beginWaiting i) := by
  unfold beginWaiting
  split
  · exact h
  · split
    · exact tracks_onServer h _
    · exact h

theorem tracks_closeRuntime (h : Tracks env info failed cut n s) : Tracks env info failed cut n s.closeRuntime := by
  unfold closeRuntime
  split
  · exact tracks_onRuntime (TaskRuntime.tracks_close h)
  · exact h.of_sameWork ⟨rfl, rfl, rfl, rfl, rfl⟩ rfl rfl

/-- A task is submitted, where the runtime is not closed. -/
theorem tracks_submit (h : Tracks env info failed cut n s) (task : TaskInfo) :
    Tracks env info (failed ∨ Strands env (s.onRuntime fun r => (r.submit task).toOption.getD r) n) cut n
      (s.onRuntime fun r => (r.submit task).toOption.getD r) := by
  have hsubmitted : TaskRuntime.Tracks env.relay HttpSession.reopened info
      (failed ∨ TaskRuntime.Strands env.relay ((s.runtime.submit task).toOption.getD s.runtime) n) cut n
      ((s.runtime.submit task).toOption.getD s.runtime) := by
    cases hsubmit : s.runtime.submit task with
    | ok r => exact TaskRuntime.tracks_submit h hsubmit
    | error fault => exact h.recorded
  exact tracks_onRuntime hsubmitted

/-! ## What cuts off jobs, and what strands tasks -/

/-- What may cut off jobs: the side of a run that listens ends by itself, or the time is over for which it lingers. -/
def Action.CutsOff : Action → Prop
  | .endListening _ _ => True
  | .graceOver _ => True
  | _ => False

/-- **A task was stranded**: at some point the client was closed, and refused a call that was still to be made for the task. -/
def Stranded (env : Surroundings) (s : Service) (actions : List Action) (n : Nat) : Prop :=
  ∃ before after, actions = before ++ after ∧ Strands env (s.performAll env before) n

theorem stranded_append (env : Surroundings) (s : Service) (actions : List Action) (a : Action) (n : Nat) :
    Stranded env s (actions ++ [a]) n ↔ Stranded env s actions n ∨ Strands env (s.performAll env (actions ++ [a])) n := by
  constructor
  · rintro ⟨before, after, hsplit, hstrands⟩
    rcases List.eq_nil_or_concat after with rfl | ⟨rest, last, rfl⟩
    · rw [List.append_nil] at hsplit
      rw [hsplit]
      exact Or.inr hstrands
    · have hmoved : actions ++ [a] = (before ++ rest) ++ [last] := by simpa using hsplit
      obtain ⟨rfl, -⟩ := List.append_inj' hmoved rfl
      exact Or.inl ⟨before, rest, rfl, hstrands⟩
  · rintro (⟨before, after, rfl, hstrands⟩ | hstrands)
    · exact ⟨before, after ++ [a], by simp, hstrands⟩
    · exact ⟨actions ++ [a], [], by simp, hstrands⟩

/-- **An action loses a task**: it is a turn in which a call for the task meets a defect other than a closed client. -/
def Loses (env : Surroundings) (s : Service) (n : Nat) : Action → Prop
  | .turn position => TaskRuntime.LosesAt env.relay s.runtime n position
  | _ => False

/-- **A task was lost**: at some point a call for it met a defect other than a closed client. -/
def Lost (env : Surroundings) (s : Service) (actions : List Action) (n : Nat) : Prop :=
  ∃ before a after, actions = before ++ a :: after ∧ Loses env (s.performAll env before) n a

theorem lost_append (env : Surroundings) (s : Service) (actions : List Action) (a : Action) (n : Nat) :
    Lost env s (actions ++ [a]) n ↔ Lost env s actions n ∨ Loses env (s.performAll env actions) n a := exists_split_append

/-! ## The ends of jobs and of the client -/

section Closable

variable (hclosable : env.relay.Closable HttpSession.reopened)

include hclosable

theorem tracks_cancelListener (hcut : cut) (h : Tracks env info failed cut n s) (m : Nat) :
    Tracks env info failed cut n (s.onRuntime fun r => r.cancelListener m) :=
  tracks_onRuntime (TaskRuntime.tracks_cancelListener hclosable hcut h m)

/-- The side that listens ends by itself, and its jobs are cut off. -/
theorem tracks_endListening (hcut : cut) (h : Tracks env info failed cut n s) (i : Nat) (ending : Except Defect Unit) :
    Tracks env info failed cut n (s.endListening i ending) := by
  unfold endListening
  split
  · exact h
  · split
    · split
      · exact h
      · exact tracks_cancelListener hclosable hcut h _
    · exact h

/-- The time for which a run lingers is over. -/
theorem tracks_graceOver (hcut : cut) (h : Tracks env info failed cut n s) (i : Nat) :
    Tracks env info failed cut n (s.graceOver i) := by
  have hside : ∀ side, Tracks env info failed cut n (s.cancelListening side).1 := by
    intro side
    unfold cancelListening
    split
    · exact h
    · split
      · exact tracks_cancelListener hclosable hcut h _
      · exact h
  unfold graceOver
  split
  · exact hside _
  · exact h

/-- **The client is closed** if it is the service's own: the tasks fail that it strands then. -/
theorem tracks_closeClient (h : Tracks env info failed cut n s) :
    Tracks env info (failed ∨ Strands env s.closeClient n) cut n s.closeClient := by
  apply TaskRuntime.Tracks.closeRelay hclosable h
  intro hclosed
  split
  · exact HttpSession.closed_eq hclosed
  · rfl

/-- **The closing comes to its end.** -/
theorem tracks_finishClosing (h : Tracks env info failed cut n s) (result : Except ServerFault Unit) :
    Tracks env info (failed ∨ Strands env (s.finishClosing result) n) cut n (s.finishClosing result) := by
  cases result with
  | error fault => exact h.recorded
  | ok u =>
      have hclosed := tracks_closeClient hclosable (tracks_closeRuntime h)
      rw [finishClosing]
      split
      · exact hclosed
      · exact hclosed

theorem tracks_beginClosing (h : Tracks env info failed cut n s) :
    Tracks env info (failed ∨ Strands env s.beginClosing n) cut n s.beginClosing := by
  unfold beginClosing
  split
  · have hasked := tracks_onServer h (WebhookServer.shutdown s.settings.gracePeriod)
    dsimp only
    split
    · exact tracks_finishClosing hclosable hasked _
    · exact hasked.recorded
  · exact h.recorded

theorem tracks_resumeClosing (h : Tracks env info failed cut n s) :
    Tracks env info (failed ∨ Strands env s.resumeClosing n) cut n s.resumeClosing := by
  unfold resumeClosing
  split
  · split
    · exact tracks_finishClosing hclosable h _
    · exact h.recorded
  · exact h.recorded

/-! ## Actions -/

/-- **One action**: it is known how the task stands, whether it is lost by the action, and whether it is stranded now. -/
theorem tracks_perform (hkey : info.key ∈ relayTaskKeys) (h : Tracks env info failed cut n s) (a : Action) :
    Tracks env info ((failed ∨ Loses env s n a) ∨ Strands env (s.perform env a) n) (cut ∨ a.CutsOff) n
      (s.perform env a) := by
  have hcut : Tracks env info failed (cut ∨ a.CutsOff) n s := h.mono Or.inl
  -- only turns lose tasks
  have hquiet : Tracks env info (failed ∨ False) (cut ∨ a.CutsOff) n s := by
    rw [or_false]
    exact hcut
  -- most of what happens is of no concern to the runtime
  have hsame : ∀ s' : Service, s'.runtime = s.runtime →
      Tracks env info ((failed ∨ False) ∨ Strands env s' n) (cut ∨ a.CutsOff) n s' := by
    intro s' hruntime
    apply TaskRuntime.Tracks.recorded
    rw [hruntime]
    exact hquiet
  cases a with
  | run => exact (tracks_onServer hquiet _).recorded
  | resumeRun i listenFirst => exact hsame _ (runtime_resumeRun s i listenFirst)
  | beginListening i => exact (tracks_beginListening hquiet i).recorded
  | beginWaiting i => exact (tracks_beginWaiting hquiet i).recorded
  | endListening i ending => exact (tracks_endListening hclosable (Or.inr trivial) hquiet i ending).recorded
  | graceOver i => exact (tracks_graceOver hclosable (Or.inr trivial) hquiet i).recorded
  | close => exact hsame s.close (runtime_requestClosing s)
  | cancelClose i => exact hsame _ (runtime_cancelClose s i)
  | resumeClose i => exact hsame _ (runtime_resumeClose s i)
  | beginClosing => exact tracks_beginClosing hclosable hquiet
  | resumeClosing => exact tracks_resumeClosing hclosable hquiet
  | server a => exact (tracks_onServer hquiet _).recorded
  | turn position => exact (tracks_onRuntime (TaskRuntime.tracks_take? hclosable hkey hcut position)).recorded
  | expire => exact (tracks_onRuntime (TaskRuntime.tracks_expire hclosable hquiet)).recorded
  | submit task => exact tracks_submit hquiet task
  | closeRuntime => exact (tracks_closeRuntime hquiet).recorded

/-! ## Whole orders of actions -/

/-- **Any order of actions**: it is known how the task stands. -/
theorem tracks_performAll (hkey : info.key ∈ relayTaskKeys) {capacity : Nat} {session : HttpSession}
    (hnew : s.runtime = .new capacity session) (actions : List Action) :
    Tracks env info (Stranded env s actions n ∨ Lost env s actions n) (∃ a ∈ actions, a.CutsOff) n
      (s.performAll env actions) := by
  induction actions using List.reverseRecOn with
  | nil =>
      have hnot : ¬ (Stranded env s [] n ∨ Lost env s [] n) := by
        rintro (⟨before, after, hsplit, entry, hentry, -⟩ | ⟨before, a, after, hsplit, -⟩)
        · obtain ⟨rfl, -⟩ := List.append_eq_nil_iff.1 hsplit.symm
          have hnone : (TaskRuntime.new capacity session).tasks[n]? = some entry := by
            rw [← hnew]
            exact hentry
          cases hnone
        · exact absurd hsplit.symm (by simp)
      show TaskRuntime.Tracks env.relay HttpSession.reopened info _ _ n s.runtime
      rw [hnew]
      exact TaskRuntime.tracks_new capacity session hnot
  | append_singleton actions a ih =>
      have hstep := tracks_perform hclosable hkey ih a
      have hlast : (s.performAll env actions).perform env a = s.performAll env (actions ++ [a]) := by
        rw [performAll_append]
        rfl
      have hcut : ((∃ b ∈ actions, b.CutsOff) ∨ a.CutsOff) = ∃ b ∈ actions ++ [a], b.CutsOff := by
        apply propext
        simp [or_and_right, exists_or]
      rw [hlast, or_assoc (b := Lost env s actions n), ← lost_append, or_right_comm, ← stranded_append, hcut] at hstep
      exact hstep

end Closable

/-! ## What tasks get -/

/-- A client that was given to the service and is open stays open, and strands nothing. -/
theorem not_stranded_of_given {settings : Settings} {conduct : RuntimeConduct} {capacity : Nat} {session : HttpSession}
    (hcreate : create settings conduct capacity (some session) = .ok s) (hopen : session.relay.isOpen = true) (bind : Binder)
    (peer : Peer) (now : Moment) (actions : List Action) (n : Nat) :
    ¬ Stranded ⟨bind, Relay.http peer now⟩ s actions n := by
  rintro ⟨before, after, -, entry, -, hstrands⟩
  have hfirst : s.HasClient fun session => session.relay.isOpen = true := by
    rw [HasClient, runtime_create hcreate]
    exact hopen
  have hstays : (s.performAll ⟨bind, Relay.http peer now⟩ before).HasClient fun session => session.relay.isOpen = true := by
    apply hasClient_performAll _ _ hfirst
    · intro session request hsession
      rw [Relay.isOpen_http, hsession]
    · intro hown
      rw [ownsClient_create hcreate] at hown
      cases hown
  exact (Relay.http_closable peer now).not_strands ((HttpSession.reopened_eq_iff _).2 hstays) entry.info _ hstrands

/-- **What a task gets that was accepted.** Whatever order things happen in, and whatever becomes of the server, the listeners
    and the runtime: a task of the bridge whose job has ended was cut off by its listener's end, or was replied to exactly
    once. The reply is that of a handler that has failed exactly if the task was stranded or lost, and otherwise what its
    input says or its calls come to while the client is open. Tasks are stranded by the service's own client alone, as long as
    a client that is given to it is open. -/
theorem accepted_dispatched_iff {settings : Settings} {conduct : RuntimeConduct} {capacity : Nat}
    {given : Option HttpSession} {s₀ : Service} (hcreate : create settings conduct capacity given = .ok s₀) (bind : Binder)
    (peer : Peer) (now : Moment) (actions : List Action) {n : Nat} {entry : TaskEntry} {job : Job}
    (hentry : (s₀.performAll ⟨bind, Relay.http peer now⟩ actions).runtime.tasks[n]? = some entry)
    (hjob : (s₀.performAll ⟨bind, Relay.http peer now⟩ actions).runtime.jobs[n]? = some job) (hover : job.isOver = true)
    (hkey : entry.info.key ∈ relayTaskKeys) :
    (((s₀.performAll ⟨bind, Relay.http peer now⟩ actions).runtime.attemptsTo n = [] ∧ entry.reply = none ∧
        ∃ a ∈ actions, a.CutsOff) ∨
      ∃ payload,
        (s₀.performAll ⟨bind, Relay.http peer now⟩ actions).runtime.attemptsTo n
          = [(payload, TaskRuntime.delivery payload)] ∧
        entry.reply = TaskRuntime.delivered payload ∧
        (payload = internalFailure ↔
          Stranded ⟨bind, Relay.http peer now⟩ s₀ actions n ∨ Lost ⟨bind, Relay.http peer now⟩ s₀ actions n) ∧
        (payload ≠ internalFailure →
          RepliesTo ((Relay.http peer now).whileOpen HttpSession.reopened) entry.info payload)) ∧
    ∀ session, given = some session → session.relay.isOpen = true →
      ¬ Stranded ⟨bind, Relay.http peer now⟩ s₀ actions n := by
  have htracks : Tracks ⟨bind, Relay.http peer now⟩ entry.info _ _ n _ :=
    tracks_performAll (Relay.http_closable peer now) hkey (runtime_create hcreate) actions
  have hfate := (htracks.born entry hentry rfl).of_job hjob
  have hheld : (s₀.performAll ⟨bind, Relay.http peer now⟩ actions).runtime.replyTo n = entry.reply := by
    rw [TaskRuntime.replyTo, hentry]
    rfl
  rw [Job.isOver_iff.1 hover, hheld] at hfate
  refine ⟨?_, ?_⟩
  · rcases hfate with ⟨⟨hreply, hattempts⟩, hcut⟩ | ⟨payload, hpayload, hreply, hattempts⟩
    · exact Or.inl ⟨hattempts, hreply, hcut⟩
    · refine Or.inr ⟨payload, hattempts, hreply, ?_⟩
      rcases hpayload with ⟨hfailed, hfailure⟩ | ⟨hnot, hreplies⟩
      · exact ⟨iff_of_true hfailure hfailed, fun hne => absurd hfailure hne⟩
      · exact ⟨iff_of_false hreplies.ne_internalFailure hnot, fun _ => hreplies⟩
  · rintro session rfl hopen
    exact not_stranded_of_given hcreate hopen bind peer now actions n

/-- A peer that answers everybody with a number. -/
def numberPeer : Peer := fun _ => .response ⟨200, [], Utf8.encode "7"⟩

/-- Any address can be bound, and the peer answers. -/
def answeringPeer : Surroundings := ⟨.bound, Relay.http numberPeer ⟨0, 1970⟩⟩

/-- A task whose input names one request. -/
def fetch : TaskInfo := ⟨"execute", "1", "\x7b\"url\":\"http://t/\"\x7d"⟩

/-- The server ends because the closing asked it to. -/
def stopServer : List Action :=
  [.server (.endServing 0 (.ok ())), .server (.resumeShutdown 0), .server (.resumeWait 0)]

/-- A task is accepted and worked off, and then the service is closed. -/
def workedOff : List Action :=
  startUp ++ [.turn 0, .submit fetch, .turn 0, .turn 0] ++ closeDown ++ stopServer ++ [.resumeClosing]

/-- What comes of the task that is worked off. -/
def workedOffRuntime : TaskRuntime HttpSession := (usual.performAll answeringPeer workedOff).runtime

theorem accepted_dispatched_iff_seven :
    create .default .sound 1 none = .ok usual ∧
    workedOffRuntime.closed = true ∧
    ∃ entry job, workedOffRuntime.tasks[0]? = some entry ∧ entry.info = fetch ∧
      workedOffRuntime.jobs[0]? = some job ∧ job.isOver = true ∧ fetch.key ∈ relayTaskKeys ∧
      ¬ (Stranded answeringPeer usual workedOff 0 ∨ Lost answeringPeer usual workedOff 0) ∧
      ∃ payload, workedOffRuntime.attemptsTo 0 = [(payload, TaskRuntime.delivery payload)] ∧
        RepliesTo ((Relay.http numberPeer ⟨0, 1970⟩).whileOpen HttpSession.reopened) fetch payload := by
  have htasks : workedOffRuntime.tasks.map (·.info) = [fetch] := by decide +kernel
  have hjobs : workedOffRuntime.jobs.map (·.isOver) = [true] := by decide +kernel
  have hkinds : (workedOffRuntime.attemptsTo 0).map (fun attempt => attempt.1.kind) = [("success" : Text)] := by decide +kernel
  have hclosed : workedOffRuntime.closed = true := by decide +kernel
  obtain ⟨entry, hentry, hinfo⟩ : ∃ entry, workedOffRuntime.tasks[0]? = some entry ∧ entry.info = fetch := by
    rw [← Option.map_eq_some_iff, ← List.getElem?_map, htasks]
    rfl
  obtain ⟨job, hjob, hover⟩ : ∃ job, workedOffRuntime.jobs[0]? = some job ∧ job.isOver = true := by
    rw [← Option.map_eq_some_iff, ← List.getElem?_map, hjobs]
    rfl
  have hkey : fetch.key ∈ relayTaskKeys := List.mem_cons_self ..
  have hfates := (accepted_dispatched_iff create_usual .bound numberPeer ⟨0, 1970⟩ workedOff hentry hjob hover
    (hinfo.symm ▸ hkey)).1
  rw [hinfo] at hfates
  rcases hfates with ⟨hnone, -⟩ | ⟨payload, hattempts, -, hfailure, hreplies⟩
  · have hnone' : workedOffRuntime.attemptsTo 0 = [] := hnone
    rw [hnone'] at hkinds
    cases hkinds
  · have hattempts' : workedOffRuntime.attemptsTo 0 = [(payload, TaskRuntime.delivery payload)] := hattempts
    have hsound : payload ≠ internalFailure := by
      rintro rfl
      rw [hattempts'] at hkinds
      cases hkinds
    have hnot : ¬ (Stranded answeringPeer usual workedOff 0 ∨ Lost answeringPeer usual workedOff 0) :=
      fun hfailed => hsound (hfailure.2 hfailed)
    exact ⟨create_usual, hclosed, entry, job, hentry, hinfo, hjob, hover, hkey, hnot, payload, hattempts, hreplies hsound⟩

/-- What the submitters of the tasks hold: the kinds of their replies, and the data as text. -/
def heldReplies (s : Service) : List (Option (Text × Option Text)) :=
  s.runtime.tasks.map fun entry => entry.reply.map fun reply => (reply.kind, (Json.print .inline reply.data).toOption)

/-- A task is accepted after some actions, and after some more its submitter holds the reply of a handler that has failed. -/
structure FailsAfter (s : Service) (env : Surroundings) (before after : List Action) : Prop where
  accepted : (s.performAll env before).runtime.closed = false
  tasks : (s.performAll env (before ++ .submit fetch :: after)).runtime.tasks.map (·.info) = [fetch]
  jobs : (s.performAll env (before ++ .submit fetch :: after)).runtime.jobs.map (·.isOver) = [true]
  replies : heldReplies (s.performAll env (before ++ .submit fetch :: after))
    = [some (("error" : Text), some ("\x7b\"message\": \"internal task failure\"\x7d" : Text))]

/-- Any address can be bound, and the peer answers with brackets. -/
def bracketsPeer : Surroundings := ⟨.bound, Relay.http (fun _ => .response ⟨200, [], HttpCall.brackets⟩) ⟨0, 1970⟩⟩

/-- The service with a client that was given to it. -/
def visiting : Service := { usual with ownsClient := false }

/-- The closing and then a run, in which the listener works off what is left in the queue. -/
def closedThenRun : List Action := closeDown ++ startUp ++ [.turn 0, .turn 0, .turn 0]

/-- A run of which the closing goes on only when another task can be accepted. -/
def stopping : List Action := startUp ++ [.turn 0] ++ closeDown ++ stopServer

/-- Tasks that were accepted by an open runtime get the reply of a failed handler: over a client that stays open, if the peer
    answers with brackets, and over the service's own client although the peer answers well, before a run that is closed in
    advance and when the server of a run has been stopped and the runtime is about to be closed. -/
theorem accepted_tasks_fail :
    create .default .sound 1 (some (HttpSession.new Settings.defaultTimeout)) = .ok visiting ∧
    FailsAfter visiting bracketsPeer (startUp ++ [.turn 0]) ([.turn 0, .turn 0] ++ closeDown ++ stopServer ++ [.resumeClosing]) ∧
    (visiting.performAll bracketsPeer workedOff).HasClient (fun session => session.relay.isOpen = true) ∧
    create .default .sound 1 none = .ok usual ∧
    FailsAfter usual answeringPeer [] closedThenRun ∧
    FailsAfter usual answeringPeer stopping [.resumeClosing, .turn 0, .turn 0, .turn 0] := by
  refine ⟨create_default (some (.new Settings.defaultTimeout)), ?_, ?_, create_usual, ?_, ?_⟩
  · exact ⟨by decide +kernel, by decide +kernel, by decide +kernel, by decide +kernel⟩
  · show (visiting.performAll bracketsPeer workedOff).runtime.relay.relay.isOpen = true
    decide +kernel
  · exact ⟨by decide +kernel, by decide +kernel, by decide +kernel, by decide +kernel⟩
  · exact ⟨by decide +kernel, by decide +kernel, by decide +kernel, by decide +kernel⟩

end Service

end WebhookBridge
