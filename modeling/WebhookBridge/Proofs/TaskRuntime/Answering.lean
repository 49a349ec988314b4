import WebhookBridge.Proofs.TaskRuntime.Order
import WebhookBridge.Proofs.TaskRuntime.Standing

/-!
# Which tasks are answered

However the work for several tasks is interleaved, a task of the bridge whose handler has ended was replied to once, with
what its calls came to. The reply reaches the task's caller exactly if it can be dumped; otherwise nobody ever replies
again, and the caller waits for ever.

## Contents

* `TaskRuntime.Sound`: the invariant of a runtime;
* `TaskRuntime.sound_perform`, `sound_act`, `sound_run`: turns, actions and whole runs keep it;
* `TaskRuntime.ended_task_answered_iff`: which tasks are answered.
-/

namespace WebhookBridge.TaskRuntime

variable {σ : Type} {relay : Relay σ}

/-! ## The invariant -/

/-- **The invariant of a runtime**: jobs were started in the order in which tasks were submitted and the other tasks stand
    in the queue, every job has its listener, every listener has the handlers of the bridge, nobody has tried to reply to
    a task without a job, and of the others is known what the states of their jobs say. -/
structure Sound (relay : Relay σ) (r : TaskRuntime σ) : Prop where
  ordered : r.jobs.map (·.task) ++ r.queue.filterMap queuedTask? = List.range r.tasks.length
  served : ∀ job ∈ r.jobs, job.listener < r.listeners.length
  adapted : ∀ l ∈ r.listeners, ∃ others, l.handlers = bridgeHandlers others
  untried : ∀ t, r.jobs.length ≤ t → r.replyTo t = none ∧ r.attemptsTo t = []
  stands : ∀ n, StandsAt relay r n

theorem sound_new (capacity : Nat) (s : σ) : Sound relay (new capacity s) where
  ordered := rfl
  served := by simp [new]
  adapted := by simp [new]
  untried t _ := ⟨rfl, rfl⟩
  stands n entry job hentry := by simp [new] at hentry

/-- Tasks and jobs are in order. -/
theorem Sound.inOrder {r : TaskRuntime σ} (h : Sound relay r) :
    InOrder (fun handlers => ∃ others, handlers = bridgeHandlers others) r := ⟨h.ordered, h.served, h.adapted⟩

/-- A job is that of the task at its own position. -/
theorem Sound.task_eq {r : TaskRuntime σ} (h : Sound relay r) {n : Nat} {job : Job} (hjob : r.jobs[n]? = some job) :
    job.task = n ∧ n < r.tasks.length := h.inOrder.ordered.task_eq hjob

/-- **The work of one job** keeps the invariant if it keeps what is known of that job's task. -/
theorem Sound.of_touchesOnly {r r' : TaskRuntime σ} (h : Sound relay r) {n : Nat} (hn : n < r.jobs.length)
    (htouches : TouchesOnly n r r') (hown : StandsAt relay r' n) : Sound relay r' where
  ordered := (h.inOrder.of_touchesOnly htouches).ordered
  served := (h.inOrder.of_touchesOnly htouches).served
  adapted := (h.inOrder.of_touchesOnly htouches).adapted
  untried t ht := by
    rw [htouches.length_jobs] at ht
    -- a task without a job is not the one whose job has worked
    have hne : t ≠ n := by omega
    rw [htouches.replies t hne, htouches.attempts t hne]
    exact h.untried t ht
  stands m := by
    -- the job's own task is known of by assumption; nothing has happened to the others
    by_cases hm : m = n
    · rw [hm]
      exact hown
    · intro entry' job hentry' hjob hkey
      obtain ⟨entry, hentry, hinfo⟩ := htouches.exists_entry hentry'
      rw [htouches.jobs m hm] at hjob
      rw [htouches.replies m hm, htouches.attempts m hm, ← hinfo]
      exact h.stands m entry job hentry hjob (by rw [hinfo]; exact hkey)

/-- So does an operation on a job that does nothing if there is no such job. -/
theorem Sound.of_job {r r' : TaskRuntime σ} (h : Sound relay r) {n : Nat} (htouches : TouchesOnly n r r')
    (hown : StandsAt relay r' n) (hidle : r.jobs[n]? = none → r' = r) : Sound relay r' := by
  by_cases hn : n < r.jobs.length
  · exact h.of_touchesOnly hn htouches hown
  · rw [hidle (List.getElem?_eq_none (Nat.le_of_not_lt hn))]
    exact h

/-- What leaves the work as it is keeps the invariant. -/
theorem Sound.of_sameWork {r r' : TaskRuntime σ} (h : Sound relay r) (hsame : SameWork r r') : Sound relay r' where
  ordered := (h.inOrder.of_sameWork hsame).ordered
  served := (h.inOrder.of_sameWork hsame).served
  adapted := (h.inOrder.of_sameWork hsame).adapted
  untried t ht := by
    rw [hsame.jobs] at ht
    rw [replyTo, attemptsTo, hsame.tasks, hsame.attempts]
    exact h.untried t ht
  stands n entry job hentry hjob hkey := by
    rw [hsame.tasks] at hentry
    rw [hsame.jobs] at hjob
    rw [replyTo, attemptsTo, hsame.tasks, hsame.attempts]
    exact h.stands n entry job hentry hjob hkey

/-! ## Operations -/

/-- A task that is submitted waits behind the others. -/
theorem sound_addTask {r : TaskRuntime σ} (h : Sound relay r) (info : TaskInfo) :
    Sound relay ((r.addTask info).enqueue (.task r.tasks.length)) where
  ordered := h.inOrder.ordered.addTask info
  served := h.served
  adapted := h.adapted
  untried t ht := by
    obtain ⟨hreply, hattempts⟩ := h.untried t ht
    refine ⟨?_, hattempts⟩
    show (r.tasks ++ [TaskEntry.mk info none])[t]?.bind (·.reply) = none
    rw [List.getElem?_append]
    split
    · exact hreply
    · cases t - r.tasks.length with
      | zero => rfl
      | succ k => rfl
  stands n entry job hentry hjob hkey := by
    have hlt := (h.task_eq hjob).2
    have hold : (r.tasks ++ [TaskEntry.mk info none])[n]? = r.tasks[n]? := List.getElem?_append_left hlt
    have hentry' : (r.tasks ++ [TaskEntry.mk info none])[n]? = some entry := hentry
    rw [hold] at hentry'
    have hreply : ((r.addTask info).enqueue (.task r.tasks.length)).replyTo n = r.replyTo n := by
      show (r.tasks ++ [TaskEntry.mk info none])[n]?.bind (·.reply) = _
      rw [hold]
      rfl
    rw [hreply]
    exact h.stands n entry job hentry' hjob hkey

theorem sound_submit {r r' : TaskRuntime σ} (h : Sound relay r) {info : TaskInfo} (hsubmit : r.submit info = .ok r') :
    Sound relay r' := by
  unfold submit at hsubmit
  split at hsubmit
  · cases hsubmit
  · cases hsubmit
    exact (sound_addTask h info).of_sameWork (sameWork_callListener _)

theorem sound_submitOctets {r r' : TaskRuntime σ} (h : Sound relay r) {key executionId : Text} {input : Octets}
    (hsubmit : r.submitOctets key executionId input = .ok r') : Sound relay r' := by
  unfold submitOctets at hsubmit
  split at hsubmit
  · cases hsubmit
  · split at hsubmit
    · cases hsubmit
    · exact sound_submit h hsubmit

/-- The stop mark is no task. -/
theorem sound_close {r : TaskRuntime σ} (h : Sound relay r) : Sound relay r.close := by
  unfold close
  split
  · exact h
  · refine Sound.of_sameWork ?_ (sameWork_callListener _)
    exact ⟨h.inOrder.ordered.addStop, h.served, h.adapted, h.untried, h.stands⟩

theorem sound_listen {r : TaskRuntime σ} (h : Sound relay r) (others : Handlers) :
    Sound relay (r.listen (bridgeHandlers others)) := by
  have horder : InOrder (fun handlers => ∃ others, handlers = bridgeHandlers others) (r.listen (bridgeHandlers others)) :=
    h.inOrder.listen ⟨others, rfl⟩
  exact ⟨horder.ordered, horder.served, horder.adapted, h.untried, h.stands⟩

/-- A job is started for the task at the front of the queue. -/
theorem sound_addJob {r : TaskRuntime σ} (h : Sound relay r) {t n : Nat} {rest : List Queued}
    (hqueue : r.queue = .task t :: rest) (hn : n < r.listeners.length) :
    Sound relay ({ r with queue := rest }.addJob t n) := by
  -- jobs are started in the order of the tasks: the task at the front is the first without a job
  have ht : t = r.jobs.length := (h.inOrder.ordered.front hqueue).1
  have horder := h.inOrder.addJob hqueue hn
  refine ⟨horder.ordered, horder.served, horder.adapted, fun t' ht' => ?_, fun m entry job hentry hjob hkey => ?_⟩
  · have hle : (r.jobs ++ [Job.mk t n .starting]).length ≤ t' := ht'
    rw [List.length_append] at hle
    exact h.untried t' (by omega)
  · have hjob' : (r.jobs ++ [Job.mk t n .starting])[m]? = some job := hjob
    rw [List.getElem?_append] at hjob'
    split at hjob'
    · exact h.stands m entry job hentry hjob' hkey
    · rename_i hle
      have hm : m = r.jobs.length := by
        have hlt := (List.getElem?_eq_some_iff.1 hjob').1
        rw [List.length_singleton] at hlt
        omega
      subst hm
      rw [Nat.sub_self] at hjob'
      cases hjob'
      exact h.untried _ (Nat.le_refl _)

/-- **A listener** that empties the queue keeps the invariant. -/
theorem sound_drain {n : Nat} (queue : List Queued) : ∀ r : TaskRuntime σ, r.queue = queue → n < r.listeners.length →
    Sound relay r → Sound relay (drain n queue r) := by
  induction queue with
  | nil =>
      intro r hqueue _ h
      rw [drain]
      refine h.of_sameWork ⟨hqueue.symm, rfl, rfl, rfl, ?_⟩
      exact map_handlers_modify r.listeners n fun _ => rfl
  | cons q rest ih =>
      intro r hqueue hn h
      cases q with
      | task t =>
          rw [drain]
          refine ih _ rfl hn ?_
          exact (sound_addJob h hqueue hn).of_sameWork (sameWork_schedule _ _)
      | stop =>
          rw [drain]
          refine Sound.of_sameWork ?_ (sameWork_setListener _ n _)
          exact ⟨(h.inOrder.takeStop hqueue).ordered, h.served, h.adapted, h.untried, h.stands⟩

/-! ## Turns -/

/-- **One turn** keeps the invariant. -/
theorem sound_perform (hrelay : relay.IsRelayed) {r : TaskRuntime σ} (h : Sound relay r) (turn : Turn) :
    Sound relay (r.perform relay turn) := by
  cases turn with
  | listener n =>
      rw [perform]
      split
      · rename_i handlers hlistener
        exact sound_drain r.queue r rfl (List.getElem?_eq_some_iff.1 hlistener).1 h
      · exact h
  | job n =>
      rw [perform]
      split
      · rename_i job hjob
        obtain ⟨hown, hlt⟩ := h.task_eq hjob
        have hn : n < r.jobs.length := (List.getElem?_eq_some_iff.1 hjob).1
        split
        · rename_i hstate
          -- the job starts: nobody has tried to reply to its task so far
          refine h.of_touchesOnly hn (touchesOnly_startJob relay r n hown) ?_
          refine standsAt_of_bridge (touchesOnly_startJob relay r n hown) fun entry hentry hkey => ?_
          intro entry' job' hentry' hjob' hkey'
          obtain ⟨old, hold, hinfo⟩ := (touchesOnly_startJob relay r n hown).exists_entry hentry'
          rw [hentry] at hold
          cases hold
          have hstands := h.stands n entry job hentry hjob hkey
          rw [hstate] at hstands
          rw [← hinfo]
          exact stands_startJob hrelay hown hentry hkey (h.served job (List.mem_of_getElem? hjob)) h.adapted hstands.1
            hstands.2 hjob'
        · rename_i activity hstate
          rw [hown]
          -- the job goes on with what was left of its activity
          refine h.of_touchesOnly hn (touchesOnly_advance relay n activity r) ?_
          intro entry' job' hentry' hjob' hkey'
          obtain ⟨entry, hentry, hinfo⟩ := (touchesOnly_advance relay n activity r).exists_entry hentry'
          have hstands := h.stands n entry job hentry hjob (by rw [hinfo]; exact hkey')
          rw [hstate] at hstands
          rw [← hinfo]
          exact stands_advance activity r hlt hstands.1.1 hstands.1.2 hstands.2 job' hjob'
        · exact h
      · exact h
  | call n i =>
      rw [perform]
      refine h.of_job (touchesOnly_makeCall relay r n i) (standsAt_makeCall hrelay (h.stands n) i) fun hnone => ?_
      simp only [makeCall, hnone]
  | settled n i =>
      rw [perform]
      refine h.of_job (touchesOnly_settleCallOf r n i) (standsAt_settleCallOf (h.stands n) i) fun hnone => ?_
      simp only [settleCallOf, hnone]

theorem sound_take? (hrelay : relay.IsRelayed) {r r' : TaskRuntime σ} (h : Sound relay r) {position : Nat}
    (htake : r.take? relay position = some r') : Sound relay r' := by
  obtain ⟨turn, -, rfl⟩ := Option.map_eq_some_iff.1 htake
  have hsame : SameWork r { r with turns := r.turns.eraseIdx position } := ⟨rfl, rfl, rfl, rfl, rfl⟩
  exact sound_perform hrelay (h.of_sameWork hsame) turn

/-! ## Ends of calls -/

theorem sound_endCall (hrelay : relay.IsRelayed) {r : TaskRuntime σ} (h : Sound relay r) (n i : Nat) :
    Sound relay (r.endCall n i) := by
  refine h.of_job (touchesOnly_endCall r n i) (standsAt_endCall hrelay (h.stands n) i) fun hnone => ?_
  simp only [endCall, hnone]

theorem sound_expireJob (hrelay : relay.IsRelayed) {r : TaskRuntime σ} (h : Sound relay r) (n : Nat) :
    Sound relay (r.expireJob n) := by
  refine h.of_job (touchesOnly_expireJob r n) (standsAt_expireJob hrelay (h.stands n)) fun hnone => ?_
  simp only [expireJob, hnone]

theorem sound_resume {r : TaskRuntime σ} (h : Sound relay r) (n : Nat) : Sound relay (r.resume n) := by
  refine h.of_job (touchesOnly_resume r n) (standsAt_resume (h.stands n)) fun hnone => ?_
  simp only [resume, hnone]

theorem sound_foldl {f : TaskRuntime σ → Nat → TaskRuntime σ} (hf : ∀ r n, Sound relay r → Sound relay (f r n))
    (jobs : List Nat) : ∀ r, Sound relay r → Sound relay (jobs.foldl f r) := by
  induction jobs with
  | nil => exact fun _ h => h
  | cons n jobs ih => exact fun r h => ih (f r n) (hf r n h)

theorem sound_release {r : TaskRuntime σ} (h : Sound relay r) : Sound relay r.release :=
  sound_foldl (fun _ n h => sound_resume h n) r.held _ (h.of_sameWork ⟨rfl, rfl, rfl, rfl, rfl⟩)

theorem sound_expire (hrelay : relay.IsRelayed) {r : TaskRuntime σ} (h : Sound relay r) : Sound relay r.expire :=
  sound_foldl (fun _ n h => sound_expireJob hrelay h n) _ r h

/-! ## Runs -/

/-- **One action** keeps the invariant. -/
theorem sound_act (hrelay : relay.IsRelayed) {r : TaskRuntime σ} (h : Sound relay r) (a : Action) :
    Sound relay (r.act relay a) := by
  cases a with
  | submit info =>
      rw [act]
      cases hsubmit : r.submit info with
      | ok r' => exact sound_submit h hsubmit
      | error fault => exact h
  | submitOctets key executionId input =>
      rw [act]
      cases hsubmit : r.submitOctets key executionId input with
      | ok r' => exact sound_submitOctets h hsubmit
      | error fault => exact h
  | close => exact sound_close h
  | listen others => exact sound_listen h others
  | turn position =>
      rw [act]
      cases htake : r.take? relay position with
      | none => exact h
      | some r' => exact sound_take? hrelay h htake
  | release => exact sound_release h
  | emit name dumped =>
      show Sound relay (r.orSame (r.emit name dumped))
      unfold emit
      split
      · exact h
      · cases dumped with
        | error fault => exact h
        | ok data => exact h.of_sameWork ⟨rfl, rfl, rfl, rfl, rfl⟩
  | nextEvent =>
      rw [act, nextEvent?]
      cases r.events.next? with
      | none => exact h
      | some found => exact h.of_sameWork ⟨rfl, rfl, rfl, rfl, rfl⟩
  | endCall n i => exact sound_endCall hrelay h n i
  | endCalls n => exact sound_expireJob hrelay h n
  | expire => exact sound_expire hrelay h

/-- **A whole run** keeps the invariant. -/
theorem sound_run (hrelay : relay.IsRelayed) (actions : List Action) :
    ∀ r : TaskRuntime σ, Sound relay r → Sound relay (r.run relay actions) := by
  induction actions with
  | nil => exact fun _ h => h
  | cons a actions ih => exact fun r h => ih (r.act relay a) (sound_act hrelay h a)

/-- **Which tasks are answered.** Whatever happens to a runtime whose listeners have the handlers of the bridge, over a
    relay that answers for every call: a task of the bridge whose job has ended was replied to exactly once, with what its
    calls came to, and its caller holds a reply exactly if the payload can be dumped. -/
theorem ended_task_answered_iff (hrelay : relay.IsRelayed) (capacity : Nat) (s : σ) (actions : List Action)
    {entry : TaskEntry} {job : Job} (hjob : job ∈ ((new capacity s).run relay actions).jobs)
    (hover : job.isOver = true) (hentry : ((new capacity s).run relay actions).tasks[job.task]? = some entry)
    (hkey : entry.info.key ∈ relayTaskKeys) :
    ∃ payload, RepliesTo relay entry.info payload ∧
      ((new capacity s).run relay actions).attemptsTo job.task = [(payload, delivery payload)] ∧
      (entry.reply ≠ none ↔ payload.Dumpable) ∧
      ∀ reply, entry.reply = some reply → reply.kind = payload.kind ∧ payload.dump = .ok reply.data := by
  have h := sound_run hrelay actions _ (sound_new capacity s)
  obtain ⟨n, hlt, rfl⟩ := List.getElem_of_mem hjob
  have hget := List.getElem?_eq_getElem hlt
  rw [(h.task_eq hget).1] at hentry ⊢
  have hstands := h.stands n entry _ hentry hget hkey
  rw [Job.isOver_iff.1 hover] at hstands
  obtain ⟨payload, hpayload, hreply, hattempts⟩ := hstands
  have hheld : entry.reply = delivered payload := by
    rw [← hreply, replyTo, hentry]
    rfl
  refine ⟨payload, hpayload, hattempts, ?_, ?_⟩
  · rw [hheld, delivered, ← payload.dump_iff]
    cases payload.dump with
    | ok data => simp [Except.toOption]
    | error fault => simp [Except.toOption]
  · intro reply hsome
    rw [hheld, delivered] at hsome
    cases hdump : payload.dump with
    | ok data =>
        rw [hdump] at hsome
        cases hsome
        exact ⟨rfl, rfl⟩
    | error fault =>
        rw [hdump] at hsome
        cases hsome

/-- A relay whose calls are all answered with one document. -/
def documentRelay (content : Octets) : Relay (List RelayRequest) :=
  .answering fun _ request => responseResult request.url ⟨200, [], content⟩

theorem isRelayed_documentRelay {content : Octets} (h : (faultOf? (Json.Lenient.readDocument content)).isNone = true) :
    (documentRelay content).IsRelayed := by
  intro s request
  show (responseResult request.url ⟨200, [], content⟩).IsRelayed
  cases hread : Json.Lenient.readDocument content with
  | error fault => rw [hread] at h; cases h
  | ok v => simp only [responseResult, hread]; trivial

/-- One task is submitted, taken from the queue, and worked off. -/
def oneTask : List Action :=
  [.listen fun _ => none, .submit ⟨"execute", "1", "\x7b\"url\":\"a\"\x7d"⟩, .turn 0, .turn 0]

/-- What comes of the one task if its call is answered with a document. -/
def afterOneTask (content : Octets) : TaskRuntime (List RelayRequest) :=
  (new 1 []).run (documentRelay content) oneTask

theorem ended_task_answered_iff_seven :
    (documentRelay (Utf8.encode "7")).IsRelayed ∧
    ∃ job ∈ (afterOneTask (Utf8.encode "7")).jobs, job.isOver = true ∧
      ∃ entry, (afterOneTask (Utf8.encode "7")).tasks[job.task]? = some entry ∧ entry.info.key ∈ relayTaskKeys ∧
        ∃ payload, (afterOneTask (Utf8.encode "7")).attemptsTo job.task = [(payload, delivery payload)] ∧
          (entry.reply ≠ none ↔ payload.Dumpable) := by
  have hrelay : (documentRelay (Utf8.encode "7")).IsRelayed := isRelayed_documentRelay (by decide +kernel)
  have hjobs : (afterOneTask (Utf8.encode "7")).jobs.map (fun job => (job.task, job.isOver)) = [(0, true)] := by
    decide +kernel
  have htasks : (afterOneTask (Utf8.encode "7")).tasks.map (fun entry => entry.info.key) = [("execute" : Text)] := by
    decide +kernel
  obtain ⟨job, hjob, hpair⟩ := List.mem_map.1 (hjobs.symm ▸ List.mem_singleton.2 rfl)
  obtain ⟨htask, hover⟩ := Prod.mk.inj hpair
  have hfirst : ((afterOneTask (Utf8.encode "7")).tasks[job.task]?).map (fun entry => entry.info.key)
      = some ("execute" : Text) := by
    rw [← List.getElem?_map, htasks, htask]
    rfl
  obtain ⟨entry, hentry, hkey⟩ := Option.map_eq_some_iff.1 hfirst
  have hmem : entry.info.key ∈ relayTaskKeys := by
    rw [hkey]
    exact List.mem_cons_self ..
  obtain ⟨payload, -, hattempts, hiff, -⟩ := ended_task_answered_iff hrelay 1 [] oneTask hjob hover hentry hmem
  exact ⟨hrelay, job, hjob, hover, entry, hentry, hmem, payload, hattempts, hiff⟩

/-- A document of lists inside one another. -/
def nestedLists : Octets := List.replicate 300 91 ++ [49] ++ List.replicate 300 93

/-- A document can be read and still leave the task without an answer for which it was fetched. -/
theorem nestedLists_unanswered :
    (∃ v, Json.Lenient.readDocument nestedLists = .ok v) ∧ (documentRelay nestedLists).IsRelayed ∧
    (afterOneTask nestedLists).jobs.map (fun job => (job.task, job.isOver)) = [(0, true)] ∧
    (afterOneTask nestedLists).tasks.map (fun entry => entry.info.key) = [("execute" : Text)] ∧
    (afterOneTask nestedLists).tasks.map (fun entry => entry.reply.isSome) = [false] := by
  have hread : (faultOf? (Json.Lenient.readDocument nestedLists)).isNone = true := by decide +kernel
  refine ⟨?_, isRelayed_documentRelay hread, by decide +kernel, by decide +kernel, by decide +kernel⟩
  cases hdoc : Json.Lenient.readDocument nestedLists with
  | error fault => rw [hdoc] at hread; cases hread
  | ok v => exact ⟨v, rfl⟩

end WebhookBridge.TaskRuntime
