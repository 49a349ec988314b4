import WebhookBridge.Proofs.TaskRuntime.Queueing
import WebhookBridge.Proofs.TaskRuntime.Replying

/-!
# What handlers have done

The replies that were tried to a task are those of its handler, up to where it has come. Where it has failed without one
that was delivered, the runtime has replied in its place; a task of a kind without a handler has the runtime's reply alone.

## Contents

* `Activity.LeadsTo`: how far an activity has come, and the replies on the way;
* `TaskRuntime.Handled`, `TaskRuntime.HandledAt`: what the state of a job says of its task;
* `TaskRuntime.handled_advance`, `TaskRuntime.Passed`: jobs that go on, and what happens to those that wait;
* `TaskRuntime.Handling`, `TaskRuntime.handling_moves`: the invariant, in every run.
-/

namespace WebhookBridge

/-- An attempt to reply, with what it came to. -/
abbrev Attempt := Payload × Except ReplyFault Unit

/-- **How far an activity may come**, whatever its steps come to, and the replies that are tried on the way. -/
inductive Activity.LeadsTo (start : Activity) : List Attempt → Activity → Prop
  | start : LeadsTo start [] start
  | reply (made : List Attempt) (payload : Payload) (next : Except ReplyFault Unit → Activity)
      (outcome : Except ReplyFault Unit) (h : LeadsTo start made (.reply payload next)) :
      LeadsTo start (made ++ [(payload, outcome)]) (next outcome)
  | call (made : List Attempt) (request : RelayRequest) (next : CallResult → Activity) (result : CallResult)
      (h : LeadsTo start made (.call request next)) : LeadsTo start made (next result)
  | dispatch (made : List Attempt) (requests : List RelayRequest) (next : Except Defect BatchResult → Activity)
      (outcome : Except Defect BatchResult) (h : LeadsTo start made (.dispatch requests next)) :
      LeadsTo start made (next outcome)
  | wait (made : List Attempt) (next : Activity) (h : LeadsTo start made (.wait next)) : LeadsTo start made next
  | report (made : List Attempt) (events : List LogEvent) (next : Activity) (h : LeadsTo start made (.report events next)) :
      LeadsTo start made next

namespace TaskRuntime

variable {σ : Type} {relay : Relay σ} {r r' r'' : TaskRuntime σ} {n : Nat} {handlers : Handlers} {info : TaskInfo}
  {made : List Attempt}

/-! ## Handlers -/

/-- The handler of a task has come to some point. -/
def Reaches (handlers : Handlers) (info : TaskInfo) (made : List Attempt) (a : Activity) : Prop :=
  ∃ handler, handlers info.key = some handler ∧ (handler info).LeadsTo made a

/-- What a task gets for which there is no handler. -/
def unknownTask (info : TaskInfo) : Payload := .error (("unknown task " : Text) ++ info.key.quoted)

/-- What the runtime replies in place of a handler that has failed: nothing if a reply has been delivered. -/
def fallback (made : List Attempt) : List Attempt :=
  if (firstDelivered (made.map (·.1))).isSome then [] else [(.error "internal task failure", .ok ())]

/-- **What is known of the attempts to reply to a task**, from the state of its job: they are those that its handler has
    made. When the job has ended the handler has, or it has failed, or there is none. -/
def Handled (handlers : Handlers) (info : TaskInfo) (attempts : List Attempt) : JobState → Prop
  | .starting => attempts = []
  | .resuming a => Reaches handlers info attempts a
  | .calling _ next => ∃ request, Reaches handlers info attempts (.call request next)
  | .batching _ _ _ next => ∃ requests, Reaches handlers info attempts (.dispatch requests next)
  | .waiting next => Reaches handlers info attempts (.wait next)
  | .over => Reaches handlers info attempts .done ∨
      (∃ made defect, Reaches handlers info made (.fail defect) ∧ attempts = made ++ fallback made) ∨
      handlers info.key = none ∧ attempts = [(unknownTask info, .ok ())]

/-- What is known of the task of a job. -/
def HandledAt (r : TaskRuntime σ) (n : Nat) : Prop :=
  ∀ job, r.jobs[n]? = some job → ∃ l entry, r.listeners[job.listener]? = some l ∧ r.tasks[n]? = some entry ∧
    Handled l.handlers entry.info (r.attemptsTo n) job.state

/-- The listener and the task of a job outlast everything. -/
theorem Later.exists_listener (h : Later r r') {m : Nat} {l : Listener} (hl : r.listeners[m]? = some l) :
    ∃ l', r'.listeners[m]? = some l' ∧ l'.handlers = l.handlers := by
  obtain ⟨rest, hrest⟩ := h.handlers
  have hlt : m < (r.listeners.map (·.handlers)).length := by simpa using (List.getElem?_eq_some_iff.1 hl).1
  have hget : (r'.listeners.map (·.handlers))[m]? = some l.handlers := by
    rw [← hrest, List.getElem?_append_left hlt, List.getElem?_map, hl]
    rfl
  rw [List.getElem?_map] at hget
  exact Option.map_eq_some_iff.1 hget

theorem Later.exists_task (h : Later r r') {t : Nat} {entry : TaskEntry} (hentry : r.tasks[t]? = some entry) :
    ∃ entry', r'.tasks[t]? = some entry' ∧ entry'.info = entry.info := by
  obtain ⟨rest, hrest⟩ := h.infos
  have hlt : t < (r.tasks.map (·.info)).length := by simpa using (List.getElem?_eq_some_iff.1 hentry).1
  have hget : (r'.tasks.map (·.info))[t]? = some entry.info := by
    rw [← hrest, List.getElem?_append_left hlt, List.getElem?_map, hentry]
    rfl
  rw [List.getElem?_map] at hget
  exact Option.map_eq_some_iff.1 hget

/-- **What is known of a task is known later** if what happened to its job and to the attempts keeps it. -/
theorem HandledAt.later (h : r.HandledAt n) (hlater : Later r r')
    (hjob : ∀ job', r'.jobs[n]? = some job' → ∃ job, r.jobs[n]? = some job ∧ job'.listener = job.listener ∧
      ∀ l entry, r.listeners[job.listener]? = some l → r.tasks[n]? = some entry →
        Handled l.handlers entry.info (r.attemptsTo n) job.state →
        Handled l.handlers entry.info (r'.attemptsTo n) job'.state) : r'.HandledAt n := by
  intro job' hjob'
  obtain ⟨job, hold, hlistener, hkeeps⟩ := hjob job' hjob'
  obtain ⟨l, entry, hl, hentry, hhandled⟩ := h job hold
  obtain ⟨l', hl', hhandlers⟩ := hlater.exists_listener hl
  obtain ⟨entry', hentry', hinfo⟩ := hlater.exists_task hentry
  refine ⟨l', entry', ?_, hentry', ?_⟩
  · rw [hlistener]
    exact hl'
  · rw [hhandlers, hinfo]
    exact hkeeps l entry hl hentry hhandled

/-- It is known later if nothing happened to its job and to the attempts. -/
theorem HandledAt.same (h : r.HandledAt n) (hlater : Later r r') (hjob : r'.jobs[n]? = r.jobs[n]?)
    (hattempts : r'.attemptsTo n = r.attemptsTo n) : r'.HandledAt n := by
  apply h.later hlater
  intro job' hjob'
  rw [hattempts]
  exact ⟨job', hjob ▸ hjob', rfl, fun _ _ _ _ => id⟩

/-! ## Jobs that go on -/

theorem attemptsTo_reply (hn : n < r.tasks.length) (payload : Payload) :
    (r.reply n payload).1.attemptsTo n = r.attemptsTo n ++ [(payload, (r.reply n payload).2)] := by
  simp [reply, List.getElem?_eq_getElem hn, attemptsTo]

/-- The runtime's own reply to a task that has none is delivered. -/
theorem reply_ok (hn : n < r.tasks.length) (hjudged : r.Judged n)
    (hnone : firstDelivered ((r.attemptsTo n).map (·.1)) = none) (message : Text) :
    (r.reply n (.error message)).2 = .ok () := by
  rw [reply_eq (List.getElem?_eq_getElem hn) hjudged, verdict, hnone]
  rfl

/-- Whether a task has its reply can be seen from the attempts. -/
theorem isAnswered_eq (hn : n < r.tasks.length) (hjudged : r.Judged n) :
    r.isAnswered n = (firstDelivered ((r.attemptsTo n).map (·.1))).isSome := by
  have hentry := List.getElem?_eq_getElem hn
  simp only [Judged, hentry] at hjudged
  simp only [isAnswered, hentry, hjudged.1]

/-- A job that fails. -/
theorem attemptsTo_failJob (hn : n < r.tasks.length) (hjudged : r.Judged n) :
    (r.failJob n n).attemptsTo n = r.attemptsTo n ++ fallback (r.attemptsTo n) := by
  have hentry := List.getElem?_eq_getElem hn
  have hanswered : ∀ events, (r.report events).isAnswered n = (firstDelivered ((r.attemptsTo n).map (·.1))).isSome :=
    fun _ => isAnswered_eq hn hjudged
  rw [fallback]
  cases hfirst : firstDelivered ((r.attemptsTo n).map (·.1)) with
  | some reply =>
      rw [hfirst] at hanswered
      simp only [failJob, hentry, hanswered, Option.isSome_some, if_true, List.append_nil]
      rfl
  | none =>
      rw [hfirst] at hanswered
      simp only [failJob, hentry, hanswered, Option.isSome_none, Bool.false_eq_true, if_false]
      have hreply := attemptsTo_reply (r := r.report [⟨.error, .runtime, ("task " : Text) ++ r.tasks[n].info.key.quoted
        ++ " (" ++ r.tasks[n].info.executionId ++ ") failed"⟩]) hn (.error "internal task failure")
      rw [reply_ok (r := r.report _) hn hjudged hfirst] at hreply
      exact hreply

theorem state_failJob (hn : n < r.tasks.length) {job : Job} (hjob : (r.failJob n n).jobs[n]? = some job) :
    job.state = .over := by
  simp only [failJob, List.getElem?_eq_getElem hn] at hjob
  exact state_endJob hjob

/-- **A job up to the next point where it waits.** -/
theorem handled_advance (a : Activity) : ∀ r : TaskRuntime σ, n < r.tasks.length → (∀ t, r.Judged t) →
    Reaches handlers info (r.attemptsTo n) a → ∀ job, (advance relay n n a r).jobs[n]? = some job →
    Handled handlers info ((advance relay n n a r).attemptsTo n) job.state := by
  induction a with
  | done =>
      intro r _ _ hreaches job hjob
      rw [state_endJob hjob]
      exact Or.inl hreaches
  | fail defect =>
      intro r hn hjudged hreaches job hjob
      rw [advance] at hjob ⊢
      rw [state_failJob hn hjob, attemptsTo_failJob hn (hjudged n)]
      exact Or.inr (Or.inl ⟨_, defect, hreaches, rfl⟩)
  | reply payload next ih =>
      rintro r hn hjudged ⟨handler, hhandler, hleads⟩ job hjob
      have hlater := later_reply r n payload
      have hlength : n < (r.reply n payload).1.tasks.length := by
        rw [(touchesOnly_reply r n payload).length_tasks]
        exact hn
      refine ih _ _ hlength (hlater.judged hjudged) ⟨handler, hhandler, ?_⟩ job hjob
      rw [attemptsTo_reply hn]
      exact .reply _ payload next _ hleads
  | call request next ih =>
      rintro r hn hjudged ⟨handler, hhandler, hleads⟩ job hjob
      rw [advance] at hjob ⊢
      split at hjob
      · rename_i hlate
        rw [if_pos hlate, state_setJob hjob]
        exact ⟨request, handler, hhandler, hleads⟩
      · rename_i hlate
        rw [if_neg hlate]
        let called := { r with relay := (relay.call r.relay request).state }.report (relay.call r.relay request).log
        exact ih _ called hn hjudged ⟨handler, hhandler, .call _ request next _ hleads⟩ job hjob
  | dispatch requests next ih =>
      rintro r hn hjudged ⟨handler, hhandler, hleads⟩ job hjob
      rw [advance] at hjob ⊢
      split at hjob
      · rename_i hempty
        rw [if_pos hempty]
        exact ih _ r hn hjudged ⟨handler, hhandler, .dispatch _ requests next _ hleads⟩ job hjob
      · rename_i hempty
        rw [if_neg hempty, state_setJob (n := n) hjob]
        exact ⟨requests, handler, hhandler, hleads⟩
  | wait next ih =>
      rintro r hn hjudged ⟨handler, hhandler, hleads⟩ job hjob
      rw [advance] at hjob ⊢
      split at hjob
      · rename_i hreleased
        rw [if_pos hreleased]
        exact ih r hn hjudged ⟨handler, hhandler, .wait _ next hleads⟩ job hjob
      · rename_i hreleased
        rw [if_neg hreleased, state_setJob hjob]
        exact ⟨handler, hhandler, hleads⟩
  | report events next ih =>
      rintro r hn hjudged ⟨handler, hhandler, hleads⟩
      exact ih (r.report events) hn hjudged ⟨handler, hhandler, .report _ events next hleads⟩

/-- **A job that starts**: its handler does what it does, or there is none. -/
theorem handled_startJob {job : Job} (hown : job.task = n) {l : Listener} (hl : r.listeners[job.listener]? = some l)
    {entry : TaskEntry} (hentry : r.tasks[n]? = some entry) (hjudged : ∀ t, r.Judged t) (hnone : r.attemptsTo n = [])
    {job' : Job} (hjob' : (r.startJob relay n job).jobs[n]? = some job') :
    Handled l.handlers entry.info ((r.startJob relay n job).attemptsTo n) job'.state := by
  subst hown
  have hn : job.task < r.tasks.length := (List.getElem?_eq_some_iff.1 hentry).1
  simp only [startJob, hentry, hl] at hjob' ⊢
  cases hhandler : l.handlers entry.info.key with
  | some handler =>
      simp only [hhandler] at hjob' ⊢
      refine handled_advance _ r hn hjudged ⟨handler, hhandler, ?_⟩ job' hjob'
      rw [hnone]
      exact .start
  | none =>
      simp only [hhandler] at hjob' ⊢
      rw [state_endJob hjob']
      refine Or.inr (Or.inr ⟨hhandler, ?_⟩)
      have hreply := attemptsTo_reply (r := r.report [⟨.warning, .runtime,
        ("no handler registered for task " : Text) ++ entry.info.key.quoted⟩]) hn (unknownTask entry.info)
      have hfirst : firstDelivered ((r.attemptsTo job.task).map (·.1)) = none := by
        rw [hnone]
        rfl
      rw [unknownTask, reply_ok (r := r.report _) hn (hjudged _) hfirst] at hreply
      rw [show (r.report _).attemptsTo job.task = [] from hnone] at hreply
      exact hreply

/-! ## Jobs that wait -/

/-- What may happen to a job while it waits: its call or its batch ends, a batch goes on, or the job is released. -/
inductive Passes : JobState → JobState → Prop
  | same (state : JobState) : Passes state state
  | called (result : CallResult) (next : CallResult → Activity) : Passes (.calling result next) (.resuming (next result))
  | batched (batch batch' : BatchRun) (late late' : List (Nat × CallResult)) (unsettled unsettled' : Nat)
      (next : Except Defect BatchResult → Activity) :
      Passes (.batching batch late unsettled next) (.batching batch' late' unsettled' next)
  | dispatched (batch : BatchRun) (late : List (Nat × CallResult)) (unsettled : Nat)
      (next : Except Defect BatchResult → Activity) (outcome : Except Defect BatchResult) :
      Passes (.batching batch late unsettled next) (.resuming (next outcome))
  | released (next : Activity) : Passes (.waiting next) (.resuming next)

theorem Passes.handled {state state' : JobState} (h : Passes state state') (hhandled : Handled handlers info made state) :
    Handled handlers info made state' := by
  cases h with
  | same _ => exact hhandled
  | called result next =>
      obtain ⟨request, handler, hhandler, hleads⟩ := hhandled
      exact ⟨handler, hhandler, .call _ request next result hleads⟩
  | batched _ _ _ _ _ _ next => exact hhandled
  | dispatched _ _ _ next outcome =>
      obtain ⟨requests, handler, hhandler, hleads⟩ := hhandled
      exact ⟨handler, hhandler, .dispatch _ requests next outcome hleads⟩
  | released next =>
      obtain ⟨handler, hhandler, hleads⟩ := hhandled
      exact ⟨handler, hhandler, .wait _ next hleads⟩

/-- A later runtime in which something happened to a job that waits, and nobody tried to reply to its task. -/
structure Passed (n : Nat) (r r' : TaskRuntime σ) : Prop where
  attempts : r'.attemptsTo n = r.attemptsTo n
  job : ∀ job', r'.jobs[n]? = some job' → ∃ job, r.jobs[n]? = some job ∧ job'.listener = job.listener ∧
    ∀ handlers info made, Handled handlers info made job.state → Handled handlers info made job'.state

theorem Passed.trans (h : Passed n r r') (h' : Passed n r' r'') : Passed n r r'' := by
  refine ⟨h'.attempts.trans h.attempts, ?_⟩
  intro job'' hjob''
  obtain ⟨job', hjob', hlistener', hkeeps'⟩ := h'.job job'' hjob''
  obtain ⟨job, hjob, hlistener, hkeeps⟩ := h.job job' hjob'
  exact ⟨job, hjob, hlistener'.trans hlistener, fun handlers info made hh => hkeeps' _ _ _ (hkeeps handlers info made hh)⟩

theorem Passed.of_same (hattempts : r'.attemptsTo n = r.attemptsTo n) (hjobs : r'.jobs[n]? = r.jobs[n]?) :
    Passed n r r' :=
  ⟨hattempts, fun job' hjob' => ⟨job', hjobs ▸ hjob', rfl, fun _ _ _ => id⟩⟩

theorem Passed.refl (n : Nat) (r : TaskRuntime σ) : Passed n r r := .of_same rfl rfl

/-- A job that waits comes to another state. -/
theorem passed_of_job {job : Job} (hjob : r.jobs[n]? = some job) {state : JobState} (h : Passes job.state state)
    (hattempts : r'.attemptsTo n = r.attemptsTo n) (hjobs : r'.jobs = (r.setJob n state).jobs) : Passed n r r' := by
  refine ⟨hattempts, ?_⟩
  intro job' hjob'
  have hset : (r.setJob n state).jobs[n]? = some { job with state := state } := by simp [setJob, hjob]
  rw [hjobs, hset] at hjob'
  cases hjob'
  exact ⟨job, hjob, rfl, fun _ _ _ => h.handled⟩

theorem HandledAt.passed (h : r.HandledAt n) (hlater : Later r r') (hpassed : Passed n r r') : r'.HandledAt n := by
  apply h.later hlater
  intro job' hjob'
  obtain ⟨job, hjob, hlistener, hkeeps⟩ := hpassed.job job' hjob'
  rw [hpassed.attempts]
  exact ⟨job, hjob, hlistener, fun _ _ _ _ => hkeeps _ _ _⟩

theorem passed_makeCall (relay : Relay σ) (r : TaskRuntime σ) (n i : Nat) : Passed n r (r.makeCall relay n i) := by
  unfold makeCall
  split
  · rename_i task listener batch late unsettled next hjob
    split
    · dsimp only
      split
      · exact passed_of_job hjob (.batched ..) rfl rfl
      · exact passed_of_job hjob (.batched ..) rfl rfl
    · exact .refl n r
  · exact .refl n r

theorem passed_settleCallOf (r : TaskRuntime σ) (n i : Nat) : Passed n r (r.settleCallOf n i) := by
  unfold settleCallOf
  split
  · rename_i task listener batch late unsettled next hjob
    dsimp only
    split
    · exact passed_of_job hjob (.dispatched ..) rfl rfl
    · exact passed_of_job hjob (.batched ..) rfl rfl
  · exact .refl n r

theorem passed_expireCalls (n : Nat) (calls : List (Nat × CallResult)) :
    ∀ r : TaskRuntime σ, Passed n r (expireCalls n calls r) := by
  induction calls with
  | nil => exact fun r => .refl n r
  | cons call calls ih =>
      obtain ⟨i, result⟩ := call
      intro r
      unfold expireCalls
      split
      · rename_i task listener batch late unsettled next hjob
        split
        · refine Passed.trans ?_ (ih _)
          exact passed_of_job hjob (.batched ..) rfl rfl
        · exact ih r
      · exact .refl n r

theorem passed_endCall (r : TaskRuntime σ) (n i : Nat) : Passed n r (r.endCall n i) := by
  unfold endCall
  split
  · rename_i task listener batch late unsettled next hjob
    split
    · refine Passed.trans ?_ (passed_expireCalls n _ _)
      exact passed_of_job hjob (.batched ..) rfl rfl
    · exact .refl n r
  · exact .refl n r

theorem passed_expireJob (r : TaskRuntime σ) (n : Nat) : Passed n r (r.expireJob n) := by
  unfold expireJob
  split
  · rename_i task listener result next hjob
    exact passed_of_job hjob (.called result next) rfl rfl
  · rename_i task listener batch late unsettled next hjob
    refine Passed.trans ?_ (passed_expireCalls n _ _)
    exact passed_of_job hjob (.batched ..) rfl rfl
  · exact .refl n r

theorem passed_resume (r : TaskRuntime σ) (n : Nat) : Passed n r (r.resume n) := by
  unfold resume
  split
  · rename_i task listener next hjob
    exact passed_of_job hjob (.released next) rfl rfl
  · exact .refl n r

/-! ## The invariant -/

/-- **The invariant**: besides what is known of the queue, all attempts came to what they should, nobody has tried to reply
    to a task without a job, and of the others is known what the states of their jobs say. -/
structure Handling (r : TaskRuntime σ) : Prop extends Queueing r where
  judged : ∀ t, r.Judged t
  untried : ∀ t, r.jobs.length ≤ t → r.attemptsTo t = []
  handled : ∀ n, r.HandledAt n

theorem handling_new (capacity : Nat) (s : σ) : Handling (new capacity s) where
  toQueueing := queueing_new capacity s
  judged t := by simp [Judged, new, attemptsTo]
  untried t _ := rfl
  handled n job hjob := by simp [new] at hjob

/-- What leaves jobs and attempts as they are keeps what is known of tasks. -/
theorem Handling.same (h : Handling r) (hqueueing : Queueing r') (hlater : Later r r') (hjobs : r'.jobs = r.jobs)
    (hattempts : r'.attempts = r.attempts) : Handling r' where
  toQueueing := hqueueing
  judged := hlater.judged h.judged
  untried t ht := by
    rw [hjobs] at ht
    rw [attemptsTo, hattempts]
    exact h.untried t ht
  handled n := by
    refine (h.handled n).same hlater (by rw [hjobs]) ?_
    rw [attemptsTo, hattempts]
    rfl

/-- **What is done for a job** keeps what is known of tasks if it keeps what is known of its own. -/
theorem Handling.own (h : Handling r) (hn : n < r.jobs.length) (hqueueing : Queueing r') (hlater : Later r r')
    (htouches : TouchesOnly n r r') (hown : r'.HandledAt n) : Handling r' where
  toQueueing := hqueueing
  judged := hlater.judged h.judged
  untried t ht := by
    rw [htouches.length_jobs] at ht
    rw [htouches.attempts t (by omega)]
    exact h.untried t ht
  handled m := by
    by_cases hm : m = n
    · rw [hm]
      exact hown
    · exact (h.handled m).same hlater (htouches.jobs m hm) (htouches.attempts m hm)

/-- What happens to a job that waits keeps it. -/
theorem Handling.of_passed (h : Handling r) (hqueueing : Queueing r') (hbeside : Beside n r r') (hpassed : Passed n r r') :
    Handling r' where
  toQueueing := hqueueing
  judged := hbeside.later.judged h.judged
  untried t ht := by
    rw [hbeside.touches.length_jobs] at ht
    by_cases htn : t = n
    · subst htn
      rw [hpassed.attempts]
      exact h.untried t ht
    · rw [hbeside.touches.attempts t htn]
      exact h.untried t ht
  handled m := by
    by_cases hm : m = n
    · subst hm
      exact (h.handled m).passed hbeside.later hpassed
    · exact (h.handled m).same hbeside.later (hbeside.touches.jobs m hm) (hbeside.touches.attempts m hm)

/-! ## Steps -/

/-- **A listener takes what stands in the queue**: to none of the tasks has anybody tried to reply. -/
theorem handled_drain {m : Nat} (queue : List Queued) : ∀ r : TaskRuntime σ, r.queue = queue → QueueFits (some m) r →
    m < r.listeners.length → (∀ t, r.jobs.length ≤ t → r.attemptsTo t = []) → (∀ n, r.HandledAt n) →
    (∀ t, (drain m queue r).jobs.length ≤ t → (drain m queue r).attemptsTo t = []) ∧ ∀ n, (drain m queue r).HandledAt n := by
  induction queue with
  | nil =>
      intro r _ _ _ huntried hhandled
      rw [drain]
      refine ⟨huntried, ?_⟩
      intro n
      have hlater := later_drain (n := m) [] r
      rw [drain] at hlater
      exact (hhandled n).same hlater rfl rfl
  | cons q rest ih =>
      intro r hqueue hfits hm huntried hhandled
      cases q with
      | stop =>
          rw [drain]
          refine ⟨huntried, ?_⟩
          intro n
          have hlater := later_drain (n := m) (.stop :: rest) r
          rw [drain] at hlater
          exact (hhandled n).same hlater rfl rfl
      | task t =>
          rw [drain]
          obtain ⟨hfront, ht⟩ := Ordered.front hfits.ordered hqueue
          generalize hnext : ({ r with queue := rest }.addJob t m).schedule (.job r.jobs.length) = next
          have hjobs : next.jobs = r.jobs ++ [⟨t, m, .starting⟩] := by rw [← hnext]; rfl
          have hattempts : ∀ t, next.attemptsTo t = r.attemptsTo t := fun t => by rw [← hnext]; rfl
          have hlater : Later r next := by
            rw [← hnext]
            have htaken : Later r { r with queue := rest } := later_take r rest
            exact (htaken.trans (later_addJob _ t m)).trans ((sameWork_schedule _ _).later id)
          have hfits' : QueueFits (some m) next := hnext ▸ hfits.addJob hqueue
          have hqueue' : next.queue = rest := by rw [← hnext]; rfl
          have hm' : m < next.listeners.length := by rw [← hnext]; exact hm
          refine ih next hqueue' hfits' hm' ?_ ?_
          · intro t' ht'
            rw [hjobs, List.length_append, List.length_singleton] at ht'
            rw [hattempts]
            exact huntried t' (by omega)
          · intro n
            by_cases hn : n = r.jobs.length
            · -- the job is new, and nobody has tried to reply to its task
              intro job hjob
              rw [hn, hjobs, List.getElem?_concat_length] at hjob
              cases hjob
              obtain ⟨l, hl, -⟩ := hlater.exists_listener (List.getElem?_eq_getElem hm)
              obtain ⟨entry, hentry, -⟩ := hlater.exists_task (List.getElem?_eq_getElem ht)
              refine ⟨l, entry, hl, ?_, ?_⟩
              · rw [hn, ← hfront]
                exact hentry
              · show next.attemptsTo n = []
                rw [hattempts]
                exact huntried n (by omega)
            · refine (hhandled n).same hlater ?_ (hattempts n)
              rw [hjobs]
              by_cases hlt : n < r.jobs.length
              · exact List.getElem?_append_left hlt
              · rw [List.getElem?_eq_none, List.getElem?_eq_none]
                · omega
                · rw [List.length_append, List.length_singleton]
                  omega

/-- **The turn of a job** keeps the invariant if it does what the job's handler does. -/
theorem Handling.works (h : Handling r) (hqueueing : Queueing r') (hworks : Works n r r') {job : Job}
    (hjob : r.jobs[n]? = some job)
    (hown : ∀ l entry job', r.listeners[job.listener]? = some l → r.tasks[n]? = some entry →
      Handled l.handlers entry.info (r.attemptsTo n) job.state → r'.jobs[n]? = some job' →
      Handled l.handlers entry.info (r'.attemptsTo n) job'.state) : Handling r' := by
  have htouches := hworks.touchesOnly
  refine h.own (List.getElem?_eq_some_iff.1 hjob).1 hqueueing hworks.later htouches ?_
  apply (h.handled n).later hworks.later
  intro job' hjob'
  have howner : (r'.owners)[n]? = (r.owners)[n]? := by rw [htouches.owners]
  rw [owners, owners, List.getElem?_map, List.getElem?_map, hjob, hjob'] at howner
  have hlistener : job'.listener = job.listener := congrArg Prod.snd (Option.some.inj howner)
  exact ⟨job, hjob, hlistener, fun l entry hl hentry hhandled => hown l entry job' hl hentry hhandled hjob'⟩

/-- **One step** keeps the invariant. -/
theorem handling_step (h : Handling r) (hstep : Step relay r r') : Handling r' := by
  have hqueueing := queueing_step h.toQueueing hstep
  have hlater := h.later_step hstep
  -- a turn of a job or of a call is spent
  have hspend : ∀ {position turn}, r.turns[position]? = some turn → (∀ m, turn ≠ .listener m) →
      Handling (r.spend position) :=
    fun hturn hne => h.same (h.spend hturn fun m _ he => absurd he (hne m)) (SameWork.later ⟨rfl, rfl, rfl, rfl, rfl⟩ id)
      rfl rfl
  cases hstep with
  | look position m handlers hturn hlooking =>
      have hfits := h.toQueueFits.takeTurn hturn (some m) fun k he => by cases he; rfl
      have hm := (List.getElem?_eq_some_iff.1 hlooking).1
      have hspent : Later r (r.spend position) := SameWork.later ⟨rfl, rfl, rfl, rfl, rfl⟩ id
      obtain ⟨huntried, hhandled⟩ := handled_drain r.queue (r.spend position) rfl hfits hm h.untried
        fun n => (h.handled n).same hspent rfl rfl
      exact ⟨hqueueing, hlater.judged h.judged, huntried, hhandled⟩
  | start position n job hturn hjob hstate =>
      have hspent := hspend hturn (by simp)
      refine hspent.works hqueueing (h.start_works hjob hstate) hjob ?_
      intro l entry job' hl hentry hhandled hjob'
      rw [hstate] at hhandled
      exact handled_startJob (h.task_eq hjob) hl hentry hspent.judged hhandled hjob'
  | goOn position n job activity hturn hjob hstate =>
      have hspent := hspend hturn (by simp)
      refine hspent.works hqueueing (h.goOn_works hjob hstate) hjob ?_
      intro l entry job' hl hentry hhandled hjob'
      rw [hstate] at hhandled
      rw [h.task_eq hjob] at hjob' ⊢
      exact handled_advance activity _ (List.getElem?_eq_some_iff.1 hentry).1 hspent.judged hhandled job' hjob'
  | call position n i hturn =>
      exact (hspend hturn (by simp)).of_passed hqueueing (beside_makeCall relay _ n i) (passed_makeCall relay _ n i)
  | settled position n i hturn =>
      exact (hspend hturn (by simp)).of_passed hqueueing (beside_settleCallOf _ n i) (passed_settleCallOf _ n i)
  | idle position turn hturn hlistener => exact h.same hqueueing hlater rfl rfl
  | resume n => exact h.of_passed hqueueing (beside_resume r n) (passed_resume r n)
  | endCall n i => exact h.of_passed hqueueing (beside_endCall r n i) (passed_endCall r n i)
  | endCalls n => exact h.of_passed hqueueing (beside_expireJob r n) (passed_expireJob r n)
  | aside _ hsame _ _ _ _ => exact h.same hqueueing hlater hsame.jobs hsame.attempts

/-- **One move** keeps the invariant. -/
theorem handling_moved {m : Move} (h : Handling r) (hmoved : Moved relay r m r') : Handling r' := by
  have hqueueing := queueing_moved h.toQueueing hmoved
  have hlater := h.later hmoved
  cases hmoved with
  | accepted info _ _ =>
      have hcalled := sameWork_callListener ((r.addTask info).enqueue (.task r.tasks.length))
      exact h.same hqueueing hlater hcalled.jobs hcalled.attempts
  | refused _ _ => exact h
  | closed _ _ =>
      have hcalled := sameWork_callListener ({ r with closed := true }.enqueue .stop)
      exact h.same hqueueing hlater hcalled.jobs hcalled.attempts
  | again _ _ => exact h
  | listened handlers _ => exact h.same hqueueing hlater rfl rfl
  | steps _ _ hsteps => exact hsteps.invariant (fun _ _ h hstep => handling_step h hstep) h

/-- **A whole run** keeps the invariant. -/
theorem handling_moves (relay : Relay σ) (capacity : Nat) (s : σ) (ms : List Move) :
    Handling ((new capacity s).moves relay ms) :=
  moves_invariant (fun _ _ _ h hmoved => handling_moved h hmoved) ms _ (handling_new capacity s)

end TaskRuntime

end WebhookBridge
