import WebhookBridge.TaskRuntime.Turn

/-!
# What the work of a job touches

The work of one job leaves all other jobs and tasks alone. Every task has at most one job, at its own position, so that
what is known of a task outlasts whatever is done for others.

## Contents

* `TaskRuntime.replyTo`, `TaskRuntime.attemptsTo`: what a task's caller holds, and what was tried;
* `TaskRuntime.SameWork`: runtimes that differ in nothing that matters to a job;
* `TaskRuntime.TouchesOnly`: runtimes that differ in one job and its task;
* one lemma for each operation.
-/

namespace WebhookBridge.TaskRuntime

variable {σ : Type}

/-- The reply to a task, if it has one. -/
def replyTo (r : TaskRuntime σ) (t : Nat) : Option Reply := r.tasks[t]?.bind (·.reply)

/-- The replies that were tried to a task, in order, each with what became of it. -/
def attemptsTo (r : TaskRuntime σ) (t : Nat) : List (Payload × Except ReplyFault Unit) :=
  (r.attempts.filter fun attempt => attempt.1 = t).map (·.2)

/-- The task and the listener of each job. -/
def owners (r : TaskRuntime σ) : List (Nat × Nat) := r.jobs.map fun j => (j.task, j.listener)

/-! ## The same work -/

/-- Runtimes with the same queue, tasks and jobs, whose listeners have the same handlers. -/
structure SameWork (r r' : TaskRuntime σ) : Prop where
  queue : r'.queue = r.queue
  tasks : r'.tasks = r.tasks
  jobs : r'.jobs = r.jobs
  attempts : r'.attempts = r.attempts
  handlers : r'.listeners.map (·.handlers) = r.listeners.map (·.handlers)

theorem SameWork.refl (r : TaskRuntime σ) : SameWork r r := ⟨rfl, rfl, rfl, rfl, rfl⟩

theorem SameWork.trans {r r' r'' : TaskRuntime σ} (h : SameWork r r') (h' : SameWork r' r'') : SameWork r r'' :=
  ⟨h'.queue.trans h.queue, h'.tasks.trans h.tasks, h'.jobs.trans h.jobs, h'.attempts.trans h.attempts,
    h'.handlers.trans h.handlers⟩

theorem map_handlers_modify (listeners : List Listener) (n : Nat) {f : Listener → Listener}
    (hf : ∀ l, (f l).handlers = l.handlers) : (listeners.modify n f).map (·.handlers) = listeners.map (·.handlers) := by
  apply List.ext_getElem
  · simp
  · intro i _ _
    simp only [List.getElem_map, List.getElem_modify]
    split
    · exact hf _
    · rfl

theorem sameWork_setListener (r : TaskRuntime σ) (n : Nat) (state : ListenerState) :
    SameWork r (r.setListener n state) := ⟨rfl, rfl, rfl, rfl, map_handlers_modify _ _ fun _ => rfl⟩

theorem sameWork_report (r : TaskRuntime σ) (events : List LogEvent) : SameWork r (r.report events) :=
  ⟨rfl, rfl, rfl, rfl, rfl⟩

theorem sameWork_schedule (r : TaskRuntime σ) (turn : Turn) : SameWork r (r.schedule turn) :=
  ⟨rfl, rfl, rfl, rfl, rfl⟩

theorem sameWork_scheduleAll (r : TaskRuntime σ) (turns : List Turn) : SameWork r (r.scheduleAll turns) :=
  ⟨rfl, rfl, rfl, rfl, rfl⟩

theorem sameWork_callListener (r : TaskRuntime σ) : SameWork r r.callListener := by
  unfold callListener
  split
  · exact .refl r
  · refine ⟨rfl, rfl, rfl, rfl, map_handlers_modify _ _ fun l => ?_⟩
    split
    · rfl
    · rfl

/-! ## The work of one job -/

/-- Runtimes that differ in nothing but one job, its task, and what does not matter to a job. -/
structure TouchesOnly (n : Nat) (r r' : TaskRuntime σ) : Prop where
  queue : r'.queue = r.queue
  handlers : r'.listeners.map (·.handlers) = r.listeners.map (·.handlers)
  owners : r'.owners = r.owners
  infos : r'.tasks.map (·.info) = r.tasks.map (·.info)
  jobs : ∀ m ≠ n, r'.jobs[m]? = r.jobs[m]?
  replies : ∀ t ≠ n, r'.replyTo t = r.replyTo t
  attempts : ∀ t ≠ n, r'.attemptsTo t = r.attemptsTo t

theorem TouchesOnly.trans {n : Nat} {r r' r'' : TaskRuntime σ} (h : TouchesOnly n r r') (h' : TouchesOnly n r' r'') :
    TouchesOnly n r r'' where
  queue := h'.queue.trans h.queue
  handlers := h'.handlers.trans h.handlers
  owners := h'.owners.trans h.owners
  infos := h'.infos.trans h.infos
  jobs m hne := (h'.jobs m hne).trans (h.jobs m hne)
  replies t hne := (h'.replies t hne).trans (h.replies t hne)
  attempts t hne := (h'.attempts t hne).trans (h.attempts t hne)

theorem SameWork.touchesOnly {r r' : TaskRuntime σ} (h : SameWork r r') (n : Nat) : TouchesOnly n r r' where
  queue := h.queue
  handlers := h.handlers
  owners := by rw [TaskRuntime.owners, h.jobs]; rfl
  infos := by rw [h.tasks]
  jobs m _ := by rw [h.jobs]
  replies t _ := by rw [replyTo, h.tasks]; rfl
  attempts t _ := by rw [attemptsTo, h.attempts]; rfl

theorem TouchesOnly.refl (n : Nat) (r : TaskRuntime σ) : TouchesOnly n r r := (SameWork.refl r).touchesOnly n

theorem TouchesOnly.length_jobs {n : Nat} {r r' : TaskRuntime σ} (h : TouchesOnly n r r') :
    r'.jobs.length = r.jobs.length := by
  have howners := congrArg List.length h.owners
  simpa only [TaskRuntime.owners, List.length_map] using howners

theorem TouchesOnly.length_tasks {n : Nat} {r r' : TaskRuntime σ} (h : TouchesOnly n r r') :
    r'.tasks.length = r.tasks.length := by
  have hinfos := congrArg List.length h.infos
  simpa only [List.length_map] using hinfos

/-- The jobs are still for the same tasks. -/
theorem TouchesOnly.map_task {n : Nat} {r r' : TaskRuntime σ} (h : TouchesOnly n r r') :
    r'.jobs.map (·.task) = r.jobs.map (·.task) := by
  have howners := congrArg (List.map Prod.fst) h.owners
  simp only [TaskRuntime.owners, List.map_map] at howners
  exact howners

/-- The tasks stay the same up to their replies. -/
theorem TouchesOnly.exists_entry {n : Nat} {r r' : TaskRuntime σ} (h : TouchesOnly n r r') {t : Nat}
    {entry' : TaskEntry} (hentry' : r'.tasks[t]? = some entry') :
    ∃ entry, r.tasks[t]? = some entry ∧ entry.info = entry'.info := by
  have hinfo := congrArg (·[t]?) h.infos
  simp only [List.getElem?_map, hentry', Option.map_some] at hinfo
  obtain ⟨entry, hentry, he⟩ := Option.map_eq_some_iff.1 hinfo.symm
  exact ⟨entry, hentry, he⟩

/-- A job whose state is set has that state. -/
theorem state_setJob {r : TaskRuntime σ} {n : Nat} {state : JobState} {job : Job}
    (h : (r.setJob n state).jobs[n]? = some job) : job.state = state := by
  simp only [setJob, List.getElem?_modify, if_true, Option.map_eq_map, Option.map_eq_some_iff] at h
  obtain ⟨old, -, rfl⟩ := h
  rfl

theorem touchesOnly_setJob (r : TaskRuntime σ) (n : Nat) (state : JobState) : TouchesOnly n r (r.setJob n state) where
  queue := rfl
  handlers := rfl
  owners := by
    apply List.ext_getElem
    · simp [TaskRuntime.owners, setJob]
    · intro i _ _
      simp only [TaskRuntime.owners, setJob, List.getElem_map, List.getElem_modify]
      split
      · rfl
      · rfl
  infos := rfl
  jobs m hne := by simp [setJob, Ne.symm hne]
  replies _ _ := rfl
  attempts _ _ := rfl

theorem sameWork_listeners (r : TaskRuntime σ) (f : Listener → Listener) (hf : ∀ l, (f l).handlers = l.handlers) :
    SameWork r { r with listeners := r.listeners.map f } := by
  refine ⟨rfl, rfl, rfl, rfl, ?_⟩
  rw [List.map_map]
  exact List.map_congr_left fun l _ => hf l

/-- The end of a job sets its state, and ends listeners. -/
theorem sameWork_endJob (r : TaskRuntime σ) (n : Nat) : SameWork (r.setJob n .over) (r.endJob n) := by
  apply sameWork_listeners
  intro l
  split
  · split
    · rfl
    · rfl
  · rfl

theorem touchesOnly_endJob (r : TaskRuntime σ) (n : Nat) : TouchesOnly n r (r.endJob n) :=
  (touchesOnly_setJob r n .over).trans ((sameWork_endJob r n).touchesOnly n)

/-! ## Replies -/

/-- What becomes of the first reply to a task. -/
def delivery (payload : Payload) : Except ReplyFault Unit :=
  match payload.dump with
  | .error fault => .error (.undumpable fault)
  | .ok _ => .ok ()

/-- What the caller of a task holds after the first reply to it. -/
def delivered (payload : Payload) : Option Reply := (payload.dump).toOption.map fun data => ⟨payload.kind, data⟩

theorem touchesOnly_reply (r : TaskRuntime σ) (n : Nat) (payload : Payload) :
    TouchesOnly n r (r.reply n payload).1 := by
  unfold reply
  split
  · exact .refl n r
  · rename_i entry hentry
    -- whatever becomes of the reply, the entry that is written back is that of the same task
    have hinfo : ∀ entry' : TaskEntry, entry'.info = entry.info →
        (r.tasks.set n entry').map (·.info) = r.tasks.map (·.info) := by
      intro entry' he
      apply List.ext_getElem
      · simp
      · intro i hi _
        simp only [List.getElem_map, List.getElem_set]
        split
        · rename_i hni
          subst hni
          rw [he]
          have hlt : n < r.tasks.length := by simpa using hi
          rw [List.getElem?_eq_getElem hlt] at hentry
          rw [Option.some.inj hentry]
        · rfl
    refine ⟨rfl, rfl, rfl, hinfo _ ?_, fun _ _ => rfl, fun t hne => ?_, fun t hne => ?_⟩
    · repeat' split
      all_goals rfl
    · simp [replyTo, Ne.symm hne]
    · simp [attemptsTo, Ne.symm hne]

/-- **The first reply** to a task is the only one that was tried, and its caller holds what is dumped of it. -/
theorem reply_first {r : TaskRuntime σ} {n : Nat} (hn : n < r.tasks.length) (hreply : r.replyTo n = none)
    (hattempts : r.attemptsTo n = []) (payload : Payload) :
    (r.reply n payload).1.replyTo n = delivered payload ∧ (r.reply n payload).1.attemptsTo n = [(payload, delivery payload)] := by
  have hentry : r.tasks[n]? = some r.tasks[n] := List.getElem?_eq_getElem hn
  have hnone : (r.tasks[n]).reply = none := by simpa [replyTo, hentry] using hreply
  have hfilter : r.attempts.filter (fun attempt => attempt.1 = n) = [] := by simpa [attemptsTo] using hattempts
  have hset : ∀ entry, (r.tasks.set n entry)[n]? = some entry := fun entry => by simp [hn]
  rw [delivery, delivered]
  cases hdump : payload.dump with
  | error fault =>
      simp only [reply, hentry, hnone, hdump, replyTo, attemptsTo, hset, Option.bind_some, List.filter_append, hfilter]
      exact ⟨rfl, by simp⟩
  | ok data =>
      simp only [reply, hentry, hnone, hdump, replyTo, attemptsTo, hset, Option.bind_some, List.filter_append, hfilter]
      exact ⟨rfl, by simp⟩

/-! ## Jobs -/

theorem touchesOnly_failJob (r : TaskRuntime σ) (n : Nat) : TouchesOnly n r (r.failJob n n) := by
  unfold failJob
  split
  · exact touchesOnly_endJob r n
  · refine TouchesOnly.trans ?_ (touchesOnly_endJob _ n)
    split
    · exact (sameWork_report r _).touchesOnly n
    · exact ((sameWork_report r _).touchesOnly n).trans (touchesOnly_reply _ n _)

/-- **A job up to the next point where it waits** touches only itself and its task. -/
theorem touchesOnly_advance (relay : Relay σ) (n : Nat) (a : Activity) :
    ∀ r : TaskRuntime σ, TouchesOnly n r (advance relay n n a r) := by
  induction a with
  | done => exact fun r => touchesOnly_endJob r n
  | fail _ => exact fun r => touchesOnly_failJob r n
  | reply payload next ih =>
      intro r
      rw [advance]
      exact (touchesOnly_reply r n payload).trans (ih _ _)
  | call request next ih =>
      intro r
      rw [advance]
      have hrelay : SameWork r ({ r with relay := (relay.call r.relay request).state }.report
          (relay.call r.relay request).log) := ⟨rfl, rfl, rfl, rfl, rfl⟩
      refine (hrelay.touchesOnly n).trans ?_
      split
      · exact touchesOnly_setJob _ n _
      · exact ih _ _
  | dispatch requests next ih =>
      intro r
      rw [advance]
      split
      · exact ih _ _
      · exact ((sameWork_report r _).touchesOnly n).trans ((touchesOnly_setJob _ n _).trans
          ((sameWork_scheduleAll _ _).touchesOnly n))
  | wait next ih =>
      intro r
      rw [advance]
      split
      · exact ih _
      · have hheld : SameWork r { r with held := r.held ++ [n] } := ⟨rfl, rfl, rfl, rfl, rfl⟩
        exact (hheld.touchesOnly n).trans (touchesOnly_setJob _ n _)
  | report events next ih =>
      intro r
      rw [advance]
      exact ((sameWork_report r events).touchesOnly n).trans (ih _)

theorem touchesOnly_startJob (relay : Relay σ) (r : TaskRuntime σ) (n : Nat) {job : Job} (hjob : job.task = n) :
    TouchesOnly n r (r.startJob relay n job) := by
  subst hjob
  unfold startJob
  split
  · split
    · exact touchesOnly_advance relay _ _ r
    · exact ((sameWork_report r _).touchesOnly _).trans ((touchesOnly_reply _ _ _).trans (touchesOnly_endJob _ _))
  · exact touchesOnly_endJob r _

/-! ## Calls of batches -/

theorem touchesOnly_makeCall (relay : Relay σ) (r : TaskRuntime σ) (n i : Nat) :
    TouchesOnly n r (r.makeCall relay n i) := by
  unfold makeCall
  split
  · split
    · rename_i request hreq hcall
      have hrelay : SameWork r ({ r with relay := (relay.call r.relay request).state }.report
          (relay.call r.relay request).log) := ⟨rfl, rfl, rfl, rfl, rfl⟩
      refine (hrelay.touchesOnly n).trans ?_
      dsimp only
      split
      · exact touchesOnly_setJob _ n _
      · exact ((sameWork_report _ _).touchesOnly n).trans ((touchesOnly_setJob _ n _).trans
          ((sameWork_schedule _ _).touchesOnly n))
    · exact .refl n r
  · exact .refl n r

theorem touchesOnly_settleCallOf (r : TaskRuntime σ) (n i : Nat) : TouchesOnly n r (r.settleCallOf n i) := by
  unfold settleCallOf
  split
  · dsimp only
    split
    · exact ((sameWork_scheduleAll r _).touchesOnly n).trans (((sameWork_report _ _).touchesOnly n).trans
        ((touchesOnly_setJob _ n _).trans ((sameWork_schedule _ _).touchesOnly n)))
    · exact ((sameWork_scheduleAll r _).touchesOnly n).trans (touchesOnly_setJob _ n _)
  · exact .refl n r

theorem touchesOnly_expireCalls (n : Nat) (calls : List (Nat × CallResult)) :
    ∀ r : TaskRuntime σ, TouchesOnly n r (expireCalls n calls r) := by
  induction calls with
  | nil => exact fun r => .refl n r
  | cons call calls ih =>
      obtain ⟨i, result⟩ := call
      intro r
      unfold expireCalls
      split
      · split
        · dsimp only
          exact ((sameWork_report r _).touchesOnly n).trans ((touchesOnly_setJob _ n _).trans
            (((sameWork_schedule _ _).touchesOnly n).trans (ih _)))
        · exact ih r
      · exact .refl n r

theorem touchesOnly_endCall (r : TaskRuntime σ) (n i : Nat) : TouchesOnly n r (r.endCall n i) := by
  unfold endCall
  split
  · split
    · exact (touchesOnly_setJob r n _).trans (touchesOnly_expireCalls n _ _)
    · exact .refl n r
  · exact .refl n r

theorem touchesOnly_expireJob (r : TaskRuntime σ) (n : Nat) : TouchesOnly n r (r.expireJob n) := by
  unfold expireJob
  split
  · exact (touchesOnly_setJob r n _).trans ((sameWork_schedule _ _).touchesOnly n)
  · exact (touchesOnly_setJob r n _).trans (touchesOnly_expireCalls n _ _)
  · exact .refl n r

theorem touchesOnly_resume (r : TaskRuntime σ) (n : Nat) : TouchesOnly n r (r.resume n) := by
  unfold resume
  split
  · exact (touchesOnly_setJob r n _).trans ((sameWork_schedule _ _).touchesOnly n)
  · exact .refl n r

end WebhookBridge.TaskRuntime
