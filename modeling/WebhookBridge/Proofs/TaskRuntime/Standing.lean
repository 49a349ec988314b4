import WebhookBridge.Proofs.TaskRuntime.Replying
import WebhookBridge.TaskRuntime.Runs

/-!
# What is known of a task

How a task of the bridge stands can be seen from its job. As long as the job has not ended nobody has tried to reply, and
what the job still has to do will reply once. When it has ended, there was one attempt, with what the calls came to.
Whatever is done for the job keeps this.

## Contents

* `TaskRuntime.Stands`, `TaskRuntime.StandsAt`: what is known of a task, from the state of its job;
* `TaskRuntime.stands_advance`: a job up to the next point where it waits;
* `TaskRuntime.standsAt_makeCall`, `standsAt_settleCallOf`, `standsAt_endCall`: calls of a batch.
-/

namespace WebhookBridge.TaskRuntime

variable {σ : Type} {relay : Relay σ}

/-! ## Jobs -/

/-- **What is known of a task**, of what its caller holds and of the attempts to reply: as long as its job has not ended
    nobody has tried to reply, and the rest of the job will reply once; when it has ended, somebody has. -/
def Stands (relay : Relay σ) (task : TaskInfo) (reply : Option Reply) (attempts : List (Payload × Except ReplyFault Unit)) :
    JobState → Prop
  | .starting => reply = none ∧ attempts = []
  | .resuming a => (reply = none ∧ attempts = []) ∧ a.RepliesOnce relay (RepliesTo relay task)
  | .calling result next => (reply = none ∧ attempts = []) ∧ (next result).RepliesOnce relay (RepliesTo relay task)
  | .batching batch late _ next =>
    (reply = none ∧ attempts = []) ∧ batch.ComesFrom relay late ∧
      ∀ b, b.ComesFrom relay batch.requests → (next (.ok b)).RepliesOnce relay (RepliesTo relay task)
  | .waiting next => (reply = none ∧ attempts = []) ∧ next.RepliesOnce relay (RepliesTo relay task)
  | .over => ∃ payload, RepliesTo relay task payload ∧ reply = delivered payload ∧ attempts = [(payload, delivery payload)]

/-- What is known of the task at a position. -/
def StandsAt (relay : Relay σ) (r : TaskRuntime σ) (n : Nat) : Prop :=
  ∀ entry job, r.tasks[n]? = some entry → r.jobs[n]? = some job → entry.info.key ∈ relayTaskKeys →
    Stands relay entry.info (r.replyTo n) (r.attemptsTo n) job.state

/-- A job that has ended after the one reply to its task. -/
theorem stands_over {r : TaskRuntime σ} {n : Nat} {task : TaskInfo}
    (h : Answered (RepliesTo relay task) (r.replyTo n) (r.attemptsTo n) ∧
      ∀ job, r.jobs[n]? = some job → job.state = .over) {job : Job} (hjob : r.jobs[n]? = some job) :
    Stands relay task (r.replyTo n) (r.attemptsTo n) job.state := by
  rw [h.2 job hjob]
  exact h.1

/-- **A job up to the next point where it waits** keeps what is known of its task. -/
theorem stands_advance {n : Nat} {task : TaskInfo} (a : Activity) : ∀ r : TaskRuntime σ, n < r.tasks.length →
    r.replyTo n = none → r.attemptsTo n = [] → a.RepliesOnce relay (RepliesTo relay task) →
      ∀ job, (advance relay n n a r).jobs[n]? = some job →
      Stands relay task ((advance relay n n a r).replyTo n) ((advance relay n n a r).attemptsTo n) job.state := by
  induction a with
  | done => exact fun r _ _ _ honce => absurd honce id
  | fail defect =>
      intro r hn hreply hattempts honce job hjob
      exact stands_over (answered_failJob hn hreply hattempts honce) hjob
  | reply payload next ih =>
      intro r hn hreply hattempts honce job hjob
      exact stands_over (answered_reply hn hreply hattempts honce.1 honce.2) hjob
  | call request next ih =>
      intro r hn hreply hattempts honce job hjob
      have hnext := honce (relay.call r.relay request).result ⟨r.relay, rfl⟩
      rw [advance] at hjob ⊢
      split at hjob
      · rename_i hlate
        rw [if_pos hlate, state_setJob hjob]
        exact ⟨⟨hreply, hattempts⟩, hnext⟩
      · rename_i hlate
        rw [if_neg hlate]
        -- the call has ended at once: the job goes on with what it came to
        let called := { r with relay := (relay.call r.relay request).state }.report (relay.call r.relay request).log
        exact ih _ called hn hreply hattempts hnext job hjob
  | dispatch requests next ih =>
      intro r hn hreply hattempts honce job hjob
      rw [advance] at hjob ⊢
      split at hjob
      · rename_i hempty
        rw [if_pos hempty]
        exact ih _ r hn hreply hattempts (honce _ (BatchResult.comesFrom_empty relay requests)) job hjob
      · rename_i hempty
        rw [if_neg hempty, state_setJob (n := n) hjob]
        exact ⟨⟨hreply, hattempts⟩, BatchRun.comesFrom_create relay requests, honce⟩
  | wait next ih =>
      intro r hn hreply hattempts honce job hjob
      rw [advance] at hjob ⊢
      split at hjob
      · rename_i hreleased
        rw [if_pos hreleased]
        exact ih r hn hreply hattempts honce job hjob
      · rename_i hreleased
        rw [if_neg hreleased, state_setJob hjob]
        exact ⟨⟨hreply, hattempts⟩, honce⟩
  | report events next ih =>
      exact fun r hn hreply hattempts honce => ih (r.report events) hn hreply hattempts honce

/-- A job that starts, whose listener has the handlers of the bridge. -/
theorem stands_startJob (hrelay : relay.IsRelayed) {r : TaskRuntime σ} {n : Nat} {job : Job} (hown : job.task = n)
    {entry : TaskEntry} (hentry : r.tasks[n]? = some entry) (hkey : entry.info.key ∈ relayTaskKeys)
    (hserved : job.listener < r.listeners.length) (hadapted : ∀ l ∈ r.listeners, ∃ others, l.handlers = bridgeHandlers others)
    (hreply : r.replyTo n = none) (hattempts : r.attemptsTo n = []) {job' : Job}
    (hjob : (r.startJob relay n job).jobs[n]? = some job') :
    Stands relay entry.info ((r.startJob relay n job).replyTo n) ((r.startJob relay n job).attemptsTo n) job'.state := by
  subst hown
  obtain ⟨others, hhandlers⟩ := hadapted _ (List.getElem_mem hserved)
  obtain ⟨handler, hhandler, honce⟩ := relayHandler_repliesOnce hrelay hkey
  have hget : (r.listeners[job.listener]).handlers entry.info.key = some handler := by
    rw [hhandlers, bridgeHandlers, hhandler]
    rfl
  have hlt : job.task < r.tasks.length := (List.getElem?_eq_some_iff.1 hentry).1
  simp only [startJob, hentry, List.getElem?_eq_getElem hserved, hget] at hjob ⊢
  exact stands_advance _ r hlt hreply hattempts honce job' hjob

/-! ## Calls -/

/-- A call that is made keeps what is known of its job's task. -/
theorem standsAt_makeCall (hrelay : relay.IsRelayed) {r : TaskRuntime σ} {n : Nat} (h : StandsAt relay r n) (i : Nat) :
    StandsAt relay (r.makeCall relay n i) n := by
  unfold makeCall
  split
  · rename_i task listener batch late unsettled next hjob
    split
    · rename_i request hreq hcall
      intro entry job' hentry hjob' hkey
      have hmay : relay.MayCome request (relay.call r.relay request).result := ⟨r.relay, rfl⟩
      dsimp only at hentry hjob' ⊢
      split at hjob'
      · rename_i hlate
        rw [if_pos hlate] at hentry ⊢
        -- a late call runs on, with its result laid by for when the time limit passes
        obtain ⟨hnew, hfrom, hnext⟩ := h entry _ hentry hjob hkey
        rw [state_setJob hjob']
        refine ⟨hnew, ⟨hfrom.post i |>.clean, (hfrom.post i).entries, fun call hmem => ?_⟩, ?_⟩
        · rw [BatchRun.requests_post]
          rcases List.mem_append.1 hmem with hmem | hmem
          · exact hfrom.late call hmem
          · rw [List.mem_singleton.1 hmem]
            exact ⟨request, hreq, hmay⟩
        · rw [BatchRun.requests_post]
          exact hnext
      · rename_i hlate
        rw [if_neg hlate] at hentry ⊢
        obtain ⟨hnew, hfrom, hnext⟩ := h entry _ hentry hjob hkey
        rw [state_setJob (n := n) hjob']
        -- any other call ends at once, and its entry comes from it
        have hreq' : (batch.post i).requests[i]? = some request := by rw [BatchRun.requests_post, hreq]
        refine ⟨hnew, (hfrom.post i).finish hrelay hreq' hmay, ?_⟩
        rw [BatchRun.requests_finish, BatchRun.requests_post]
        exact hnext
    · exact h
  · exact h

/-- So does the end of a call that is noticed. -/
theorem standsAt_settleCallOf {r : TaskRuntime σ} {n : Nat} (h : StandsAt relay r n) (i : Nat) :
    StandsAt relay (r.settleCallOf n i) n := by
  unfold settleCallOf
  split
  · rename_i task listener batch late unsettled next hjob
    intro entry job' hentry hjob' hkey
    dsimp only at hentry hjob' ⊢
    -- whether calls are cancelled or not, the entries and the requests stay as they are
    have hbatch : ∀ b, b = (if batch.calls[i]? = some .broken then batch.abort else batch) →
        batch.ComesFrom relay late → b.ComesFrom relay late ∧ b.requests = batch.requests := by
      rintro b rfl hfrom
      split
      · exact ⟨hfrom.abort, rfl⟩
      · exact ⟨hfrom, rfl⟩
    split at hjob'
    · rename_i hlast
      rw [if_pos hlast] at hentry ⊢
      obtain ⟨hnew, hfrom, hnext⟩ := h entry _ hentry hjob hkey
      obtain ⟨hfrom', hrequests⟩ := hbatch _ rfl hfrom
      rw [state_setJob (n := n) hjob', hfrom'.outcome]
      refine ⟨hnew, hnext _ ?_⟩
      rw [← hrequests]
      exact hfrom'.entries
    · rename_i hlast
      rw [if_neg hlast] at hentry ⊢
      obtain ⟨hnew, hfrom, hnext⟩ := h entry _ hentry hjob hkey
      obtain ⟨hfrom', hrequests⟩ := hbatch _ rfl hfrom
      rw [state_setJob hjob']
      refine ⟨hnew, hfrom', ?_⟩
      rw [hrequests]
      exact hnext
  · exact h

/-- Whether some ends are those of calls of a job's batch. -/
def AreCalls (relay : Relay σ) (r : TaskRuntime σ) (n : Nat) (calls : List (Nat × CallResult)) : Prop :=
  ∀ job batch late unsettled next, r.jobs[n]? = some job → job.state = .batching batch late unsettled next →
    ∀ call ∈ calls, ∃ request, batch.requests[call.1]? = some request ∧ relay.MayCome request call.2

theorem standsAt_expireCalls (hrelay : relay.IsRelayed) (n : Nat) (calls : List (Nat × CallResult)) :
    ∀ r : TaskRuntime σ, StandsAt relay r n → AreCalls relay r n calls → StandsAt relay (expireCalls n calls r) n := by
  induction calls with
  | nil => exact fun r h _ => h
  | cons call calls ih =>
      obtain ⟨i, result⟩ := call
      intro r h hcalls
      rw [expireCalls]
      split
      · rename_i task listener batch late unsettled next hjob
        obtain ⟨⟨request, hreq, hmay⟩, hothers⟩ := List.forall_mem_cons.1 (hcalls _ _ _ _ _ hjob rfl)
        split
        · dsimp only
          apply ih
          · intro entry job' hentry hjob' hkey
            obtain ⟨hnew, hfrom, hnext⟩ := h entry _ hentry hjob hkey
            rw [state_setJob (n := n) hjob']
            refine ⟨hnew, hfrom.finish hrelay hreq hmay, ?_⟩
            rw [BatchRun.requests_finish]
            exact hnext
          · intro job' batch' late' unsettled' next' hjob' hstate
            rw [state_setJob (n := n) hjob'] at hstate
            cases hstate
            rw [BatchRun.requests_finish]
            exact hothers
        · refine ih r h fun job' batch' late' unsettled' next' hjob' hstate => ?_
          rw [hjob] at hjob'
          cases hjob'
          cases hstate
          exact hothers
      · exact h

/-- What is known of a task outlasts what leaves its name alone, if it holds for a task of the bridge. -/
theorem standsAt_of_bridge {r r' : TaskRuntime σ} {n : Nat} (htouches : TouchesOnly n r r')
    (h : ∀ entry, r.tasks[n]? = some entry → entry.info.key ∈ relayTaskKeys → StandsAt relay r' n) :
    StandsAt relay r' n := by
  intro entry' job' hentry' hjob' hkey
  obtain ⟨entry, hentry, hinfo⟩ := htouches.exists_entry hentry'
  exact h entry hentry (by rw [hinfo]; exact hkey) entry' job' hentry' hjob' hkey

/-- Late calls of a job's batch end: some of them, while others remain late. -/
theorem standsAt_lateCalls (hrelay : relay.IsRelayed) {r : TaskRuntime σ} {n : Nat} (h : StandsAt relay r n)
    {task listener : Nat} {batch : BatchRun} {late : List (Nat × CallResult)} {unsettled : Nat}
    {next : Except Defect BatchResult → Activity}
    (hjob : r.jobs[n]? = some ⟨task, listener, .batching batch late unsettled next⟩)
    {ending remaining : List (Nat × CallResult)} (hending : ∀ call ∈ ending, call ∈ late)
    (hremaining : ∀ call ∈ remaining, call ∈ late) :
    StandsAt relay (expireCalls n ending (r.setJob n (.batching batch remaining unsettled next))) n := by
  refine standsAt_of_bridge ((touchesOnly_setJob r n _).trans (touchesOnly_expireCalls n ending _)) ?_
  intro entry hentry hkey
  obtain ⟨hnew, hfrom, hnext⟩ := h entry _ hentry hjob hkey
  apply standsAt_expireCalls hrelay
  · intro entry' job' hentry' hjob' _
    have hsame : r.tasks[n]? = some entry' := hentry'
    rw [hentry] at hsame
    cases hsame
    rw [state_setJob hjob']
    exact ⟨hnew, ⟨hfrom.clean, hfrom.entries, fun call hmem => hfrom.late call (hremaining call hmem)⟩, hnext⟩
  · intro job' batch' late' unsettled' next' hjob' hstate
    rw [state_setJob hjob'] at hstate
    cases hstate
    exact fun call hmem => hfrom.late call (hending call hmem)

theorem standsAt_endCall (hrelay : relay.IsRelayed) {r : TaskRuntime σ} {n : Nat} (h : StandsAt relay r n) (i : Nat) :
    StandsAt relay (r.endCall n i) n := by
  unfold endCall
  split
  · rename_i task listener batch late unsettled next hjob
    split
    · rename_i call hcall
      refine standsAt_lateCalls hrelay h hjob ?_ fun call hmem => (List.mem_filter.1 hmem).1
      intro call' hmem
      rw [List.mem_singleton.1 hmem]
      exact List.mem_of_find?_eq_some hcall
    · exact h
  · exact h

theorem standsAt_expireJob (hrelay : relay.IsRelayed) {r : TaskRuntime σ} {n : Nat} (h : StandsAt relay r n) :
    StandsAt relay (r.expireJob n) n := by
  unfold expireJob
  split
  · rename_i task listener result next hjob
    intro entry job' hentry hjob' hkey
    rw [state_setJob (n := n) hjob']
    exact h entry _ hentry hjob hkey
  · rename_i task listener batch late unsettled next hjob
    exact standsAt_lateCalls hrelay h hjob (fun _ hmem => hmem) (by simp)
  · exact h

theorem standsAt_resume {r : TaskRuntime σ} {n : Nat} (h : StandsAt relay r n) : StandsAt relay (r.resume n) n := by
  unfold resume
  split
  · rename_i task listener next hjob
    intro entry job' hentry hjob' hkey
    rw [state_setJob (n := n) hjob']
    exact h entry _ hentry hjob hkey
  · exact h

end WebhookBridge.TaskRuntime
