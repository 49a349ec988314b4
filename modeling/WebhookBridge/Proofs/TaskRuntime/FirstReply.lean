import WebhookBridge.Proofs.TaskRuntime.Handling

/-!
# The first reply counts

Whatever handlers do and however their work is interleaved, the caller of a task holds the first reply to it that could be
dumped, for good. A handler that fails gets its task answered if it has not answered it itself, and is of no concern to
other tasks and to listeners.

## Contents

* `TaskRuntime.Ended`: what becomes of a task whose job has ended;
* `TaskRuntime.turn_works`: turns of jobs;
* `TaskRuntime.ReplyLaw`, `TaskRuntime.replies_lawful`: the law of replies, in every run.
-/

namespace WebhookBridge.TaskRuntime

variable {σ : Type} {relay : Relay σ} {r r' : TaskRuntime σ} {n : Nat} {handlers : Handlers} {info : TaskInfo}

/-! ## Ended jobs -/

/-- **What becomes of a task whose job has ended**: all attempts to reply to it, and what its caller holds. -/
inductive Ended (handlers : Handlers) (info : TaskInfo) : List Attempt → Option Reply → Prop
  /-- Its handler has ended: there are the attempts that it has made. -/
  | returned (made : List Attempt) (h : Reaches handlers info made .done) :
      Ended handlers info made (firstDelivered (made.map (·.1)))
  /-- Its handler has failed after a reply that was delivered: this reply stays. -/
  | failedAfter (made : List Attempt) (defect : Defect) (reply : Reply) (h : Reaches handlers info made (.fail defect))
      (hreply : firstDelivered (made.map (·.1)) = some reply) : Ended handlers info made (some reply)
  /-- Its handler has failed before any: the runtime has replied in its place. -/
  | failedBefore (made : List Attempt) (defect : Defect) (h : Reaches handlers info made (.fail defect))
      (hreply : firstDelivered (made.map (·.1)) = none) :
      Ended handlers info (made ++ [(.error "internal task failure", .ok ())])
        (some ⟨"error", dumpError "internal task failure"⟩)
  /-- There is no handler for it. -/
  | unknown (h : handlers info.key = none) :
      Ended handlers info [(unknownTask info, .ok ())]
        (some ⟨"error", dumpError (("unknown task " : Text) ++ info.key.quoted)⟩)

theorem ended_of_handled {attempts : List Attempt} (h : Handled handlers info attempts .over) :
    Ended handlers info attempts (firstDelivered (attempts.map (·.1))) := by
  rcases h with hdone | ⟨made, defect, hfail, rfl⟩ | ⟨hnone, rfl⟩
  · exact .returned attempts hdone
  · rw [fallback]
    cases hfirst : firstDelivered (made.map (·.1)) with
    | some reply =>
        simp only [Option.isSome_some, if_true, List.append_nil, hfirst]
        exact .failedAfter made defect reply hfail hfirst
    | none =>
        have hreply : firstDelivered
            ((made ++ ([(.error "internal task failure", .ok ())] : List Attempt)).map (·.1)) = some ⟨"error", dumpError "internal task failure"⟩ := by
          rw [List.map_append, firstDelivered, List.findSome?_append, ← firstDelivered, hfirst]
          rfl
        simp only [Option.isSome_none, Bool.false_eq_true, if_false]
        rw [hreply]
        exact .failedBefore made defect hfail hfirst
  · exact .unknown hnone

/-! ## Turns of jobs -/

/-- **The turn of a job** or of a call of its batch is work for this job. -/
theorem turn_works (h : Queueing r) {position : Nat} {turn : Turn} (hturn : r.turns[position]? = some turn)
    (hof : turn.isOf n = true) : Works n r (r.move relay (.act (.turn position))) := by
  have htake : r.move relay (.act (.turn position)) = perform relay (r.spend position) turn := by
    show (r.take? relay position).getD r = _
    rw [take?, hturn]
    rfl
  rw [htake]
  refine Works.after ?_ (beside_spend hturn hof)
  cases turn with
  | listener m => cases hof
  | job m =>
      have hm : m = n := by simpa [Turn.isOf] using hof
      subst hm
      rw [perform]
      split
      · rename_i job hjob
        split
        · rename_i hstate
          exact h.start_works hjob hstate
        · rename_i activity hstate
          exact h.goOn_works hjob hstate
        · exact (Beside.refl m _).works
      · exact (Beside.refl m _).works
  | call m i =>
      have hm : m = n := by simpa [Turn.isOf] using hof
      subst hm
      exact (beside_makeCall relay _ m i).works
  | settled m i =>
      have hm : m = n := by simpa [Turn.isOf] using hof
      subst hm
      exact (beside_settleCallOf _ m i).works

/-- The work of a job is of no concern to listeners, unless it is the last job that one behind the stop mark waits for. -/
theorem Queueing.listeners_works (h : Queueing r) (hworks : Works n r r') {m : Nat} {l : Listener}
    (hl : r.listeners[m]? = some l) :
    r'.listeners[m]? = some l ∨
      r'.listeners[m]? = some { l with state := .done } ∧ (∃ jobs, l.state = .finishing jobs) ∧
        ∀ job ∈ r'.jobs, job.isOver = true := by
  have hqueueing := h.works hworks
  obtain ⟨mid, hmid, rfl | rfl⟩ := hworks
  · rw [hmid.listeners]
    exact Or.inl hl
  · have hget : (mid.endJob n).listeners[m]? = some (l.settled (mid.endJob n).running) := by
      rw [listeners_endJob, List.getElem?_map, hmid.listeners, hl]
      rfl
    obtain ⟨handlers, state⟩ := l
    cases state with
    | finishing jobs =>
        rw [Listener.settled] at hget
        simp only at hget
        split at hget
        · exact Or.inl hget
        · refine Or.inr ⟨hget, ⟨jobs, rfl⟩, ?_⟩
          have hstands := hqueueing.attends m _ (by simp) hget
          cases hstands with
          | done hnone => exact isOver_of_running hnone
    | _ => exact Or.inl hget

/-! ## The law -/

/-- **The law of replies**:

    the caller of a task holds the first reply to it that could be dumped; each attempt to reply comes to what it should
    after those before it; replies and attempts are not taken back; the attempts are those of the task's handler, and when
    the job has ended they are as `Ended` says; and the turns of a job leave other tasks, the queue and the listeners alone,
    up to a listener that has waited for nothing but the end of all jobs. -/
structure ReplyLaw (relay : Relay σ) (r : TaskRuntime σ) : Prop where
  answered : ∀ t entry, r.tasks[t]? = some entry → entry.reply = firstDelivered ((r.attemptsTo t).map (·.1))
  judged : ∀ t entry before payload outcome after, r.tasks[t]? = some entry →
    r.attemptsTo t = before ++ (payload, outcome) :: after →
    outcome = verdict entry.info.executionId (before.map (·.1)) payload
  lasting : ∀ m t reply, r.replyTo t = some reply → (r.move relay m).replyTo t = some reply
  tried : ∀ m t, r.attemptsTo t <+: (r.move relay m).attemptsTo t
  handled : ∀ n job, r.jobs[n]? = some job → job.task = n ∧ ∃ l entry, r.listeners[job.listener]? = some l ∧
    r.tasks[n]? = some entry ∧ Handled l.handlers entry.info (r.attemptsTo n) job.state ∧
    (job.isOver = true → Ended l.handlers entry.info (r.attemptsTo n) entry.reply)
  apart : ∀ position turn n, r.turns[position]? = some turn → turn.isOf n = true → ∀ t ≠ n,
    (r.move relay (.act (.turn position))).replyTo t = r.replyTo t ∧
    (r.move relay (.act (.turn position))).attemptsTo t = r.attemptsTo t
  listening : ∀ position turn n, r.turns[position]? = some turn → turn.isOf n = true →
    (r.move relay (.act (.turn position))).queue = r.queue ∧
      ∀ (m : Nat) (l : Listener), r.listeners[m]? = some l →
      (r.move relay (.act (.turn position))).listeners[m]? = some l ∨
      (r.move relay (.act (.turn position))).listeners[m]? = some { l with state := .done } ∧
        (∃ jobs, l.state = .finishing jobs) ∧ ∀ job ∈ (r.move relay (.act (.turn position))).jobs, job.isOver = true

theorem Handling.lawful (h : Handling r) (relay : Relay σ) : ReplyLaw relay r := by
  have hjudged : ∀ t entry, r.tasks[t]? = some entry →
      entry.reply = firstDelivered ((r.attemptsTo t).map (·.1)) ∧ ∀ before payload outcome after,
        r.attemptsTo t = before ++ (payload, outcome) :: after →
        outcome = verdict entry.info.executionId (before.map (·.1)) payload := by
    intro t entry hentry
    have htask := h.judged t
    simp only [Judged, hentry] at htask
    exact htask
  refine ⟨?_, ?_, ?_, ?_, ?_, ?_, ?_⟩
  · exact fun t entry hentry => (hjudged t entry hentry).1
  · exact fun t entry before payload outcome after hentry => (hjudged t entry hentry).2 before payload outcome after
  · exact fun m => (h.later (moved_move r m)).replies
  · intro m t
    exact ((h.later (moved_move r m)).attempts.filter _).map _
  · intro n job hjob
    obtain ⟨l, entry, hl, hentry, hhandled⟩ := h.handled n job hjob
    refine ⟨h.task_eq hjob, l, entry, hl, hentry, hhandled, ?_⟩
    intro hover
    rw [Job.isOver_iff.1 hover] at hhandled
    rw [(hjudged n entry hentry).1]
    exact ended_of_handled hhandled
  · intro position turn n hturn hof t ht
    have hworks : Works n r (r.move relay (.act (.turn position))) := turn_works h.toQueueing hturn hof
    exact ⟨hworks.touchesOnly.replies t ht, hworks.touchesOnly.attempts t ht⟩
  · intro position turn n hturn hof
    have hworks : Works n r (r.move relay (.act (.turn position))) := turn_works h.toQueueing hturn hof
    exact ⟨hworks.touchesOnly.queue, fun m l hl => h.listeners_works hworks hl⟩

/-- **The law of replies holds in every run**, for any handlers and any interleaving of what they do. -/
theorem replies_lawful (relay : Relay σ) (capacity : Nat) (s : σ) (ms : List Move) :
    ReplyLaw relay ((new capacity s).moves relay ms) := (handling_moves relay capacity s ms).lawful relay

end WebhookBridge.TaskRuntime
