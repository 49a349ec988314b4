import Mathlib.Data.List.Infix
import WebhookBridge.Proofs.TaskRuntime.Frame

/-!
# What is settled for good

A task that was handed to a job stays with it, a job begins once, and what was tried and replied is not taken back. The
first reply to a task that can be dumped reaches its caller; whoever tries to reply after it is told that the task has been
answered.

## Contents

* `TaskRuntime.firstDelivered`, `TaskRuntime.verdict`: what attempts come to;
* `TaskRuntime.Judged`: a task whose attempts came to what they should;
* `TaskRuntime.Later`: a later runtime;
* one lemma for each change.
-/

namespace WebhookBridge.TaskRuntime

variable {σ : Type} {r r' r'' : TaskRuntime σ} {n t : Nat}

/-! ## Attempts -/

/-- What the caller of a task holds after several attempts: the first of them that could be dumped. -/
def firstDelivered (payloads : List Payload) : Option Reply := payloads.findSome? delivered

/-- **What an attempt comes to** after others: a task that has its reply takes no other one. -/
def verdict (executionId : Text) (before : List Payload) (payload : Payload) : Except ReplyFault Unit :=
  match firstDelivered before with
  | some _ => .error (.alreadyAnswered executionId)
  | none => delivery payload

/-- **A task whose attempts came to what they should**, each after those before it, and whose caller holds the first that
    could be dumped. Nobody has tried to reply to a task that does not exist. -/
def Judged (r : TaskRuntime σ) (t : Nat) : Prop :=
  match r.tasks[t]? with
  | none => r.attemptsTo t = []
  | some entry => entry.reply = firstDelivered ((r.attemptsTo t).map (·.1)) ∧
      ∀ before payload outcome after, r.attemptsTo t = before ++ (payload, outcome) :: after →
        outcome = verdict entry.info.executionId (before.map (·.1)) payload

theorem judged_of_same (htasks : r'.tasks[t]? = r.tasks[t]?) (hattempts : r'.attemptsTo t = r.attemptsTo t)
    (h : r.Judged t) : r'.Judged t := by
  unfold Judged at h ⊢
  rw [htasks, hattempts]
  exact h

/-- **One more attempt**, which came to what it should. -/
theorem judged_attempt {entry entry' : TaskEntry} {payload : Payload} (hentry : r.tasks[t]? = some entry) (h : r.Judged t)
    (hentry' : r'.tasks[t]? = some entry') (hid : entry'.info = entry.info)
    (hreply : entry'.reply = (entry.reply).or (delivered payload))
    (hattempts : r'.attemptsTo t
      = r.attemptsTo t ++ [(payload, verdict entry.info.executionId ((r.attemptsTo t).map (·.1)) payload)]) :
    r'.Judged t := by
  simp only [Judged, hentry] at h
  obtain ⟨hheld, houtcomes⟩ := h
  simp only [Judged, hentry', hattempts, hid]
  refine ⟨?_, ?_⟩
  · rw [hreply, hheld, List.map_append, firstDelivered, firstDelivered, List.findSome?_append]
    simp
  · intro before p outcome after hsplit
    rcases List.eq_nil_or_concat after with rfl | ⟨rest, last, rfl⟩
    · -- the attempt is the last one
      obtain ⟨hbefore, hlast⟩ := List.append_inj' hsplit rfl
      cases hlast
      rw [hbefore]
    · rw [List.concat_eq_append, ← List.cons_append, ← List.append_assoc] at hsplit
      obtain ⟨hbefore, -⟩ := List.append_inj' hsplit rfl
      exact houtcomes before p outcome rest hbefore

/-- A reply to a task, by what it comes to. -/
theorem reply_eq {entry : TaskEntry} (hentry : r.tasks[n]? = some entry) (h : r.Judged n) (payload : Payload) :
    r.reply n payload = ({ r with
      tasks := r.tasks.set n { entry with reply := (entry.reply).or (delivered payload) }
      attempts := r.attempts ++ [(n, payload, verdict entry.info.executionId ((r.attemptsTo n).map (·.1)) payload)] },
      verdict entry.info.executionId ((r.attemptsTo n).map (·.1)) payload) := by
  simp only [Judged, hentry] at h
  rw [verdict, ← h.1]
  simp only [reply, hentry]
  obtain ⟨info, held⟩ := entry
  cases held with
  | some old => rfl
  | none =>
      simp only [delivery, delivered]
      cases payload.dump with
      | error fault => rfl
      | ok data => rfl

/-! ## Later runtimes -/

/-- Whether a job has begun with what its handler does. -/
def HasBegun (r : TaskRuntime σ) (n : Nat) : Prop := ∃ job, r.jobs[n]? = some job ∧ job.state ≠ .starting

/-- **A later runtime**: tasks, listeners and jobs are still there, what was tried, replied and begun is not taken back, and
    new attempts come to what they should. -/
structure Later (r r' : TaskRuntime σ) : Prop where
  closed : r.closed = true → r'.closed = true
  infos : r.tasks.map (·.info) <+: r'.tasks.map (·.info)
  handlers : r.listeners.map (·.handlers) <+: r'.listeners.map (·.handlers)
  owners : r.owners <+: r'.owners
  begun : ∀ n, r.HasBegun n → r'.HasBegun n
  attempts : r.attempts <+: r'.attempts
  replies : ∀ t reply, r.replyTo t = some reply → r'.replyTo t = some reply
  judged : (∀ t, r.Judged t) → ∀ t, r'.Judged t

theorem Later.trans (h : Later r r') (h' : Later r' r'') : Later r r'' where
  closed hclosed := h'.closed (h.closed hclosed)
  infos := h.infos.trans h'.infos
  handlers := h.handlers.trans h'.handlers
  owners := h.owners.trans h'.owners
  begun n hn := h'.begun n (h.begun n hn)
  attempts := h.attempts.trans h'.attempts
  replies t reply hreply := h'.replies t reply (h.replies t reply hreply)
  judged hjudged := h'.judged (h.judged hjudged)

/-- Runtimes with the same work. -/
theorem SameWork.later (h : SameWork r r') (hclosed : r.closed = true → r'.closed = true) : Later r r' where
  closed := hclosed
  infos := by rw [h.tasks]
  handlers := by rw [h.handlers]
  owners := by rw [TaskRuntime.owners, TaskRuntime.owners, h.jobs]
  begun n hn := by
    rw [HasBegun, h.jobs]
    exact hn
  attempts := by rw [h.attempts]
  replies t reply hreply := by
    rw [replyTo, h.tasks]
    exact hreply
  judged hjudged t := by
    refine judged_of_same ?_ ?_ (hjudged t)
    · rw [h.tasks]
    · rw [attemptsTo, h.attempts]
      rfl

theorem Later.refl (r : TaskRuntime σ) : Later r r := (SameWork.refl r).later id

/-- A job begins, goes on or ends. -/
theorem later_setJob (r : TaskRuntime σ) (n : Nat) {state : JobState} (hstate : state ≠ .starting) :
    Later r (r.setJob n state) where
  closed := id
  infos := List.prefix_rfl
  handlers := List.prefix_rfl
  owners := by rw [(touchesOnly_setJob r n state).owners]
  begun m := by
    rintro ⟨job, hjob, hbegun⟩
    by_cases hm : n = m
    · subst hm
      refine ⟨{ job with state := state }, ?_, hstate⟩
      simp [setJob, hjob]
    · exact ⟨job, by simp [setJob, hm, hjob], hbegun⟩
  attempts := List.prefix_rfl
  replies _ _ := id
  judged := id

theorem later_endJob (r : TaskRuntime σ) (n : Nat) : Later r (r.endJob n) :=
  (later_setJob r n (by simp)).trans ((sameWork_endJob r n).later id)

/-- **A reply** that is tried. -/
theorem later_reply (r : TaskRuntime σ) (n : Nat) (payload : Payload) : Later r (r.reply n payload).1 := by
  have htouches := touchesOnly_reply r n payload
  cases hentry : r.tasks[n]? with
  | none =>
      have hsame : (r.reply n payload).1 = r := by simp only [reply, hentry]
      rw [hsame]
      exact .refl r
  | some entry =>
      have hlt : n < r.tasks.length := (List.getElem?_eq_some_iff.1 hentry).1
      refine ⟨?_, ?_, ?_, ?_, ?_, ?_, ?_, ?_⟩
      · simp only [reply, hentry]
        exact id
      · rw [htouches.infos]
      · rw [htouches.handlers]
      · rw [htouches.owners]
      · simp only [HasBegun, reply, hentry]
        exact fun _ => id
      · simp only [reply, hentry]
        exact List.prefix_append ..
      · intro t reply hreply
        by_cases ht : t = n
        · subst ht
          -- a task that has its reply keeps it
          have hheld : entry.reply = some reply := by simpa [replyTo, hentry] using hreply
          simp only [replyTo, TaskRuntime.reply, hentry, hheld, List.getElem?_set_self hlt]
          exact hheld
        · rw [htouches.replies t ht]
          exact hreply
      · intro hjudged t
        by_cases ht : t = n
        · subst ht
          rw [reply_eq hentry (hjudged t)]
          have hset : (r.tasks.set t { entry with reply := (entry.reply).or (delivered payload) })[t]?
              = some { entry with reply := (entry.reply).or (delivered payload) } := List.getElem?_set_self hlt
          refine judged_attempt hentry (hjudged t) hset rfl rfl ?_
          simp [attemptsTo]
        · refine judged_of_same ?_ (htouches.attempts t ht) (hjudged t)
          simp [reply, hentry, Ne.symm ht]

/-- A task is added, to which nobody has tried to reply. -/
theorem later_addTask (r : TaskRuntime σ) (info : TaskInfo) : Later r (r.addTask info) where
  closed := id
  infos := by
    show r.tasks.map (·.info) <+: (r.tasks ++ [TaskEntry.mk info none]).map (·.info)
    rw [List.map_append]
    exact List.prefix_append ..
  handlers := List.prefix_rfl
  owners := List.prefix_rfl
  begun _ := id
  attempts := List.prefix_rfl
  replies t reply hreply := by
    obtain ⟨entry, hentry, hheld⟩ := Option.bind_eq_some_iff.1 hreply
    have hlt : t < r.tasks.length := (List.getElem?_eq_some_iff.1 hentry).1
    show ((r.tasks ++ [TaskEntry.mk info none])[t]?).bind (·.reply) = some reply
    rw [List.getElem?_append_left hlt, hentry]
    exact hheld
  judged hjudged t := by
    have hold := hjudged t
    unfold Judged at hold ⊢
    show match (r.tasks ++ [TaskEntry.mk info none])[t]? with
      | none => r.attemptsTo t = []
      | some entry => _
    rcases Nat.lt_trichotomy t r.tasks.length with hlt | heq | hgt
    · rw [List.getElem?_append_left hlt]
      exact hold
    · rw [heq, List.getElem?_eq_none (Nat.le_refl _)] at hold
      have hattempts : r.attemptsTo r.tasks.length = [] := hold
      rw [heq, List.getElem?_concat_length]
      refine ⟨?_, ?_⟩
      · show none = firstDelivered ((r.attemptsTo r.tasks.length).map (·.1))
        rw [hattempts]
        rfl
      · intro before payload outcome after hsplit
        rw [show r.attemptsTo r.tasks.length = _ from hsplit] at hattempts
        simp at hattempts
    · rw [List.getElem?_eq_none (Nat.le_of_lt hgt)] at hold
      rw [List.getElem?_eq_none]
      · exact hold
      · rw [List.length_append, List.length_singleton]
        omega

/-- A job is added. -/
theorem later_addJob (r : TaskRuntime σ) (task listener : Nat) : Later r (r.addJob task listener) where
  closed := id
  infos := List.prefix_rfl
  handlers := List.prefix_rfl
  owners := by
    show r.owners <+: (r.jobs ++ [Job.mk task listener .starting]).map fun j => (j.task, j.listener)
    rw [List.map_append]
    exact List.prefix_append ..
  begun n := by
    rintro ⟨job, hjob, hbegun⟩
    refine ⟨job, ?_, hbegun⟩
    show (r.jobs ++ [Job.mk task listener .starting])[n]? = some job
    rw [List.getElem?_append_left (List.getElem?_eq_some_iff.1 hjob).1, hjob]
  attempts := List.prefix_rfl
  replies _ _ := id
  judged := id

/-- A listener is added. -/
theorem later_listen (r : TaskRuntime σ) (handlers : Handlers) : Later r (r.listen handlers) where
  closed := id
  infos := List.prefix_rfl
  handlers := by
    show r.listeners.map (·.handlers) <+: (r.listeners ++ [Listener.mk handlers .looking]).map (·.handlers)
    rw [List.map_append]
    exact List.prefix_append ..
  owners := List.prefix_rfl
  begun _ := id
  attempts := List.prefix_rfl
  replies _ _ := id
  judged := id

theorem later_take (r : TaskRuntime σ) (rest : List Queued) : Later r { r with queue := rest } :=
  ⟨id, List.prefix_rfl, List.prefix_rfl, List.prefix_rfl, fun _ => id, List.prefix_rfl, fun _ _ => id, id⟩

/-- **A listener takes what stands in the queue.** -/
theorem later_drain (queue : List Queued) : ∀ r : TaskRuntime σ, Later r (drain n queue r) := by
  induction queue with
  | nil =>
      intro r
      rw [drain]
      have hwaits : Later r { r with queue := [], waiting := r.waiting ++ [n] } :=
        ⟨id, List.prefix_rfl, List.prefix_rfl, List.prefix_rfl, fun _ => id, List.prefix_rfl, fun _ _ => id, id⟩
      exact hwaits.trans ((sameWork_setListener _ n _).later id)
  | cons q rest ih =>
      intro r
      have htaken := later_take r rest
      cases q with
      | task t =>
          rw [drain]
          have hadded := htaken.trans (later_addJob _ t n)
          exact (hadded.trans ((sameWork_schedule _ _).later id)).trans (ih _)
      | stop =>
          rw [drain]
          exact htaken.trans ((sameWork_setListener _ n _).later id)

theorem closed_callListener (r : TaskRuntime σ) : r.callListener.closed = r.closed := by
  unfold callListener
  split
  · rfl
  · rfl

theorem later_callListener (r : TaskRuntime σ) : Later r r.callListener := by
  apply (sameWork_callListener r).later
  rw [closed_callListener]
  exact id

theorem later_enqueue (r : TaskRuntime σ) (q : Queued) : Later r (r.enqueue q) :=
  ⟨id, List.prefix_rfl, List.prefix_rfl, List.prefix_rfl, fun _ => id, List.prefix_rfl, fun _ _ => id, id⟩

end WebhookBridge.TaskRuntime
