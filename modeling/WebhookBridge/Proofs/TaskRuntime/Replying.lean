import WebhookBridge.Proofs.Task.Replies
import WebhookBridge.Proofs.TaskRuntime.Frame

/-!
# The end of a job

A job that makes no calls any more goes on to its end without waiting: it replies once, or fails, for which the runtime
replies in its place. Then its task has its one reply, and the job has ended.

## Contents

* `TaskRuntime.Answered`: what is held and was tried after the one reply to a task;
* `TaskRuntime.answered_ends`, `answered_failJob`, `answered_advance`: how a job comes to its end.
-/

namespace WebhookBridge.TaskRuntime

variable {σ : Type} {relay : Relay σ} {replies : Payload → Prop} {r : TaskRuntime σ} {n : Nat}

/-- **What is held and was tried** after the one reply to a task, with one of some payloads. -/
def Answered (replies : Payload → Prop) (reply : Option Reply) (attempts : List (Payload × Except ReplyFault Unit)) : Prop :=
  ∃ payload, replies payload ∧ reply = delivered payload ∧ attempts = [(payload, delivery payload)]

theorem state_endJob {job : Job} (h : (r.endJob n).jobs[n]? = some job) : job.state = .over := by
  rw [(sameWork_endJob r n).jobs] at h
  exact state_setJob h

/-- A job that has replied goes on to its end. -/
theorem answered_ends (a : Activity) : ∀ r : TaskRuntime σ, a.Ends → Answered replies (r.replyTo n) (r.attemptsTo n) →
    Answered replies ((advance relay n n a r).replyTo n) ((advance relay n n a r).attemptsTo n) ∧
      ∀ job, (advance relay n n a r).jobs[n]? = some job → job.state = .over := by
  induction a with
  | done => exact fun r _ hanswered => ⟨hanswered, fun job hjob => state_endJob hjob⟩
  | report events next ih => exact fun r hends hanswered => ih (r.report events) hends hanswered
  | fail defect => exact fun r hends => absurd hends id
  | reply payload next ih => exact fun r hends => absurd hends id
  | call request next ih => exact fun r hends => absurd hends id
  | dispatch requests next ih => exact fun r hends => absurd hends id
  | wait next ih => exact fun r hends => absurd hends id

/-- A job that fails without a reply. -/
theorem answered_failJob (hn : n < r.tasks.length) (hreply : r.replyTo n = none) (hattempts : r.attemptsTo n = [])
    (hpayload : replies internalFailure) :
    Answered replies ((r.failJob n n).replyTo n) ((r.failJob n n).attemptsTo n) ∧
      ∀ job, (r.failJob n n).jobs[n]? = some job → job.state = .over := by
  have hentry : r.tasks[n]? = some r.tasks[n] := List.getElem?_eq_getElem hn
  have hnone : (r.tasks[n]).reply = none := by simpa [replyTo, hentry] using hreply
  -- nobody has replied, so that the runtime replies in the handler's place
  have hunanswered : ∀ events, (r.report events).isAnswered n = false := by
    intro events
    show r.isAnswered n = false
    simp [isAnswered, hentry, hnone]
  simp only [failJob, hentry, hunanswered, Bool.false_eq_true, if_false]
  obtain ⟨hreply', hattempts'⟩ := reply_first (r := r.report _) hn hreply hattempts internalFailure
  exact ⟨⟨internalFailure, hpayload, hreply', hattempts'⟩, fun job hjob => state_endJob hjob⟩

/-- A reply that is the first, by a job that then ends. -/
theorem answered_reply {payload : Payload} {next : Except ReplyFault Unit → Activity} (hn : n < r.tasks.length)
    (hreply : r.replyTo n = none) (hattempts : r.attemptsTo n = []) (hpayload : replies payload)
    (hends : ∀ outcome, (next outcome).Ends) :
    Answered replies ((advance relay n n (.reply payload next) r).replyTo n)
        ((advance relay n n (.reply payload next) r).attemptsTo n) ∧
      ∀ job, (advance relay n n (.reply payload next) r).jobs[n]? = some job → job.state = .over := by
  obtain ⟨hreply', hattempts'⟩ := reply_first hn hreply hattempts payload
  exact answered_ends (next _) (r.reply n payload).1 (hends _) ⟨payload, hpayload, hreply', hattempts'⟩

/-- **A job that makes no calls any more** comes to its end with the one reply to its task. -/
theorem answered_advance (a : Activity) : ∀ r : TaskRuntime σ, n < r.tasks.length → r.replyTo n = none →
    r.attemptsTo n = [] → a.RepliesNow replies →
    Answered replies ((advance relay n n a r).replyTo n) ((advance relay n n a r).attemptsTo n) ∧
      ∀ job, (advance relay n n a r).jobs[n]? = some job → job.state = .over := by
  induction a with
  | fail defect => exact fun r hn hreply hattempts hnow => answered_failJob hn hreply hattempts hnow
  | reply payload next _ => exact fun r hn hreply hattempts hnow => answered_reply hn hreply hattempts hnow.1 hnow.2
  | report events next ih => exact fun r hn hreply hattempts hnow => ih (r.report events) hn hreply hattempts hnow
  | done => exact fun r _ _ _ hnow => absurd hnow id
  | call request next _ => exact fun r _ _ _ hnow => absurd hnow id
  | dispatch requests next _ => exact fun r _ _ _ hnow => absurd hnow id
  | wait next _ => exact fun r _ _ _ hnow => absurd hnow id

end WebhookBridge.TaskRuntime
