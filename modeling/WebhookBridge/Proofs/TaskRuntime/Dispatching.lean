import Mathlib.Data.List.Perm.Basic
import WebhookBridge.Proofs.TaskRuntime.Lasting
import WebhookBridge.Proofs.TaskRuntime.Order
import WebhookBridge.Proofs.TaskRuntime.Stranding
import WebhookBridge.Proofs.TaskRuntime.Work

/-!
# One task among others

However the work for several tasks is interleaved, and whenever the relay is closed, how one task stands can be told from its
own job alone. What is done for others matters to it in one way only: the relay that they call goes on.

## Contents

* `TaskRuntime.LosesAt`: turns that lose a task;
* `TaskRuntime.Tracks`: the invariant, for one task;
* `Tracks.works`, `TaskRuntime.tracks_take?`, `tracks_expire`, `tracks_cancelListener`: what is done for jobs;
* `TaskRuntime.tracks_submit`, `tracks_close`, `tracks_listen`, `Tracks.closeRelay`: what happens from outside.
-/

namespace WebhookBridge.TaskRuntime

variable {σ : Type} {relay : Relay σ} {reopen : σ → σ} {info : TaskInfo} {failed cut : Prop} {r r' : TaskRuntime σ}
  {n m : Nat}

/-! ## The relay goes on -/

/-- Whatever calls do to the relay, it goes on. -/
theorem goes_of_lasts (hlasts : Lasts (Relay.Goes reopen r.relay) r r') : Relay.Goes reopen r.relay r'.relay :=
  hlasts.relay (.refl reopen r.relay)

/-! ## Stranded tasks -/

theorem strands_iff (relay : Relay σ) {entry : TaskEntry} (hentry : r.tasks[n]? = some entry) :
    Strands relay r n ↔ relay.Strands r.relay entry.info (r.jobState? n) := by
  constructor
  · rintro ⟨entry', hentry', hstrands⟩
    rw [hentry] at hentry'
    cases hentry'
    exact hstrands
  · exact fun hstrands => ⟨entry, hentry, hstrands⟩

/-- A task that has not been submitted is not stranded. -/
theorem not_strands_of_unborn (relay : Relay σ) (hn : r.tasks.length ≤ n) : ¬ Strands relay r n := by
  rintro ⟨entry, hentry, -⟩
  rw [List.getElem?_eq_none hn] at hentry
  cases hentry

theorem strands_congr (relay : Relay σ) (htasks : r'.tasks = r.tasks) (hjobs : r'.jobs = r.jobs)
    (hrelay : r'.relay = r.relay) : Strands relay r' n = Strands relay r n := by
  rw [Strands, Strands, htasks, hrelay, jobState?, jobState?, hjobs]

/-! ## Lost tasks -/

/-- **The turn at a position loses a task.** -/
def LosesAt (relay : Relay σ) (r : TaskRuntime σ) (n position : Nat) : Prop :=
  ∃ turn, r.turns[position]? = some turn ∧ Loses relay r n turn

theorem losesAt_iff (relay : Relay σ) {position : Nat} {turn : Turn} (hturn : r.turns[position]? = some turn) :
    LosesAt relay r n position ↔ Loses relay r n turn := by
  constructor
  · rintro ⟨turn', hturn', hloses⟩
    rw [hturn] at hturn'
    cases hturn'
    exact hloses
  · exact fun hloses => ⟨turn, hturn, hloses⟩

/-! ## The invariant -/

/-- Handlers that are those of the bridge for its tasks. -/
def OfBridge (handlers : Handlers) : Prop := ∀ key ∈ relayTaskKeys, handlers key = relayHandler? key

/-- **The invariant, for the task at a position**: tasks and jobs are in order, and the task stands as its job says. Before it
    was submitted nothing is known of it. -/
structure Tracks (relay : Relay σ) (reopen : σ → σ) (info : TaskInfo) (failed cut : Prop) (n : Nat) (r : TaskRuntime σ) :
    Prop where
  order : InOrder OfBridge r
  unborn : r.tasks.length ≤ n → r.attemptsTo n = [] ∧ r.pending n = 0 ∧ ¬ failed
  born : ∀ entry, r.tasks[n]? = some entry → entry.info = info → FateOf relay reopen info failed cut r n (r.pending n)

theorem tracks_new (capacity : Nat) (s : σ) (hnot : ¬ failed) : Tracks relay reopen info failed cut n (new capacity s) where
  order := inOrder_new OfBridge capacity s
  unborn _ := ⟨rfl, rfl, hnot⟩
  born entry hentry := by simp [new] at hentry

/-- What leaves tasks and jobs as they are keeps the invariant. -/
theorem Tracks.of_same (h : Tracks relay reopen info failed cut n r) (horder : InOrder OfBridge r')
    (htasks : r'.tasks = r.tasks) (hjobs : r'.jobs = r.jobs) (hattempts : r'.attempts = r.attempts)
    (hrelay : r'.relay = r.relay) (hpending : r'.pending n = r.pending n) : Tracks relay reopen info failed cut n r' where
  order := horder
  unborn hn := by
    rw [htasks] at hn
    rw [attemptsTo, hattempts, hpending]
    exact h.unborn hn
  born entry hentry hinfo := by
    rw [htasks] at hentry
    rw [FateOf, hrelay, replyTo, htasks, attemptsTo, hattempts, jobState?, hjobs, hpending]
    exact h.born entry hentry hinfo

/-- Runtimes with the same work, whose relays and turns of jobs are the same. -/
theorem Tracks.of_sameWork (h : Tracks relay reopen info failed cut n r) (hsame : SameWork r r')
    (hrelay : r'.relay = r.relay) (hpending : r'.pending n = r.pending n) : Tracks relay reopen info failed cut n r' :=
  h.of_same (h.order.of_sameWork hsame) hsame.tasks hsame.jobs hsame.attempts hrelay hpending

/-- A listener's cut may come later. -/
theorem Tracks.mono {cut' : Prop} (h : Tracks relay reopen info failed cut n r) (hcut : cut → cut') :
    Tracks relay reopen info failed cut' n r := by
  refine ⟨h.order, h.unborn, ?_⟩
  intro entry hentry hinfo
  have hfate := h.born entry hentry hinfo
  rw [FateOf] at hfate ⊢
  generalize r.jobState? n = state at hfate
  cases state with
  | none => exact hfate
  | some state =>
      cases state with
      | «over» => exact hfate.imp (fun hcutOff => ⟨hcutOff.1, hcut hcutOff.2⟩) id
      | _ => exact hfate

/-! ## The work of jobs -/

/-- The turns of one job are no ends of calls for another. -/
theorem Works.pending (h : Works m r r') (hne : n ≠ m) : r'.pending n = r.pending n := by
  have hfilter : r'.turns.filter (fun turn => !turn.isOf m) = r.turns.filter (fun turn => !turn.isOf m) := by
    obtain ⟨mid, hmid, rfl | rfl⟩ := h
    · exact hmid.turns
    · exact hmid.turns
  have hcount : ∀ turns : List Turn,
      turns.countP (Turn.settles n) = (turns.filter fun turn => !turn.isOf m).countP (Turn.settles n) := by
    intro turns
    rw [List.countP_filter]
    apply List.countP_congr
    intro turn _
    cases turn with
    | settled k i => simp [Turn.settles, Turn.isOf]; omega
    | _ => simp [Turn.settles]
  rw [TaskRuntime.pending, TaskRuntime.pending, hcount, hfilter, ← hcount]

/-- **The work of a job** keeps the invariant if it keeps how its own task stands; whether that has failed may be settled by
    it, for no other task. -/
theorem Tracks.works {failed' : Prop} (hclosable : relay.Closable reopen) (h : Tracks relay reopen info failed cut n r)
    (hworks : Works m r r') (hgoes : Relay.Goes reopen r.relay r'.relay) (hm : m = n → n < r.tasks.length)
    (hothers : m ≠ n → (failed' ↔ failed))
    (hown : ∀ entry, m = n → r.tasks[n]? = some entry → entry.info = info →
      FateOf relay reopen info failed cut r n (r.pending n) → FateOf relay reopen info failed' cut r' n (r'.pending n)) :
    Tracks relay reopen info failed' cut n r' := by
  have htouches := hworks.touchesOnly
  refine ⟨h.order.of_touchesOnly htouches, ?_, ?_⟩
  · intro hn
    rw [htouches.length_tasks] at hn
    have hne : m ≠ n := by
      intro he
      have hlt := hm he
      omega
    rw [htouches.attempts n hne.symm, hworks.pending hne.symm, hothers hne]
    exact h.unborn hn
  · intro entry' hentry' hinfo
    obtain ⟨entry, hentry, he⟩ := htouches.exists_entry hentry'
    have hfate := h.born entry hentry (he.trans hinfo)
    by_cases hne : m = n
    · exact hown entry hne hentry (he.trans hinfo) hfate
    · have hne' : n ≠ m := Ne.symm hne
      rw [hworks.pending hne', hothers hne]
      exact hfate.of_goes hclosable hgoes (htouches.replies n hne') (htouches.attempts n hne') (htouches.jobs n hne')

/-- So does what does nothing if there is no such job. -/
theorem Tracks.of_job {failed' : Prop} (hclosable : relay.Closable reopen) (h : Tracks relay reopen info failed cut n r)
    (hworks : Works m r r') (hgoes : Relay.Goes reopen r.relay r'.relay) (hothers : m ≠ n → (failed' ↔ failed))
    (hidle : r.jobs[m]? = none → r' = r ∧ (failed' ↔ failed))
    (hown : m = n → FateOf relay reopen info failed cut r n (r.pending n) →
      FateOf relay reopen info failed' cut r' n (r'.pending n)) :
    Tracks relay reopen info failed' cut n r' := by
  by_cases hm : m < r.jobs.length
  · apply h.works hclosable hworks hgoes
    · intro he
      have hle := h.order.ordered.length_jobs_le
      omega
    · exact hothers
    · exact fun entry he _ _ => hown he
  · obtain ⟨hsame, hfailed⟩ := hidle (List.getElem?_eq_none (Nat.le_of_not_lt hm))
    rw [hsame, hfailed]
    exact h

/-! ## Turns -/

/-- The turn in which the end of a call is noticed is spent. -/
theorem pending_spend {position : Nat} {turn : Turn} (hturn : r.turns[position]? = some turn) :
    (r.spend position).pending n + (if turn.settles n then 1 else 0) = r.pending n := by
  obtain ⟨hlt, hget⟩ := List.getElem?_eq_some_iff.1 hturn
  have hcount := (List.getElem_cons_eraseIdx_perm hlt).countP_eq (Turn.settles n)
  rw [List.countP_cons, hget] at hcount
  exact hcount

/-- Any other turn is spent. -/
theorem Tracks.spend (h : Tracks relay reopen info failed cut n r) {position : Nat} {turn : Turn}
    (hturn : r.turns[position]? = some turn) (hother : turn.settles n = false) :
    Tracks relay reopen info failed cut n (r.spend position) := by
  refine h.of_sameWork ⟨rfl, rfl, rfl, rfl, rfl⟩ rfl ?_
  have hspend : (r.spend position).pending n + (if turn.settles n then 1 else 0) = r.pending n := pending_spend hturn
  rw [hother, if_neg (by simp), Nat.add_zero] at hspend
  exact hspend

/-- A task that stands first in the queue gets its job. -/
theorem Tracks.addJob (h : Tracks relay reopen info failed cut n r) {t : Nat} {rest : List Queued}
    (hqueue : r.queue = .task t :: rest) (hm : m < r.listeners.length) :
    Tracks relay reopen info failed cut n (({ r with queue := rest }.addJob t m).schedule (.job r.jobs.length)) := by
  have hpending : (({ r with queue := rest }.addJob t m).schedule (.job r.jobs.length)).pending n = r.pending n :=
    pending_scheduleAll _ [.job r.jobs.length]
  refine ⟨(h.order.addJob hqueue hm).of_sameWork (sameWork_schedule _ _), ?_, ?_⟩
  · intro hn
    rw [hpending]
    exact h.unborn hn
  · intro entry hentry hinfo
    have hfate := h.born entry hentry hinfo
    rw [hpending]
    rw [FateOf] at hfate ⊢
    show Fate relay reopen info failed cut r.relay _ (r.replyTo n) (r.attemptsTo n)
      ((r.jobs ++ [Job.mk t m .starting])[n]?.map (·.state))
    rcases Nat.lt_trichotomy n r.jobs.length with hlt | heq | hgt
    · rw [List.getElem?_append_left hlt]
      exact hfate
    · -- a task without a job and one whose job is about to start stand alike
      rw [jobState?, heq, List.getElem?_eq_none (Nat.le_refl _)] at hfate
      rw [heq, List.getElem?_concat_length]
      exact hfate
    · rw [jobState?, List.getElem?_eq_none (Nat.le_of_lt hgt)] at hfate
      rw [List.getElem?_eq_none]
      · exact hfate
      · rw [List.length_append, List.length_singleton]
        omega

/-- **A listener takes what stands in the queue.** -/
theorem tracks_drain (queue : List Queued) : ∀ r : TaskRuntime σ, r.queue = queue → m < r.listeners.length →
    Tracks relay reopen info failed cut n r → Tracks relay reopen info failed cut n (drain m queue r) := by
  induction queue with
  | nil =>
      intro r hqueue _ h
      rw [drain]
      exact h.of_sameWork ⟨hqueue.symm, rfl, rfl, rfl, map_handlers_modify _ _ fun _ => rfl⟩ rfl rfl
  | cons q rest ih =>
      intro r hqueue hm h
      cases q with
      | stop =>
          rw [drain]
          refine h.of_same ?_ rfl rfl rfl rfl rfl
          exact (h.order.takeStop hqueue).of_sameWork (sameWork_setListener _ m _)
      | task t =>
          rw [drain]
          exact ih _ rfl hm (h.addJob hqueue hm)

/-- **A job starts**, which may lose its task. -/
theorem Tracks.startJob (hclosable : relay.Closable reopen) (hkey : info.key ∈ relayTaskKeys)
    (h : Tracks relay reopen info failed cut n r) {job : Job} (hjob : r.jobs[m]? = some job)
    (hstate : job.state = .starting) :
    Tracks relay reopen info (failed ∨ Loses relay r n (.job m)) cut n (r.startJob relay m job) := by
  obtain ⟨hown, hlt⟩ := h.order.ordered.task_eq hjob
  have hworks := works_startJob relay hown (mem_running_of_job hjob (by simp [hstate]))
  have hgoes := goes_of_lasts (lasts_startJob hclosable.goes_call r m job)
  apply h.works hclosable hworks hgoes
  · rintro rfl
    exact hlt
  · intro hne
    apply or_iff_left
    rintro ⟨_, ⟨he, -⟩, -⟩
    exact hne he
  · rintro entry rfl hentry rfl hfate
    have hbegin := hfate.of_job hjob
    rw [hstate] at hbegin
    obtain ⟨huntried, hpending, hfailed⟩ := hbegin
    have hserved := h.order.served job (List.mem_of_getElem? hjob)
    obtain ⟨handler, hhandler, hanswers⟩ := relayHandler_answersFor (relay.whileOpen reopen) hkey
    have hhandlers : (r.listeners[job.listener]).handlers entry.info.key = some handler := by
      rw [h.order.adapted _ (List.getElem_mem hserved) _ hkey, hhandler]
    have hadvance : r.startJob relay m job = advance relay m m (handler entry.info) r := by
      simp only [TaskRuntime.startJob, hown, hentry, List.getElem?_eq_getElem hserved, hhandlers]
    have hstarting : r.jobState? m = some .starting := by
      rw [jobState?_of_job hjob, hstate]
    rw [hadvance]
    exact fateOf_begin hclosable (List.getElem?_eq_some_iff.1 hjob).1 hentry hstarting huntried hpending hfailed hanswers

/-- **A job goes on.** -/
theorem Tracks.goOn (hclosable : relay.Closable reopen) (h : Tracks relay reopen info failed cut n r) {job : Job}
    (hjob : r.jobs[m]? = some job) {a : Activity} (hstate : job.state = .resuming a) :
    Tracks relay reopen info failed cut n (advance relay m job.task a r) := by
  obtain ⟨hown, hlt⟩ := h.order.ordered.task_eq hjob
  rw [hown]
  have hworks := works_advance relay a r (mem_running_of_job hjob (by simp [hstate]))
  have hgoes := goes_of_lasts (lasts_advance hclosable.goes_call m m a r)
  apply h.works hclosable hworks hgoes
  · rintro rfl
    exact hlt
  · exact fun _ => Iff.rfl
  · rintro entry rfl _ _ hfate
    have hgoing := hfate.of_job hjob
    rw [hstate] at hgoing
    exact fateOf_advance (List.getElem?_eq_some_iff.1 hjob).1 hlt hgoing.1 hgoing.2

/-- **A call is made**, which may lose the task that it is made for. -/
theorem Tracks.makeCall (hclosable : relay.Closable reopen) (h : Tracks relay reopen info failed cut n r) (m i : Nat) :
    Tracks relay reopen info (failed ∨ Loses relay r n (.call m i)) cut n (r.makeCall relay m i) := by
  have hgoes := goes_of_lasts (lasts_makeCall hclosable.goes_call r m i)
  apply h.of_job hclosable (beside_makeCall relay r m i).works hgoes
  · intro hne
    apply or_iff_left
    rintro ⟨_, ⟨he, -⟩, -⟩
    exact hne he
  · intro hnone
    refine ⟨by simp only [TaskRuntime.makeCall, hnone], ?_⟩
    apply or_iff_left
    rintro ⟨_, ⟨rfl, batch, late, unsettled, next, hstate, -⟩, -⟩
    rw [jobState?, hnone] at hstate
    cases hstate
  · rintro rfl hfate
    exact fateOf_makeCall hclosable hfate i

/-- **The end of a call is noticed**, with which its turn is spent. -/
theorem Tracks.settleCall (hclosable : relay.Closable reopen) (h : Tracks relay reopen info failed cut n r)
    {position i : Nat} (hturn : r.turns[position]? = some (.settled m i)) :
    Tracks relay reopen info failed cut n ((r.spend position).settleCallOf m i) := by
  have hbeside : Beside m r (r.spend position) := beside_spend hturn (by simp [Turn.isOf])
  have hgoes : Relay.Goes reopen r.relay ((r.spend position).settleCallOf m i).relay :=
    goes_of_lasts (r := r.spend position) (lasts_settleCallOf (r.spend position) m i)
  have hspend : (r.spend position).pending n + (if (Turn.settled m i).settles n then 1 else 0) = r.pending n :=
    pending_spend hturn
  apply h.works hclosable ((beside_settleCallOf _ m i).works.after hbeside) hgoes
  · rintro rfl
    by_contra hnot
    have hnone := (h.unborn (Nat.le_of_not_lt hnot)).2.1
    simp [Turn.settles] at hspend
    omega
  · exact fun _ => Iff.rfl
  · rintro entry rfl _ _ hfate
    simp only [Turn.settles, decide_true, if_true] at hspend
    rw [← hspend] at hfate
    exact fateOf_settleCallOf (r := r.spend position) hfate i

/-- **What is done in a turn**, which may lose a task. -/
theorem tracks_perform (hclosable : relay.Closable reopen) (hkey : info.key ∈ relayTaskKeys)
    (h : Tracks relay reopen info failed cut n r) {position : Nat} {turn : Turn} (hturn : r.turns[position]? = some turn) :
    Tracks relay reopen info (failed ∨ Loses relay r n turn) cut n (perform relay (r.spend position) turn) := by
  -- a turn in which no call is made loses no task
  have hquiet : (∀ request, ¬ r.Makes n request turn) → (failed ∨ Loses relay r n turn ↔ failed) := by
    intro hnone
    apply or_iff_left
    rintro ⟨request, hmakes, -⟩
    exact hnone request hmakes
  cases turn with
  | listener m =>
      have hspent := h.spend hturn rfl
      rw [hquiet fun _ => id, perform]
      split
      · rename_i handlers hlistener
        exact tracks_drain _ _ rfl (List.getElem?_eq_some_iff.1 hlistener).1 hspent
      · exact hspent
  | job m =>
      have hspent := h.spend hturn rfl
      have hstarts : r.jobState? m ≠ some .starting → ∀ request, ¬ r.Makes n request (.job m) := by
        rintro hnot request ⟨rfl, hstate, -⟩
        exact hnot hstate
      rw [perform]
      split
      · rename_i job hjob
        have hsame : r.jobState? m = some job.state := jobState?_of_job hjob
        split
        · rename_i hstate
          exact hspent.startJob hclosable hkey hjob hstate
        · rename_i a hstate
          rw [hquiet (hstarts (by simp [hsame, hstate]))]
          exact hspent.goOn hclosable hjob hstate
        · rename_i hnot _
          rw [hquiet (hstarts (by simpa [hsame] using hnot))]
          exact hspent
      · rename_i hnone
        have hsame : r.jobState? m = none := Option.map_eq_none_iff.2 hnone
        rw [hquiet (hstarts (by simp [hsame]))]
        exact hspent
  | call m i => exact (h.spend hturn rfl).makeCall hclosable m i
  | settled m i =>
      rw [hquiet fun _ => id]
      exact h.settleCall hclosable hturn

/-- **One turn** keeps the invariant, and may lose a task. -/
theorem tracks_take? (hclosable : relay.Closable reopen) (hkey : info.key ∈ relayTaskKeys)
    (h : Tracks relay reopen info failed cut n r) (position : Nat) :
    Tracks relay reopen info (failed ∨ LosesAt relay r n position) cut n ((r.take? relay position).getD r) := by
  rw [take?]
  cases hturn : r.turns[position]? with
  | none =>
      have hnot : ¬ LosesAt relay r n position := by
        rintro ⟨turn, hturn', -⟩
        rw [hturn] at hturn'
        cases hturn'
      rw [or_iff_left hnot]
      exact h
  | some turn =>
      rw [losesAt_iff relay hturn]
      exact tracks_perform hclosable hkey h hturn

/-! ## Time and cuts -/

/-- **The time limit has passed.** -/
theorem tracks_expire (hclosable : relay.Closable reopen)
    (h : Tracks relay reopen info failed cut n r) : Tracks relay reopen info failed cut n r.expire := by
  refine List.foldlRecOn _ _ h ?_
  intro r h m _
  have hgoes : Relay.Goes reopen r.relay (r.expireJob m).relay := goes_of_lasts (lasts_expireJob r m)
  apply h.of_job hclosable (beside_expireJob r m).works hgoes
  · exact fun _ => Iff.rfl
  · intro hnone
    exact ⟨by simp only [expireJob, hnone], Iff.rfl⟩
  · rintro rfl hfate
    exact fateOf_expireJob hfate

/-- **A job is cut off.** -/
theorem Tracks.endJob (hclosable : relay.Closable reopen) (hcut : cut)
    (h : Tracks relay reopen info failed cut n r) (m : Nat) : Tracks relay reopen info failed cut n (r.endJob m) := by
  by_cases hm : m < r.jobs.length
  · have hgoes : Relay.Goes reopen r.relay (r.endJob m).relay := .refl reopen r.relay
    apply h.works hclosable (works_endJob r m) hgoes
    · intro he
      have hle := h.order.ordered.length_jobs_le
      omega
    · exact fun _ => Iff.rfl
    · rintro entry rfl _ _ hfate
      exact fateOf_endJob hcut hfate hm
  · -- there is no such job
    have hjobs : (r.setJob m .over).jobs = r.jobs := List.modify_eq_self (Nat.le_of_not_lt hm)
    have hsame : SameWork r (r.setJob m .over) := ⟨rfl, rfl, hjobs, rfl, rfl⟩
    exact h.of_sameWork (hsame.trans (sameWork_endJob r m)) rfl rfl

/-- **A listener is cancelled**, and with it the jobs that it waited for. -/
theorem tracks_cancelListener (hclosable : relay.Closable reopen)
    (hcut : cut) (h : Tracks relay reopen info failed cut n r) (m : Nat) :
    Tracks relay reopen info failed cut n (r.cancelListener m) := by
  unfold cancelListener
  split
  · refine List.foldlRecOn _ _ ?_ fun r h k _ => h.endJob hclosable hcut k
    exact h.of_sameWork (sameWork_setListener r m _) rfl rfl
  · exact h
  · exact h.of_sameWork ⟨rfl, rfl, rfl, rfl, map_handlers_modify _ _ fun _ => rfl⟩ rfl rfl
  · exact h

/-! ## Operations -/

theorem tracks_listen (h : Tracks relay reopen info failed cut n r) {handlers : Handlers} (hhandlers : OfBridge handlers) :
    Tracks relay reopen info failed cut n (r.listen handlers) := by
  refine h.of_same (h.order.listen hhandlers) rfl rfl rfl rfl ?_
  exact pending_scheduleAll (r.addListener handlers) [.listener r.listeners.length]

theorem relay_callListener (r : TaskRuntime σ) : r.callListener.relay = r.relay := by
  unfold callListener
  split
  · rfl
  · rfl

theorem Tracks.callListener (h : Tracks relay reopen info failed cut n r) :
    Tracks relay reopen info failed cut n r.callListener := by
  refine h.of_sameWork (sameWork_callListener r) ?_ ?_
  · exact relay_callListener r
  · unfold TaskRuntime.callListener
    split
    · rfl
    · rename_i m rest _
      exact pending_scheduleAll ({ r with waiting := rest }.wakeListener m) [.listener m]

/-- **The runtime is closed.** -/
theorem tracks_close (h : Tracks relay reopen info failed cut n r) : Tracks relay reopen info failed cut n r.close := by
  unfold close
  split
  · exact h
  · apply Tracks.callListener
    exact h.of_same ⟨h.order.ordered.addStop, h.order.served, h.order.adapted⟩ rfl rfl rfl rfl rfl

/-- What is known of a task already says whether it is stranded. -/
theorem Tracks.recorded (h : Tracks relay reopen info failed cut n r) :
    Tracks relay reopen info (failed ∨ Strands relay r n) cut n r where
  order := h.order
  unborn hn := by
    obtain ⟨hattempts, hpending, hnot⟩ := h.unborn hn
    exact ⟨hattempts, hpending, fun hyes => hyes.elim hnot (not_strands_of_unborn relay hn)⟩
  born entry hentry hinfo := by
    have hfate := h.born entry hentry hinfo
    have hstrands : Strands relay r n → failed := by
      rw [strands_iff relay hentry, hinfo]
      exact hfate.of_strands
    rw [or_iff_left_of_imp hstrands]
    exact hfate

/-- A task is added, and stands in the queue. If it is the one that is watched, it may be stranded from its start. -/
theorem Tracks.addTask (h : Tracks relay reopen info failed cut n r) (task : TaskInfo) :
    Tracks relay reopen info (failed ∨ Strands relay ((r.addTask task).enqueue (.task r.tasks.length)) n) cut n
      ((r.addTask task).enqueue (.task r.tasks.length)) := by
  have horder : InOrder OfBridge ((r.addTask task).enqueue (.task r.tasks.length)) :=
    ⟨h.order.ordered.addTask task, h.order.served, h.order.adapted⟩
  generalize hadded : (r.addTask task).enqueue (.task r.tasks.length) = added at horder
  have htasks : added.tasks = r.tasks ++ [⟨task, none⟩] := by rw [← hadded]; rfl
  have hjobs : added.jobs = r.jobs := by rw [← hadded]; rfl
  have hrelay : added.relay = r.relay := by rw [← hadded]; rfl
  have hattempts : added.attemptsTo n = r.attemptsTo n := by rw [← hadded]; rfl
  have hpending : added.pending n = r.pending n := by rw [← hadded]; rfl
  have hlength : added.tasks.length = r.tasks.length + 1 := by rw [htasks, List.length_append, List.length_singleton]
  by_cases hn : n = r.tasks.length
  · -- the task is new, and without a job
    obtain ⟨huntried, hnone, hnot⟩ := h.unborn (Nat.le_of_eq hn.symm)
    have hle := h.order.ordered.length_jobs_le
    have hjob : added.jobState? n = none := by
      rw [jobState?, hjobs, List.getElem?_eq_none (by omega)]
      rfl
    refine ⟨horder, fun hlt => by omega, ?_⟩
    intro entry hentry hinfo
    have hreply : added.replyTo n = none := by
      rw [replyTo, htasks, hn, List.getElem?_concat_length]
      rfl
    rw [FateOf, strands_iff relay hentry, hinfo, hjob, hreply, hattempts, hpending]
    exact ⟨⟨rfl, huntried⟩, hnone, or_iff_right hnot⟩
  · apply Tracks.recorded
    refine ⟨horder, ?_, ?_⟩
    · intro hlt
      rw [hattempts, hpending]
      exact h.unborn (by omega)
    · intro entry hentry hinfo
      have hlt : n < r.tasks.length := by
        have hnew := (List.getElem?_eq_some_iff.1 hentry).1
        omega
      have hold : added.tasks[n]? = r.tasks[n]? := by rw [htasks, List.getElem?_append_left hlt]
      rw [hold] at hentry
      rw [FateOf, hrelay, replyTo, hold, hattempts, jobState?, hjobs, hpending]
      exact h.born entry hentry hinfo

/-- **A task is submitted.** -/
theorem tracks_submit (h : Tracks relay reopen info failed cut n r) {task : TaskInfo} (hsubmit : r.submit task = .ok r') :
    Tracks relay reopen info (failed ∨ Strands relay r' n) cut n r' := by
  unfold submit at hsubmit
  split at hsubmit
  · cases hsubmit
  · cases hsubmit
    have hcalled := sameWork_callListener ((r.addTask task).enqueue (.task r.tasks.length))
    have hrelay := relay_callListener ((r.addTask task).enqueue (.task r.tasks.length))
    rw [strands_congr relay hcalled.tasks hcalled.jobs hrelay]
    exact (h.addTask task).callListener

/-- **The relay is closed**, where it was open, or stays as it is. -/
theorem Tracks.closeRelay (hclosable : relay.Closable reopen)
    (h : Tracks relay reopen info failed cut n r) {s : σ} (hs : reopen r.relay ≠ r.relay → s = r.relay) :
    Tracks relay reopen info (failed ∨ Strands relay { r with relay := s } n) cut n { r with relay := s } := by
  by_cases hopen : reopen r.relay = r.relay
  · refine ⟨⟨h.order.ordered, h.order.served, h.order.adapted⟩, ?_, ?_⟩
    · intro hn
      obtain ⟨hattempts, hpending, hnot⟩ := h.unborn hn
      exact ⟨hattempts, hpending, fun hyes => hyes.elim hnot (not_strands_of_unborn relay hn)⟩
    · intro entry hentry hinfo
      rw [strands_iff relay hentry, hinfo]
      exact (h.born entry hentry hinfo).closeRelay hclosable hopen s
  · rw [hs hopen]
    exact h.recorded

end WebhookBridge.TaskRuntime
