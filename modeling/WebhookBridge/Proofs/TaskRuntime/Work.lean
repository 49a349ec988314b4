import WebhookBridge.Proofs.TaskRuntime.Later
import WebhookBridge.Proofs.TaskRuntime.Steps

/-!
# What work leaves to those who wait

Work for a job is of no concern to the queue, to the listeners and to the turns of others. Only its end may be what a
listener has waited for: a listener behind the stop mark ends with the last of the jobs that ran when it got there.

## Contents

* `TaskRuntime.mem_running`, `TaskRuntime.running_setJob`, `TaskRuntime.running_endJob`: which jobs run;
* `TaskRuntime.Beside`: a later runtime in which one job has gone on;
* `TaskRuntime.Works`: a later runtime in which one job has gone on or ended;
* one lemma for each operation.
-/

namespace WebhookBridge

/-- Whether a turn is one of a job or of a call of its batch. -/
def Turn.isOf (n : Nat) : Turn → Bool
  | .listener _ => false
  | .job m => m = n
  | .call m _ => m = n
  | .settled m _ => m = n

/-- A listener while some jobs run: it has ended if it waits for jobs of which none runs any more. -/
def Listener.settled (running : List Nat) (l : Listener) : Listener :=
  match l.state with
  | .finishing jobs => if jobs.any running.contains then l else { l with state := .done }
  | _ => l

namespace TaskRuntime

variable {σ : Type} {r r' r'' : TaskRuntime σ} {n : Nat}

/-! ## Which jobs run -/

theorem mem_running {j : Nat} : j ∈ r.running ↔ ∃ job, r.jobs[j]? = some job ∧ job.isOver = false := by
  rw [running, List.mem_filter, List.mem_range]
  cases hjob : r.jobs[j]? with
  | none => simp
  | some job =>
      have hlt : j < r.jobs.length := (List.getElem?_eq_some_iff.1 hjob).1
      simp [hlt]

/-- When no job runs, every job has ended. -/
theorem isOver_of_running (h : r.running = []) : ∀ job ∈ r.jobs, job.isOver = true := by
  intro job hjob
  obtain ⟨j, hj⟩ := List.getElem?_of_mem hjob
  by_cases hover : job.isOver = true
  · exact hover
  · have hmem : j ∈ r.running := mem_running.2 ⟨job, hj, Bool.eq_false_iff.2 hover⟩
    rw [h] at hmem
    exact absurd hmem (by simp)

/-- A job that runs and goes on still runs, and so do the others. -/
theorem running_setJob (hn : n ∈ r.running) {state : JobState} (hstate : state ≠ .over) :
    (r.setJob n state).running = r.running := by
  have hlength : (r.setJob n state).jobs.length = r.jobs.length := List.length_modify ..
  rw [running, running, hlength]
  apply List.filter_congr
  intro j _
  by_cases hj : n = j
  · subst hj
    obtain ⟨job, hjob, hover⟩ := mem_running.1 hn
    have hnew : ({ job with state := state } : Job).isOver = false := by
      rw [← Bool.not_eq_true, Job.isOver_iff]
      exact hstate
    simp only [setJob, List.getElem?_modify_eq, hjob, Option.map_eq_map, Option.map_some, hover, hnew]
  · simp [setJob, hj]

/-- When a job has ended, the others still run. -/
theorem running_endJob (r : TaskRuntime σ) (n : Nat) : (r.endJob n).running = r.running.filter (· ≠ n) := by
  have hjobs : (r.endJob n).running = (r.setJob n .over).running := rfl
  have hlength : (r.setJob n .over).jobs.length = r.jobs.length := List.length_modify ..
  rw [hjobs, running, running, hlength, List.filter_filter]
  apply List.filter_congr
  intro j _
  by_cases hj : n = j
  · subst hj
    simp only [setJob, List.getElem?_modify_eq, Option.map_eq_map]
    cases r.jobs[n]? with
    | none => simp
    | some job => simp [Job.isOver]
  · simp [setJob, hj, Ne.symm hj]

theorem listeners_endJob (r : TaskRuntime σ) (n : Nat) :
    (r.endJob n).listeners = r.listeners.map (Listener.settled (r.endJob n).running) := rfl

/-! ## Jobs that go on -/

/-- **A later runtime in which one job has gone on**: it still runs, listeners have noticed nothing, and only turns of this
    job may have come and gone. -/
structure Beside (n : Nat) (r r' : TaskRuntime σ) : Prop where
  touches : TouchesOnly n r r'
  closed : r'.closed = r.closed
  waiting : r'.waiting = r.waiting
  listeners : r'.listeners = r.listeners
  running : r'.running = r.running
  later : Later r r'
  turns : r'.turns.filter (fun turn => !turn.isOf n) = r.turns.filter (fun turn => !turn.isOf n)

theorem Beside.refl (n : Nat) (r : TaskRuntime σ) : Beside n r r := ⟨.refl n r, rfl, rfl, rfl, rfl, .refl r, rfl⟩

theorem Beside.trans (h : Beside n r r') (h' : Beside n r' r'') : Beside n r r'' where
  touches := h.touches.trans h'.touches
  closed := h'.closed.trans h.closed
  waiting := h'.waiting.trans h.waiting
  listeners := h'.listeners.trans h.listeners
  running := h'.running.trans h.running
  later := h.later.trans h'.later
  turns := h'.turns.trans h.turns

theorem Beside.report (h : Beside n r r') (events : List LogEvent) : Beside n r (r'.report events) :=
  have hsame := sameWork_report r' events
  h.trans ⟨hsame.touchesOnly n, rfl, rfl, rfl, rfl, hsame.later id, rfl⟩

/-- The relay is called for the job. -/
theorem Beside.relay (h : Beside n r r') (s : σ) : Beside n r { r' with relay := s } :=
  have hsame : SameWork r' { r' with relay := s } := ⟨rfl, rfl, rfl, rfl, rfl⟩
  h.trans ⟨hsame.touchesOnly n, rfl, rfl, rfl, rfl, hsame.later id, rfl⟩

/-- The job waits for its release. -/
theorem Beside.held (h : Beside n r r') (held : List Nat) : Beside n r { r' with held := held } :=
  have hsame : SameWork r' { r' with held := held } := ⟨rfl, rfl, rfl, rfl, rfl⟩
  h.trans ⟨hsame.touchesOnly n, rfl, rfl, rfl, rfl, hsame.later id, rfl⟩

theorem Beside.setJob (h : Beside n r r') (hn : n ∈ r.running) {state : JobState}
    (hstate : state ≠ .over ∧ state ≠ .starting) : Beside n r (r'.setJob n state) := by
  have hn' : n ∈ r'.running := by
    rw [h.running]
    exact hn
  exact h.trans ⟨touchesOnly_setJob r' n state, rfl, rfl, rfl, running_setJob hn' hstate.1, later_setJob r' n hstate.2, rfl⟩

theorem Beside.scheduleAll (h : Beside n r r') {turns : List Turn} (hturns : ∀ turn ∈ turns, turn.isOf n = true) :
    Beside n r (r'.scheduleAll turns) := by
  have hsame := sameWork_scheduleAll r' turns
  refine h.trans ⟨hsame.touchesOnly n, rfl, rfl, rfl, rfl, hsame.later id, ?_⟩
  have hnone : turns.filter (fun turn => !turn.isOf n) = [] := by
    apply List.filter_eq_nil_iff.2
    intro turn hturn
    simp [hturns turn hturn]
  show (r'.turns ++ turns).filter _ = _
  rw [List.filter_append, hnone, List.append_nil]

theorem Beside.schedule (h : Beside n r r') {turn : Turn} (hturn : turn.isOf n = true) : Beside n r (r'.schedule turn) := by
  apply h.scheduleAll
  intro other hother
  rw [List.mem_singleton.1 hother]
  exact hturn

theorem Beside.reply (h : Beside n r r') (payload : Payload) : Beside n r (r'.reply n payload).1 := by
  refine h.trans ⟨touchesOnly_reply r' n payload, ?_, ?_, ?_, ?_, later_reply r' n payload, ?_⟩
  all_goals
    unfold TaskRuntime.reply
    split
    · rfl
    · rfl

/-- A turn of a job that is taken is of no concern to others. -/
theorem beside_spend {position : Nat} {turn : Turn} (hturn : r.turns[position]? = some turn) (hof : turn.isOf n = true) :
    Beside n r (r.spend position) := by
  have hsame : SameWork r (r.spend position) := ⟨rfl, rfl, rfl, rfl, rfl⟩
  refine ⟨hsame.touchesOnly n, rfl, rfl, rfl, rfl, hsame.later id, ?_⟩
  obtain ⟨hlt, hget⟩ := List.getElem?_eq_some_iff.1 hturn
  have hsplit : r.turns = r.turns.take position ++ turn :: r.turns.drop (position + 1) := by
    rw [← hget, ← List.drop_eq_getElem_cons hlt, List.take_append_drop]
  show (r.turns.eraseIdx position).filter _ = _
  have hfilter := congrArg (List.filter fun turn => !turn.isOf n) hsplit
  rw [List.filter_append, List.filter_cons_of_neg (by simp [hof])] at hfilter
  rw [List.eraseIdx_eq_take_drop_succ, List.filter_append]
  exact hfilter.symm

/-! ## Jobs that go on or end -/

/-- **A later runtime in which one job has gone on or ended.** -/
def Works (n : Nat) (r r' : TaskRuntime σ) : Prop := ∃ mid, Beside n r mid ∧ (r' = mid ∨ r' = mid.endJob n)

theorem Beside.works (h : Beside n r r') : Works n r r' := ⟨r', h, Or.inl rfl⟩

theorem Works.after (h : Works n r' r'') (hbefore : Beside n r r') : Works n r r'' := by
  obtain ⟨mid, hmid, hend⟩ := h
  exact ⟨mid, hbefore.trans hmid, hend⟩

theorem Works.touchesOnly (h : Works n r r') : TouchesOnly n r r' := by
  obtain ⟨mid, hmid, rfl | rfl⟩ := h
  · exact hmid.touches
  · exact hmid.touches.trans (touchesOnly_endJob mid n)

theorem Works.later (h : Works n r r') : Later r r' := by
  obtain ⟨mid, hmid, rfl | rfl⟩ := h
  · exact hmid.later
  · exact hmid.later.trans (later_endJob mid n)

theorem works_endJob (r : TaskRuntime σ) (n : Nat) : Works n r (r.endJob n) := ⟨r, .refl n r, Or.inr rfl⟩

theorem works_failJob (r : TaskRuntime σ) (n : Nat) : Works n r (r.failJob n n) := by
  unfold failJob
  split
  · exact works_endJob r n
  · refine (works_endJob _ n).after ?_
    split
    · exact (Beside.refl n r).report _
    · exact ((Beside.refl n r).report _).reply _

/-- **A job up to the next point where it waits.** -/
theorem works_advance (relay : Relay σ) (a : Activity) :
    ∀ r : TaskRuntime σ, n ∈ r.running → Works n r (advance relay n n a r) := by
  -- until the activity waits or ends, the job runs as before
  have hruns : ∀ {r r' : TaskRuntime σ}, Beside n r r' → n ∈ r.running → n ∈ r'.running := by
    intro r r' hbeside hn
    rw [hbeside.running]
    exact hn
  induction a with
  | done => exact fun r _ => works_endJob r n
  | fail defect => exact fun r _ => works_failJob r n
  | reply payload next ih =>
      intro r hn
      rw [advance]
      have hreply := (Beside.refl n r).reply payload
      exact (ih _ _ (hruns hreply hn)).after hreply
  | call request next ih =>
      intro r hn
      rw [advance]
      have hcall := ((Beside.refl n r).relay (relay.call r.relay request).state).report (relay.call r.relay request).log
      split
      · exact (hcall.setJob hn (by simp)).works
      · exact (ih _ _ (hruns hcall hn)).after hcall
  | dispatch requests next ih =>
      intro r hn
      rw [advance]
      split
      · exact ih _ r hn
      · have hbatching : Beside n r ((r.report (BatchRun.startLog requests)).setJob n
            (.batching (.create requests) [] requests.length next)) :=
          ((Beside.refl n r).report _).setJob hn (by simp)
        refine (hbatching.scheduleAll ?_).works
        intro turn hturn
        obtain ⟨i, -, rfl⟩ := List.mem_map.1 hturn
        simp [Turn.isOf]
  | wait next ih =>
      intro r hn
      rw [advance]
      split
      · exact ih r hn
      · exact (((Beside.refl n r).held _).setJob hn (by simp)).works
  | report events next ih =>
      intro r hn
      rw [advance]
      have hreport := (Beside.refl n r).report events
      exact (ih _ (hruns hreport hn)).after hreport

theorem works_startJob (relay : Relay σ) {job : Job} (hjob : job.task = n) (hn : n ∈ r.running) :
    Works n r (r.startJob relay n job) := by
  subst hjob
  unfold startJob
  split
  · split
    · exact works_advance relay _ r hn
    · exact (works_endJob _ _).after (((Beside.refl _ r).report _).reply _)
  · exact works_endJob r _

/-! ## Calls of batches -/

/-- A job that waits for something runs. -/
theorem mem_running_of_job {job : Job} (hjob : r.jobs[n]? = some job) (hstate : job.state ≠ .over) : n ∈ r.running := by
  refine mem_running.2 ⟨job, hjob, ?_⟩
  rw [← Bool.not_eq_true, Job.isOver_iff]
  exact hstate

theorem beside_makeCall (relay : Relay σ) (r : TaskRuntime σ) (n i : Nat) : Beside n r (r.makeCall relay n i) := by
  unfold makeCall
  split
  · rename_i hjob
    have hn := mem_running_of_job hjob (by simp)
    split
    · rename_i request hreq hcall
      have hrelay := ((Beside.refl n r).relay (relay.call r.relay request).state).report (relay.call r.relay request).log
      dsimp only
      split
      · exact hrelay.setJob hn (by simp)
      · exact ((hrelay.report _).setJob hn (by simp)).schedule (by simp [Turn.isOf])
    · exact Beside.refl n r
  · exact Beside.refl n r

theorem beside_settleCallOf (r : TaskRuntime σ) (n i : Nat) : Beside n r (r.settleCallOf n i) := by
  unfold settleCallOf
  split
  · rename_i hjob
    have hn := mem_running_of_job hjob (by simp)
    -- the calls that are cancelled are noticed as well, each by itself
    have hcancelled : ∀ calls : List Nat, Beside n r (r.scheduleAll (calls.map (Turn.settled n))) := by
      intro calls
      apply (Beside.refl n r).scheduleAll
      intro turn hturn
      obtain ⟨k, -, rfl⟩ := List.mem_map.1 hturn
      simp [Turn.isOf]
    dsimp only
    split
    · exact (((hcancelled _).report _).setJob hn (by simp)).schedule (by simp [Turn.isOf])
    · exact (hcancelled _).setJob hn (by simp)
  · exact Beside.refl n r

theorem beside_expireCalls (n : Nat) (calls : List (Nat × CallResult)) :
    ∀ r : TaskRuntime σ, Beside n r (expireCalls n calls r) := by
  induction calls with
  | nil => exact fun r => .refl n r
  | cons call calls ih =>
      obtain ⟨i, result⟩ := call
      intro r
      unfold expireCalls
      split
      · rename_i hjob
        have hn := mem_running_of_job hjob (by simp)
        split
        · dsimp only
          refine Beside.trans ?_ (ih _)
          exact (((Beside.refl n r).report _).setJob hn (by simp)).schedule (by simp [Turn.isOf])
        · exact ih r
      · exact .refl n r

theorem beside_endCall (r : TaskRuntime σ) (n i : Nat) : Beside n r (r.endCall n i) := by
  unfold endCall
  split
  · rename_i hjob
    have hn := mem_running_of_job hjob (by simp)
    split
    · exact ((Beside.refl n r).setJob hn (by simp)).trans (beside_expireCalls n _ _)
    · exact .refl n r
  · exact .refl n r

theorem beside_expireJob (r : TaskRuntime σ) (n : Nat) : Beside n r (r.expireJob n) := by
  unfold expireJob
  split
  · rename_i hjob
    have hn := mem_running_of_job hjob (by simp)
    exact ((Beside.refl n r).setJob hn (by simp)).schedule (by simp [Turn.isOf])
  · rename_i hjob
    have hn := mem_running_of_job hjob (by simp)
    exact ((Beside.refl n r).setJob hn (by simp)).trans (beside_expireCalls n _ _)
  · exact .refl n r

theorem beside_resume (r : TaskRuntime σ) (n : Nat) : Beside n r (r.resume n) := by
  unfold resume
  split
  · rename_i hjob
    have hn := mem_running_of_job hjob (by simp)
    exact ((Beside.refl n r).setJob hn (by simp)).schedule (by simp [Turn.isOf])
  · exact .refl n r

end TaskRuntime

end WebhookBridge
