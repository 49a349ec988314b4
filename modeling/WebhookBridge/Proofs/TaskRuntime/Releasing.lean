import WebhookBridge.Proofs.TaskRuntime.Answering
import WebhookBridge.Proofs.TaskRuntime.Queueing

/-!
# What listeners take, and which of them return

Every accepted task is taken from the queue once, in order, by one listener and for one job. The listener that takes the
stop mark returns when every task has had its job and every job has ended. But there is one mark, and it is taken by one
listener: any other one waits for ever.

## Contents

* `TaskRuntime.Quiet`: what steps leave of the queue;
* `TaskRuntime.QueueLaw`, `TaskRuntime.queue_lawful`: the law of the queue, in every run;
* `TaskRuntime.waits_for_ever`: listeners that wait when the runtime is closed;
* `TaskRuntime.listeners_released_iff`: which runs release all of their listeners.
-/

namespace WebhookBridge.TaskRuntime

variable {σ : Type} {relay : Relay σ} {r r' r'' : TaskRuntime σ} {n : Nat}

/-! ## The queue -/

/-- A later runtime to which nothing was submitted and which has not been closed: elements may have left the queue at its
    front. -/
structure Quiet (r r' : TaskRuntime σ) : Prop where
  closed : r'.closed = r.closed
  infos : r'.tasks.map (·.info) = r.tasks.map (·.info)
  queue : r'.queue <:+ r.queue

theorem Quiet.refl (r : TaskRuntime σ) : Quiet r r := ⟨rfl, rfl, List.suffix_rfl⟩

theorem Quiet.trans (h : Quiet r r') (h' : Quiet r' r'') : Quiet r r'' :=
  ⟨h'.closed.trans h.closed, h'.infos.trans h.infos, h'.queue.trans h.queue⟩

theorem Beside.quiet (h : Beside n r r') : Quiet r r' := by
  refine ⟨h.closed, h.touches.infos, ?_⟩
  rw [h.touches.queue]

theorem Works.quiet (h : Works n r r') : Quiet r r' := by
  obtain ⟨mid, hmid, rfl | rfl⟩ := h
  · exact hmid.quiet
  · exact hmid.quiet.trans ⟨rfl, rfl, List.suffix_rfl⟩

theorem quiet_drain (queue : List Queued) : ∀ r : TaskRuntime σ, r.queue = queue → Quiet r (drain n queue r) := by
  induction queue with
  | nil =>
      intro r hqueue
      rw [drain]
      refine ⟨rfl, rfl, ?_⟩
      show [] <:+ r.queue
      exact List.nil_suffix
  | cons q rest ih =>
      intro r hqueue
      have hrest : rest <:+ r.queue := by
        rw [hqueue]
        exact List.suffix_cons q rest
      cases q with
      | task t =>
          rw [drain]
          have hnext := ih (({ r with queue := rest }.addJob t n).schedule (.job r.jobs.length)) rfl
          exact ⟨hnext.closed, hnext.infos, hnext.queue.trans hrest⟩
      | stop =>
          rw [drain]
          exact ⟨rfl, rfl, hrest⟩

theorem Queueing.quiet (h : Queueing r) (hstep : Step relay r r') : Quiet r r' := by
  have hspend : ∀ position, Quiet r (r.spend position) := fun position => ⟨rfl, rfl, List.suffix_rfl⟩
  cases hstep with
  | look position n handlers hturn hlooking => exact (hspend position).trans (quiet_drain r.queue _ rfl)
  | start position n job hturn hjob hstate => exact (hspend position).trans (h.start_works hjob hstate).quiet
  | goOn position n job activity hturn hjob hstate => exact (hspend position).trans (h.goOn_works hjob hstate).quiet
  | call position n i hturn => exact (hspend position).trans (beside_makeCall relay _ n i).quiet
  | settled position n i hturn => exact (hspend position).trans (beside_settleCallOf _ n i).quiet
  | idle position turn hturn hlistener => exact hspend position
  | resume n => exact (beside_resume r n).quiet
  | endCall n i => exact (beside_endCall r n i).quiet
  | endCalls n => exact (beside_expireJob r n).quiet
  | aside _ hsame hclosed _ _ _ =>
      refine ⟨hclosed, by rw [hsame.tasks], ?_⟩
      rw [hsame.queue]

theorem Queueing.quiet_steps (h : Queueing r) (hsteps : Steps relay r r') : Quiet r r' := by
  have hboth := hsteps.invariant (P := fun r' => Queueing r' ∧ Quiet r r') ?_ ⟨h, .refl r⟩
  · exact hboth.2
  · intro mid r' hmid hstep
    exact ⟨queueing_step hmid.1 hstep, hmid.2.trans (hmid.1.quiet hstep)⟩

theorem queue_callListener (r : TaskRuntime σ) : r.callListener.queue = r.queue := (sameWork_callListener r).queue

/-- A move adds the task that is accepted by it to the tasks, and nothing else. -/
theorem Queueing.infos (h : Queueing r) {m : Move} (hmoved : Moved relay r m r') :
    r'.tasks.map (·.info) = r.tasks.map (·.info) ++ (r.accepts? m).toList := by
  -- if none is accepted, the tasks are those that were there
  have hnone : r.accepts? m = none → r'.tasks.map (·.info) = r.tasks.map (·.info) →
      r'.tasks.map (·.info) = r.tasks.map (·.info) ++ (r.accepts? m).toList := by
    intro hrefused hinfos
    rw [hrefused, hinfos]
    exact (List.append_nil _).symm
  cases hmoved with
  | accepted info haccepts _ =>
      rw [haccepts, (sameWork_callListener _).tasks]
      show (r.tasks ++ [TaskEntry.mk info none]).map (·.info) = _
      rw [List.map_append]
      rfl
  | refused _ hrefused => exact hnone hrefused rfl
  | closed hclose _ =>
      apply hnone (accepts?_of_quiet (by rw [hclose]; rfl))
      rw [(sameWork_callListener _).tasks]
      rfl
  | again hclose _ => exact hnone (accepts?_of_quiet (by rw [hclose]; rfl)) rfl
  | listened handlers hquiet => exact hnone (accepts?_of_quiet hquiet) rfl
  | steps _ hquiet hsteps => exact hnone (accepts?_of_quiet hquiet) (h.quiet_steps hsteps).infos

/-- The tasks of a run are those that were accepted in it. -/
theorem Queueing.infos_moves (ms : List Move) : ∀ r : TaskRuntime σ, Queueing r →
    (r.moves relay ms).tasks.map (·.info) = r.tasks.map (·.info) ++ accepted relay ms r := by
  induction ms with
  | nil => exact fun r _ => (List.append_nil _).symm
  | cons m ms ih =>
      intro r h
      have hmoved : Moved relay r m (r.move relay m) := moved_move r m
      have hrest := ih (r.move relay m) (queueing_moved h hmoved)
      rw [accepted, ← List.append_assoc, ← h.infos hmoved]
      exact hrest

/-- **The law of the queue**, for a runtime that has accepted some tasks:

    each of them has one job or stands in the queue once, in the order in which they were accepted; what was handed to a job
    stays with it, and a job begins once; an accepted task goes to the end of the queue and a refused one changes nothing;
    the stop mark goes to the end of the queue when an open runtime is closed, and nothing else is ever put there; nothing
    stands behind the mark; and when the listener that has taken it returns, every task has had its job and every job has
    ended. -/
structure QueueLaw (relay : Relay σ) (infos : List TaskInfo) (r : TaskRuntime σ) : Prop where
  tasks : r.tasks.map (·.info) = infos
  ordered : r.jobs.map (·.task) ++ r.queue.filterMap queuedTask? = List.range infos.length
  handed : ∀ m, r.owners <+: (r.move relay m).owners
  begun : ∀ m n, r.HasBegun n → (r.move relay m).HasBegun n
  put : ∀ m info, r.accepts? m = some info → (r.move relay m).queue = r.queue ++ [.task infos.length]
  refused : ∀ m, m.submits = true → r.accepts? m = none → r.move relay m = r
  stopped : r.closed = false → (r.move relay (.act .close)).queue = r.queue ++ [.stop]
  only : ∀ m, r.accepts? m = none → (m = .act .close → r.closed = true) → (r.move relay m).queue <:+ r.queue
  closed : ∀ m, (r.closed = true ∨ m = .act .close) → (r.move relay m).closed = true
  marked : r.queue.count .stop + r.listeners.countP Listener.hasMark = if r.closed then 1 else 0
  behind : ∀ before after, r.queue = before ++ .stop :: after → after = []
  finished : ∀ l ∈ r.listeners, l.state = .done →
    r.jobs.map (·.task) = List.range infos.length ∧ ∀ job ∈ r.jobs, job.isOver = true

/-- **When a listener returns**, every task has had its job, and every job has ended. -/
theorem Queueing.finished (h : Queueing r) {l : Listener} (hl : l ∈ r.listeners) (hdone : l.state = .done) :
    r.jobs.map (·.task) = List.range r.tasks.length ∧ ∀ job ∈ r.jobs, job.isOver = true := by
  obtain ⟨n, hn⟩ := List.getElem?_of_mem hl
  have hstands := h.attends n l (by simp) hn
  rw [hdone] at hstands
  have hqueue : r.queue = [] := h.passed l hl (by simp [Listener.hasMark, hdone])
  have hordered := h.ordered
  rw [hqueue] at hordered
  cases hstands with
  | done hnone => exact ⟨by simpa using hordered, isOver_of_running hnone⟩

/-- An accepted task goes to the end of the queue. -/
theorem queue_of_accepted {m : Move} {info : TaskInfo} (haccepts : r.accepts? m = some info) (hmoved : Moved relay r m r') :
    r'.queue = r.queue ++ [.task r.tasks.length] := by
  have hsubmits := (open_of_accepts? haccepts).2
  cases hmoved with
  | accepted _ _ _ => exact queue_callListener _
  | refused _ hrefused =>
      rw [haccepts] at hrefused
      cases hrefused
  | closed hclose _ =>
      rw [hclose] at hsubmits
      cases hsubmits
  | again hclose _ =>
      rw [hclose] at hsubmits
      cases hsubmits
  | listened _ hquiet =>
      rw [hquiet] at hsubmits
      cases hsubmits
  | steps _ hquiet _ =>
      rw [hquiet] at hsubmits
      cases hsubmits

/-- A refused task changes nothing. -/
theorem same_of_refused {m : Move} (hsubmits : m.submits = true) (hrefused : r.accepts? m = none)
    (hmoved : Moved relay r m r') : r' = r := by
  cases hmoved with
  | accepted info haccepts _ =>
      rw [haccepts] at hrefused
      cases hrefused
  | refused _ _ => rfl
  | closed hclose _ =>
      rw [hclose] at hsubmits
      cases hsubmits
  | again _ _ => rfl
  | listened _ hquiet =>
      rw [hquiet] at hsubmits
      cases hsubmits
  | steps _ hquiet _ =>
      rw [hquiet] at hsubmits
      cases hsubmits

/-- Otherwise elements may leave the queue at its front. -/
theorem Queueing.queue_suffix (h : Queueing r) {m : Move} (hrefused : r.accepts? m = none)
    (hclose : m = .act .close → r.closed = true) (hmoved : Moved relay r m r') : r'.queue <:+ r.queue := by
  cases hmoved with
  | accepted info haccepts _ =>
      rw [haccepts] at hrefused
      cases hrefused
  | refused _ _ => exact List.suffix_rfl
  | closed hm hopen =>
      rw [hclose hm] at hopen
      cases hopen
  | again _ _ => exact List.suffix_rfl
  | listened _ _ => exact List.suffix_rfl
  | steps _ _ hsteps => exact (h.quiet_steps hsteps).queue

theorem Queueing.lawful (h : Queueing r) (relay : Relay σ) : QueueLaw relay (r.tasks.map (·.info)) r where
  tasks := rfl
  ordered := by
    rw [List.length_map]
    exact h.ordered
  handed m := (h.later (moved_move r m)).owners
  begun m := (h.later (moved_move r m)).begun
  put m info haccepts := by
    rw [List.length_map]
    exact queue_of_accepted haccepts (moved_move r m)
  refused m hsubmits hrefused := same_of_refused hsubmits hrefused (moved_move r m)
  stopped hopen := by
    show r.close.queue = _
    rw [close, if_neg (Bool.eq_false_iff.1 hopen), queue_callListener]
    rfl
  only m hrefused hclose := h.queue_suffix hrefused hclose (moved_move r m)
  closed m hclosed := by
    rcases hclosed with hclosed | rfl
    · exact (h.later (moved_move r m)).closed hclosed
    · show r.close.closed = true
      unfold close
      split
      · assumption
      · exact closed_callListener _
  marked := h.marked
  behind := h.behind
  finished l hl hdone := by
    rw [List.length_map]
    exact h.finished hl hdone

/-- **The law of the queue holds in every run**, whatever the handlers of the listeners do. -/
theorem queue_lawful (relay : Relay σ) (capacity : Nat) (s : σ) (ms : List Move) :
    QueueLaw relay (accepted relay ms (new capacity s)) ((new capacity s).moves relay ms) := by
  have hinfos : ((new capacity s).moves relay ms).tasks.map (·.info) = accepted relay ms (new capacity s) :=
    (queueing_new capacity s).infos_moves ms
  have hlaw := (queueing_moves relay capacity s ms).lawful relay
  rw [hinfos] at hlaw
  exact hlaw

/-! ## Listeners -/

/-- A listener that waits goes on waiting as long as nobody calls it. -/
def Waits (r : TaskRuntime σ) (n : Nat) : Prop := ∃ l, r.listeners[n]? = some l ∧ l.state = .waiting

theorem waits_endJob (h : r.Waits n) (j : Nat) : (r.endJob j).Waits n := by
  obtain ⟨l, hl, hstate⟩ := h
  refine ⟨l.settled (r.endJob j).running, ?_, ?_⟩
  · rw [listeners_endJob, List.getElem?_map, hl]
    rfl
  · rw [Listener.settled, hstate]
    exact hstate

theorem Beside.waits {j : Nat} (hbeside : Beside j r r') (h : r.Waits n) : r'.Waits n := by
  rw [Waits, hbeside.listeners]
  exact h

theorem Works.waits {j : Nat} (hworks : Works j r r') (h : r.Waits n) : r'.Waits n := by
  obtain ⟨mid, hmid, rfl | rfl⟩ := hworks
  · exact hmid.waits h
  · exact waits_endJob (hmid.waits h) j

theorem waits_setListener {m : Nat} (hm : n ≠ m) (h : r.Waits n) (state : ListenerState) :
    (r.setListener m state).Waits n := by
  obtain ⟨l, hl, hstate⟩ := h
  exact ⟨l, (getElem?_setListener_ne hm state).trans hl, hstate⟩

theorem waits_drain {m : Nat} (hm : n ≠ m) (queue : List Queued) :
    ∀ r : TaskRuntime σ, r.Waits n → (drain m queue r).Waits n := by
  induction queue with
  | nil =>
      intro r h
      rw [drain]
      exact waits_setListener hm h .waiting
  | cons q rest ih =>
      intro r h
      cases q with
      | task t =>
          rw [drain]
          exact ih _ h
      | stop =>
          rw [drain]
          exact waits_setListener (r := { r with queue := rest }) hm h _

/-- **A step calls nobody.** -/
theorem Queueing.waits_step (h : Queueing r) (hwaits : r.Waits n) (hstep : Step relay r r') : r'.Waits n := by
  cases hstep with
  | look position m handlers hturn hlooking =>
      have hm : n ≠ m := by
        rintro rfl
        obtain ⟨l, hl, hstate⟩ := hwaits
        rw [hlooking] at hl
        cases hl
        cases hstate
      exact waits_drain hm r.queue (r.spend position) hwaits
  | start position j job hturn hjob hstate => exact (h.start_works hjob hstate).waits (r := r.spend position) hwaits
  | goOn position j job activity hturn hjob hstate =>
      exact (h.goOn_works hjob hstate).waits (r := r.spend position) hwaits
  | call position j i hturn => exact (beside_makeCall relay _ j i).waits (r := r.spend position) hwaits
  | settled position j i hturn => exact (beside_settleCallOf _ j i).waits (r := r.spend position) hwaits
  | idle position turn hturn hlistener => exact hwaits
  | resume j => exact (beside_resume r j).waits hwaits
  | endCall j i => exact (beside_endCall r j i).waits hwaits
  | endCalls j => exact (beside_expireJob r j).waits hwaits
  | aside _ _ _ _ hlisteners _ =>
      rw [Waits, hlisteners]
      exact hwaits

/-- **Whoever waits when the runtime has been closed waits for ever.** -/
theorem waits_for_ever (hclosed : r.closed = true) (h : Queueing r) (hwaits : r.Waits n) (ms : List Move) :
    (r.moves relay ms).Waits n := by
  have hkept : ∀ r m r', (Queueing r ∧ r.closed = true ∧ r.Waits n) → Moved relay r m r' →
      (Queueing r' ∧ r'.closed = true ∧ r'.Waits n) := by
    rintro r m r' ⟨h, hclosed, hwaits⟩ hmoved
    refine ⟨queueing_moved h hmoved, (h.later hmoved).closed hclosed, ?_⟩
    cases hmoved with
    | accepted info _ hopen =>
        rw [hclosed] at hopen
        cases hopen
    | refused _ _ => exact hwaits
    | closed _ hopen =>
        rw [hclosed] at hopen
        cases hopen
    | again _ _ => exact hwaits
    | listened handlers _ =>
        obtain ⟨l, hl, hstate⟩ := hwaits
        refine ⟨l, ?_, hstate⟩
        show (r.listeners ++ [Listener.mk handlers .looking])[n]? = some l
        rw [List.getElem?_append_left (List.getElem?_eq_some_iff.1 hl).1, hl]
    | steps _ _ hsteps =>
        have hboth := hsteps.invariant (P := fun r' => Queueing r' ∧ r'.Waits n) ?_ ⟨h, hwaits⟩
        · exact hboth.2
        · intro mid r' hmid hstep
          exact ⟨queueing_step hmid.1 hstep, hmid.1.waits_step hmid.2 hstep⟩
  exact (moves_invariant hkept ms r ⟨h, hclosed, hwaits⟩).2.2

/-- **A runtime at rest after its closing**: no turn can be taken and no job runs. -/
structure AtRest (r : TaskRuntime σ) : Prop where
  closed : r.closed = true
  turns : r.turns = []
  jobs : ∀ job ∈ r.jobs, job.isOver = true

theorem AtRest.running (h : r.AtRest) : r.running = [] := by
  apply List.eq_nil_iff_forall_not_mem.2
  intro j hj
  obtain ⟨job, hjob, hover⟩ := mem_running.1 hj
  rw [h.jobs job (List.mem_of_getElem? hjob)] at hover
  cases hover

/-- At rest every listener waits or has returned. -/
theorem Queueing.waiting_or_done (h : Queueing r) (hrest : r.AtRest) {l : Listener} (hl : r.listeners[n]? = some l) :
    (l.state = .waiting ∧ n ∈ r.waiting) ∨ l.state = .done := by
  have hstands := h.attends n l (by simp) hl
  generalize l.state = state at hstands ⊢
  cases hstands with
  | looking hturn =>
      rw [hrest.turns] at hturn
      exact absurd hturn (by simp)
  | waiting hwaits => exact Or.inl ⟨rfl, hwaits⟩
  | finishing jobs _ hsome =>
      obtain ⟨j, -, hj⟩ := hsome
      rw [hrest.running] at hj
      exact absurd hj (by simp)
  | done _ => exact Or.inr rfl

/-- At rest the stop mark has been taken if there is a listener. -/
theorem Queueing.queue_eq_nil (h : Queueing r) (hrest : r.AtRest) (hsome : r.listeners ≠ []) : r.queue = [] := by
  by_cases hwaiting : r.waiting = []
  · -- nobody waits: the first listener has returned, and with it the mark has gone
    obtain ⟨l, hl⟩ := List.exists_mem_of_ne_nil _ hsome
    obtain ⟨n, hn⟩ := List.getElem?_of_mem hl
    rcases h.waiting_or_done hrest hn with ⟨-, hmem⟩ | hdone
    · rw [hwaiting] at hmem
      exact absurd hmem (by simp)
    · exact h.passed l hl (by simp [Listener.hasMark, hdone])
  · by_cases hqueue : r.queue = []
    · exact hqueue
    · -- somebody who waits while something stands in the queue has been called
      obtain ⟨l, hl, hlooking⟩ := h.called hqueue hwaiting
      obtain ⟨n, hn⟩ := List.getElem?_of_mem hl
      rcases h.waiting_or_done hrest hn with ⟨hstate, -⟩ | hstate
      · rw [hlooking] at hstate
        cases hstate
      · rw [hlooking] at hstate
        cases hstate

/-- **Which runs release their listeners.** However many listeners there are and whenever they start: in a run that is at
    rest after its closing the queue is empty and exactly one listener has returned, if there is any. All others wait, and
    will wait whatever happens, so that all have returned exactly if there is at most one. -/
theorem listeners_released_iff (relay : Relay σ) (capacity : Nat) (s : σ) (ms : List Move)
    (hrest : ((new capacity s).moves relay ms).AtRest) :
    ((∀ l ∈ ((new capacity s).moves relay ms).listeners, l.state = .done) ↔
        ((new capacity s).moves relay ms).listeners.length ≤ 1) ∧
      (((new capacity s).moves relay ms).listeners ≠ [] → ((new capacity s).moves relay ms).queue = [] ∧
        ((new capacity s).moves relay ms).listeners.countP (fun l => l.state = .done) = 1) ∧
      ∀ n l, ((new capacity s).moves relay ms).listeners[n]? = some l → l.state ≠ .done →
        ∀ later, (((new capacity s).moves relay ms).moves relay later).Waits n := by
  have h := queueing_moves relay capacity s ms
  generalize (new capacity s).moves relay ms = r at h hrest
  -- those who have taken the mark have returned
  have hmark : ∀ l ∈ r.listeners, l.hasMark = true ↔ l.state = .done := by
    intro l hl
    obtain ⟨n, hn⟩ := List.getElem?_of_mem hl
    rcases h.waiting_or_done hrest hn with ⟨hstate, -⟩ | hstate
    · simp [Listener.hasMark, hstate]
    · simp [Listener.hasMark, hstate]
  have hone : r.listeners ≠ [] → r.queue = [] ∧ r.listeners.countP (fun l => l.state = .done) = 1 := by
    intro hsome
    have hqueue := h.queue_eq_nil hrest hsome
    have hmarked := h.marked
    rw [hqueue, hrest.closed, List.count_nil, Nat.zero_add, if_pos rfl] at hmarked
    refine ⟨hqueue, ?_⟩
    rw [← hmarked]
    apply List.countP_congr
    intro l hl
    rw [decide_eq_true_iff, hmark l hl]
  refine ⟨⟨?_, ?_⟩, hone, ?_⟩
  · intro hall
    by_cases hsome : r.listeners = []
    · rw [hsome]
      exact Nat.zero_le 1
    · have hcount := (hone hsome).2
      rw [List.countP_eq_length.2 (by simpa using hall)] at hcount
      omega
  · intro hlength l hl
    have hsome : r.listeners ≠ [] := List.ne_nil_of_mem hl
    have hpos := List.length_pos_iff.2 hsome
    have hcount := (hone hsome).2
    have hfull : r.listeners.countP (fun l => l.state = .done) = r.listeners.length := by omega
    simpa using List.countP_eq_length.1 hfull l hl
  · intro n l hl hnot later
    rcases h.waiting_or_done hrest hl with ⟨hstate, -⟩ | hdone
    · exact waits_for_ever hrest.closed h ⟨l, hl, hstate⟩ later
    · exact absurd hdone hnot

/-- One listener starts, the runtime is closed, and the listener looks into the queue. -/
def oneListener : List Move := [.listen fun _ => none, .act .close, .act (.turn 0)]

theorem listeners_released_iff_one :
    ((new 1 []).moves (documentRelay []) oneListener).AtRest ∧
    ∀ l ∈ ((new 1 []).moves (documentRelay []) oneListener).listeners, l.state = .done := by
  have hrest : ((new 1 []).moves (documentRelay []) oneListener).AtRest := by
    refine ⟨rfl, rfl, ?_⟩
    intro job hjob
    cases hjob
  exact ⟨hrest, (listeners_released_iff _ 1 [] oneListener hrest).1.2 (by decide)⟩

/-- The same with two listeners, which look into the queue one after the other. -/
def twoListeners : List Move :=
  [.listen fun _ => none, .listen fun _ => none, .act .close, .act (.turn 0), .act (.turn 0)]

/-- The second of two listeners waits at the queue of a closed runtime in which nothing happens any more. -/
theorem second_of_twoListeners_waits :
    ((new 1 []).moves (documentRelay []) twoListeners).closed = true ∧
    ((new 1 []).moves (documentRelay []) twoListeners).turns = [] ∧
    ((new 1 []).moves (documentRelay []) twoListeners).running = [] ∧
    ((new 1 []).moves (documentRelay []) twoListeners).queue = [] ∧
    ((new 1 []).moves (documentRelay []) twoListeners).listeners.map (·.state) = [.done, .waiting] := by
  decide +kernel

end WebhookBridge.TaskRuntime
