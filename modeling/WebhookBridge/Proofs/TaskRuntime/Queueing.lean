import WebhookBridge.Proofs.TaskRuntime.Order
import WebhookBridge.Proofs.TaskRuntime.Steps
import WebhookBridge.Proofs.TaskRuntime.Work

/-!
# The queue and those who wait at it

Tasks are taken from the queue in the order in which they were submitted, each for one job. Behind the last of them stands
one stop mark from the moment when the runtime is closed until a listener takes it, so that this listener comes to its end
only after every task has got its job and every job has ended.

## Contents

* `Listener.hasMark`, `TaskRuntime.Attends`: who has taken the stop mark, and how a listener stands;
* `TaskRuntime.QueueFits`, `TaskRuntime.Queueing`: the invariant;
* `TaskRuntime.queueing_drain`, `Queueing.endJob`, `Queueing.beside`: what listeners and jobs do keeps it;
* `TaskRuntime.queueing_moved`, `Queueing.later`, `TaskRuntime.queueing_moves`: one move, and whole runs.
-/

namespace WebhookBridge

/-- Whether a listener has taken the stop mark. -/
def Listener.hasMark (l : Listener) : Bool :=
  match l.state with
  | .finishing _ => true
  | .done => true
  | _ => false

theorem Listener.hasMark_settled (running : List Nat) (l : Listener) : (l.settled running).hasMark = l.hasMark := by
  obtain ⟨handlers, state⟩ := l
  cases state with
  | finishing jobs =>
      simp only [settled]
      split
      · rfl
      · rfl
  | _ => rfl

namespace TaskRuntime

variable {σ : Type} {r r' : TaskRuntime σ} {n : Nat}

/-! ## The invariant -/

/-- **How a listener stands**: one that is about to look into the queue has a turn, one that waits is among those who are
    called, one behind the stop mark waits for all jobs that run, of which there are some, and when one has returned no job
    runs any more. -/
inductive Attends (r : TaskRuntime σ) (n : Nat) : ListenerState → Prop
  | looking (hturn : Turn.listener n ∈ r.turns) : Attends r n .looking
  | waiting (hwaits : n ∈ r.waiting) : Attends r n .waiting
  | finishing (jobs : List Nat) (hall : ∀ j ∈ r.running, j ∈ jobs) (hsome : ∃ j ∈ jobs, j ∈ r.running) :
      Attends r n (.finishing jobs)
  | done (hnone : r.running = []) : Attends r n .done

/-- How a listener stands outlasts what takes nothing away from it. -/
theorem Attends.mono {state : ListenerState} (h : Attends r n state)
    (hturns : Turn.listener n ∈ r.turns → Turn.listener n ∈ r'.turns) (hwaiting : n ∈ r.waiting → n ∈ r'.waiting)
    (hrunning : r'.running = r.running) : Attends r' n state := by
  cases h with
  | looking hturn => exact .looking (hturns hturn)
  | waiting hwaits => exact .waiting (hwaiting hwaits)
  | finishing jobs hall hsome =>
      refine .finishing jobs ?_ ?_
      · rw [hrunning]
        exact hall
      · rw [hrunning]
        exact hsome
  | done hnone => exact .done (hrunning.trans hnone)

/-- **The queue and the listeners**, while one of them may be busy with the queue: tasks get their jobs in order, there is one
    stop mark if the runtime is closed, in the queue or with a listener, nothing stands behind it, and all listeners but the
    busy one stand as they should. -/
structure QueueFits (busy : Option Nat) (r : TaskRuntime σ) : Prop where
  ordered : r.jobs.map (·.task) ++ r.queue.filterMap queuedTask? = List.range r.tasks.length
  marked : r.queue.count .stop + r.listeners.countP Listener.hasMark = if r.closed then 1 else 0
  behind : ∀ before after, r.queue = before ++ .stop :: after → after = []
  passed : ∀ l ∈ r.listeners, l.hasMark = true → r.queue = []
  attends : ∀ m l, busy ≠ some m → r.listeners[m]? = some l → Attends r m l.state
  waits : ∀ m, busy ≠ some m → m ∈ r.waiting → ∃ l, r.listeners[m]? = some l ∧ l.state = .waiting
  nodup : r.waiting.Nodup

/-- **The invariant of the queue**: nobody waits for a task while one stands in the queue, unless somebody else is about to
    look into it. -/
structure Queueing (r : TaskRuntime σ) : Prop extends QueueFits none r where
  called : r.queue ≠ [] → r.waiting ≠ [] → ∃ l ∈ r.listeners, l.state = .looking

theorem queueing_new (capacity : Nat) (s : σ) : Queueing (new capacity s) where
  ordered := rfl
  marked := rfl
  behind before after h := by simp [new] at h
  passed l hl := by simp [new] at hl
  attends m l _ hl := by simp [new] at hl
  waits m _ hm := by simp [new] at hm
  nodup := List.nodup_nil
  called h := absurd rfl h

/-- As long as the runtime is open there is no stop mark. -/
theorem QueueFits.unmarked {busy : Option Nat} (h : QueueFits busy r) (hopen : r.closed = false) :
    Queued.stop ∉ r.queue ∧ ∀ l ∈ r.listeners, l.hasMark ≠ true := by
  have hmarked := h.marked
  rw [hopen, if_neg (by simp)] at hmarked
  refine ⟨?_, ?_⟩
  · rw [← List.count_eq_zero]
    omega
  · rw [← List.countP_eq_zero]
    omega

/-- A job is that of the task at its own position. -/
theorem QueueFits.task_eq {busy : Option Nat} (h : QueueFits busy r) {job : Job} (hjob : r.jobs[n]? = some job) :
    job.task = n := (Ordered.task_eq h.ordered hjob).1

/-! ## Listeners change -/

/-- One listener changes, and with it the number of those who have taken the stop mark. -/
theorem countP_hasMark_modify {listeners : List Listener} {l : Listener} (hl : listeners[n]? = some l)
    (f : Listener → Listener) :
    (listeners.modify n f).countP Listener.hasMark + (if l.hasMark then 1 else 0)
      = listeners.countP Listener.hasMark + if (f l).hasMark then 1 else 0 := by
  obtain ⟨hlt, hget⟩ := List.getElem?_eq_some_iff.1 hl
  obtain ⟨before, l', after, hsplit, hlength, hmodify⟩ := List.exists_of_modify f hlt
  have hsame : l' = l := by
    subst hsplit
    simpa [← hlength] using hget
  subst hsame
  rw [hmodify, hsplit, List.countP_append, List.countP_append, List.countP_cons, List.countP_cons]
  omega

theorem getElem?_setListener_self {l : Listener} (hl : r.listeners[n]? = some l) (state : ListenerState) :
    (r.setListener n state).listeners[n]? = some { l with state := state } := by
  simp [setListener, hl]

theorem getElem?_setListener_ne {m : Nat} (hm : m ≠ n) (state : ListenerState) :
    (r.setListener n state).listeners[m]? = r.listeners[m]? := by
  simp [setListener, Ne.symm hm]

/-- **The first listener that waits is called**, and somebody is about to look into the queue if anybody has waited. -/
theorem queueing_callListener (h : QueueFits none r) : Queueing r.callListener := by
  unfold callListener
  split
  · rename_i hwaiting
    exact ⟨h, fun _ hsome => absurd hwaiting hsome⟩
  · rename_i n rest hwaiting
    obtain ⟨l, hl, hstate⟩ := h.waits n (by simp) (by simp [hwaiting])
    have hnodup := h.nodup
    rw [hwaiting, List.nodup_cons] at hnodup
    generalize hlisteners : (r.listeners.modify n fun l => if l.state = .waiting then { l with state := .looking } else l)
      = listeners
    have hself : listeners[n]? = some { l with state := .looking } := by
      rw [← hlisteners]
      simp [hl, hstate]
    have hothers : ∀ m, m ≠ n → listeners[m]? = r.listeners[m]? := by
      intro m hm
      rw [← hlisteners]
      simp [Ne.symm hm]
    have hcount : listeners.countP Listener.hasMark = r.listeners.countP Listener.hasMark := by
      have hmodify := countP_hasMark_modify hl fun l => if l.state = .waiting then { l with state := .looking } else l
      rw [hlisteners, if_pos hstate, if_neg (by simp [Listener.hasMark, hstate]), if_neg (by simp [Listener.hasMark])]
        at hmodify
      exact hmodify
    have hcalled : ({ r with waiting := rest }.wakeListener n).schedule (.listener n)
        = { r with waiting := rest, listeners := listeners, turns := r.turns ++ [.listener n] } := by
      rw [← hlisteners]
      rfl
    rw [hcalled]
    refine ⟨⟨h.ordered, ?_, h.behind, ?_, ?_, ?_, hnodup.2⟩, ?_⟩
    · rw [hcount]
      exact h.marked
    · intro l' hl' hmark
      obtain ⟨m, hm⟩ := List.getElem?_of_mem hl'
      by_cases hmn : m = n
      · rw [hmn, hself] at hm
        cases hm
        cases hmark
      · rw [hothers m hmn] at hm
        exact h.passed l' (List.mem_of_getElem? hm) hmark
    · intro m l' hm hl'
      by_cases hmn : m = n
      · rw [hmn, hself] at hl'
        cases hl'
        rw [hmn]
        exact .looking (List.mem_append_right _ (List.mem_singleton.2 rfl))
      · rw [hothers m hmn] at hl'
        refine (h.attends m l' hm hl').mono ?_ ?_ rfl
        · exact fun hturn => List.mem_append_left _ hturn
        · intro hwaits
          rw [hwaiting] at hwaits
          exact (List.mem_cons.1 hwaits).resolve_left hmn
    · intro m hm hrest
      have hmn : m ≠ n := by
        intro he
        subst he
        exact hnodup.1 hrest
      obtain ⟨l', hl', hstate'⟩ := h.waits m hm (by rw [hwaiting]; exact List.mem_cons_of_mem _ hrest)
      exact ⟨l', (hothers m hmn).trans hl', hstate'⟩
    · exact fun _ _ => ⟨_, List.mem_of_getElem? hself, rfl⟩

/-! ## Operations -/

/-- A task that is submitted to an open runtime waits behind the others. -/
theorem QueueFits.addTask (h : QueueFits none r) (hopen : r.closed = false) (info : TaskInfo) :
    QueueFits none ((r.addTask info).enqueue (.task r.tasks.length)) := by
  obtain ⟨hqueue, hlisteners⟩ := h.unmarked hopen
  refine ⟨Ordered.addTask h.ordered info, ?_, ?_, ?_, ?_, h.waits, h.nodup⟩
  · show (r.queue ++ [Queued.task r.tasks.length]).count .stop + _ = _
    rw [List.count_append, List.count_singleton, if_neg (by simp), Nat.add_zero]
    exact h.marked
  · intro before after hsplit
    have hmem : Queued.stop ∈ r.queue ++ [Queued.task r.tasks.length] := by
      rw [show r.queue ++ _ = _ from hsplit]
      simp
    rcases List.mem_append.1 hmem with hmem | hmem
    · exact absurd hmem hqueue
    · simp at hmem
  · exact fun l hl hmark => absurd hmark (hlisteners l hl)
  · intro m l hm hl
    exact (h.attends m l hm hl).mono id id rfl

/-- The stop mark goes behind all tasks. -/
theorem QueueFits.addStop (h : QueueFits none r) (hopen : r.closed = false) :
    QueueFits none ({ r with closed := true }.enqueue .stop) := by
  obtain ⟨hqueue, hlisteners⟩ := h.unmarked hopen
  refine ⟨Ordered.addStop h.ordered, ?_, ?_, ?_, ?_, h.waits, h.nodup⟩
  · show (r.queue ++ [Queued.stop]).count .stop + r.listeners.countP Listener.hasMark = 1
    have hmarked := h.marked
    rw [hopen, if_neg (by simp)] at hmarked
    rw [List.count_append, List.count_singleton_self]
    omega
  · intro before after hsplit
    have hsplit' : r.queue ++ [Queued.stop] = before ++ .stop :: after := hsplit
    -- a mark with something behind it would have been there before
    rcases List.eq_nil_or_concat after with hnil | ⟨rest, last, rfl⟩
    · exact hnil
    · have hmoved : r.queue ++ [Queued.stop] = (before ++ .stop :: rest) ++ [last] := by simpa using hsplit'
      obtain ⟨hbefore, -⟩ := List.append_inj' hmoved rfl
      exact absurd (by simp [hbefore]) hqueue
  · exact fun l hl hmark => absurd hmark (hlisteners l hl)
  · intro m l hm hl
    exact (h.attends m l hm hl).mono id id rfl

/-- A listener that starts has a turn. -/
theorem queueing_listen (h : Queueing r) (handlers : Handlers) : Queueing (r.listen handlers) := by
  have hold : ∀ m, m < r.listeners.length →
      (r.listeners ++ [Listener.mk handlers .looking])[m]? = r.listeners[m]? :=
    fun m hm => List.getElem?_append_left hm
  refine ⟨⟨h.ordered, ?_, h.behind, ?_, ?_, ?_, h.nodup⟩, ?_⟩
  · show _ + (r.listeners ++ [Listener.mk handlers .looking]).countP Listener.hasMark = _
    rw [List.countP_append, List.countP_singleton, if_neg (by simp [Listener.hasMark]), Nat.add_zero]
    exact h.marked
  · intro l hl hmark
    rcases List.mem_append.1 hl with hl | hl
    · exact h.passed l hl hmark
    · rw [List.mem_singleton.1 hl] at hmark
      cases hmark
  · intro m l hm hl
    by_cases hlt : m < r.listeners.length
    · refine (h.attends m l hm ((hold m hlt).symm.trans hl)).mono ?_ id rfl
      exact fun hturn => List.mem_append_left _ hturn
    · have hl' : (r.listeners ++ [Listener.mk handlers .looking])[m]? = some l := hl
      rw [List.getElem?_append_right (Nat.le_of_not_lt hlt), List.getElem?_singleton] at hl'
      split at hl'
      · rename_i hzero
        cases hl'
        have hm : m = r.listeners.length := by omega
        rw [hm]
        exact .looking (List.mem_append_right _ (List.mem_singleton.2 rfl))
      · cases hl'
  · intro m hbusy hm
    obtain ⟨l, hl, hstate⟩ := h.waits m hbusy hm
    exact ⟨l, (hold m (List.getElem?_eq_some_iff.1 hl).1).trans hl, hstate⟩
  · intro hqueue hwaiting
    obtain ⟨l, hl, hstate⟩ := h.called hqueue hwaiting
    exact ⟨l, List.mem_append_left _ hl, hstate⟩

/-! ## A listener at the queue -/

/-- **The busy listener leaves an empty queue**, in a state in which it stands as it should. -/
theorem queueing_settle (h : QueueFits (some n) r) {l : Listener} (hl : r.listeners[n]? = some l)
    (htasks : r.queue.filterMap queuedTask? = []) {state : ListenerState} {waiting : List Nat}
    (hmarked : (r.setListener n state).listeners.countP Listener.hasMark = if r.closed then 1 else 0)
    (hattends : Attends { r with queue := [], waiting := waiting } n state)
    (hothers : ∀ m, m ≠ n → (m ∈ waiting ↔ m ∈ r.waiting)) (hself : n ∈ waiting → state = .waiting)
    (hnodup : waiting.Nodup) : Queueing ({ r with queue := [], waiting := waiting }.setListener n state) := by
  refine ⟨⟨?_, ?_, by simp [setListener], fun _ _ _ => rfl, ?_, ?_, hnodup⟩, fun hsome => absurd rfl hsome⟩
  · have hordered := h.ordered
    rw [htasks] at hordered
    exact hordered
  · show 0 + (r.setListener n state).listeners.countP Listener.hasMark = _
    rw [Nat.zero_add]
    exact hmarked
  · intro m l' _ hl'
    by_cases hmn : m = n
    · subst hmn
      rw [getElem?_setListener_self (r := { r with queue := [], waiting := waiting }) hl] at hl'
      cases hl'
      exact hattends.mono id id rfl
    · rw [getElem?_setListener_ne hmn] at hl'
      exact (h.attends m l' (by simp [Ne.symm hmn]) hl').mono id (hothers m hmn).2 rfl
  · intro m _ hm
    by_cases hmn : m = n
    · subst hmn
      exact ⟨_, getElem?_setListener_self (r := { r with queue := [], waiting := waiting }) hl state, hself hm⟩
    · rw [getElem?_setListener_ne hmn]
      exact h.waits m (by simp [Ne.symm hmn]) ((hothers m hmn).1 hm)

/-- The listener starts a job for the task at the front of the queue. -/
theorem QueueFits.addJob (h : QueueFits (some n) r) {t : Nat} {rest : List Queued} (hqueue : r.queue = .task t :: rest) :
    QueueFits (some n) (({ r with queue := rest }.addJob t n).schedule (.job r.jobs.length)) := by
  -- with a task in the queue, nobody has taken the stop mark
  have hnone : ∀ l ∈ r.listeners, l.hasMark ≠ true := by
    intro l hl hmark
    rw [h.passed l hl hmark] at hqueue
    cases hqueue
  refine ⟨?_, ?_, ?_, ?_, ?_, h.waits, h.nodup⟩
  · have hordered := h.ordered
    rw [hqueue] at hordered
    show (r.jobs ++ [Job.mk t n .starting]).map (·.task) ++ rest.filterMap queuedTask? = _
    rw [List.map_append, List.append_assoc]
    exact hordered
  · have hmarked := h.marked
    rw [hqueue, List.count_cons_of_ne (by simp)] at hmarked
    exact hmarked
  · intro before after hsplit
    refine h.behind (.task t :: before) after ?_
    rw [hqueue, show rest = _ from hsplit]
    rfl
  · exact fun l hl hmark => absurd hmark (hnone l hl)
  · intro m l hm hl
    have hstands := h.attends m l hm hl
    have hunmarked := hnone l (List.mem_of_getElem? hl)
    generalize hstate : l.state = state at hstands
    cases hstands with
    | looking hturn => exact .looking (List.mem_append_left _ hturn)
    | waiting hwaits => exact .waiting hwaits
    | finishing jobs _ _ => exact absurd (by simp [Listener.hasMark, hstate]) hunmarked
    | done _ => exact absurd (by simp [Listener.hasMark, hstate]) hunmarked

/-- **A listener takes what stands in the queue** up to its end or to the stop mark. -/
theorem queueing_drain {l : Listener} (hlooking : l.state = .looking) (queue : List Queued) :
    ∀ r : TaskRuntime σ, r.queue = queue → r.listeners[n]? = some l → n ∉ r.waiting → QueueFits (some n) r →
      Queueing (drain n queue r) := by
  have hbefore : l.hasMark = false := by simp [Listener.hasMark, hlooking]
  -- the listener has not had the mark, so that its new state decides who has it
  have hcount : ∀ r : TaskRuntime σ, r.listeners[n]? = some l → ∀ state,
      (r.setListener n state).listeners.countP Listener.hasMark
        = r.listeners.countP Listener.hasMark + if ({ l with state := state } : Listener).hasMark then 1 else 0 := by
    intro r hl state
    have hmodify := countP_hasMark_modify hl fun l => { l with state := state }
    rw [hbefore] at hmodify
    exact hmodify
  induction queue with
  | nil =>
      intro r hqueue hl hout h
      rw [drain]
      have hmarked := h.marked
      rw [hqueue, List.count_nil, Nat.zero_add] at hmarked
      refine queueing_settle h hl (by rw [hqueue]; rfl) ?_ ?_ ?_ (fun _ => rfl) ?_
      · rw [hcount r hl, hmarked]
        rfl
      · exact .waiting (List.mem_append_right _ (List.mem_singleton.2 rfl))
      · intro m hmn
        simp [hmn]
      · refine List.nodup_append.2 ⟨h.nodup, by simp, ?_⟩
        intro m hm k hk he
        rw [he, List.mem_singleton.1 hk] at hm
        exact hout hm
  | cons q rest ih =>
      intro r hqueue hl hout h
      cases q with
      | task t =>
          rw [drain]
          exact ih _ rfl hl hout (h.addJob hqueue)
      | stop =>
          rw [drain]
          have hrest : rest = [] := h.behind [] rest hqueue
          subst hrest
          have hmarked := h.marked
          rw [hqueue, List.count_singleton_self] at hmarked
          refine queueing_settle h hl (by rw [hqueue]; rfl) ?_ ?_ (fun _ _ => Iff.rfl) (fun hn => absurd hn hout) h.nodup
          · rw [hcount r hl, ← hmarked, Nat.add_comm]
            have hafter : ∀ state, state = .done ∨ (∃ jobs, state = .finishing jobs) →
                ({ l with state := state } : Listener).hasMark = true := by
              rintro state (rfl | ⟨jobs, rfl⟩)
              · rfl
              · rfl
            rw [if_pos (hafter _ ?_)]
            split
            · exact Or.inl rfl
            · exact Or.inr ⟨_, rfl⟩
          · -- it returns at once if no job runs, and otherwise waits for those that do
            show Attends _ n (if r.running.isEmpty then .done else .finishing r.running)
            split
            · rename_i hnone
              exact .done (List.isEmpty_iff.1 hnone)
            · rename_i hsome
              obtain ⟨j, hj⟩ := List.exists_mem_of_ne_nil r.running (fun hnil => hsome (List.isEmpty_iff.2 hnil))
              exact .finishing r.running (fun _ hk => hk) ⟨j, hj, hj⟩

/-! ## Jobs -/

/-- **A job that goes on** leaves everything as it was. -/
theorem Queueing.beside (h : Queueing r) (hbeside : Beside n r r') : Queueing r' := by
  have hturns : ∀ m, Turn.listener m ∈ r.turns → Turn.listener m ∈ r'.turns := by
    intro m hturn
    have hmem : Turn.listener m ∈ r.turns.filter fun turn => !turn.isOf n := List.mem_filter.2 ⟨hturn, rfl⟩
    rw [← hbeside.turns] at hmem
    exact (List.mem_filter.1 hmem).1
  refine ⟨⟨?_, ?_, ?_, ?_, ?_, ?_, ?_⟩, ?_⟩
  · rw [hbeside.touches.map_task, hbeside.touches.queue, hbeside.touches.length_tasks]
    exact h.ordered
  · rw [hbeside.touches.queue, hbeside.listeners, hbeside.closed]
    exact h.marked
  · rw [hbeside.touches.queue]
    exact h.behind
  · rw [hbeside.touches.queue, hbeside.listeners]
    exact h.passed
  · intro m l hm hl
    rw [hbeside.listeners] at hl
    refine (h.attends m l hm hl).mono (hturns m) ?_ hbeside.running
    rw [hbeside.waiting]
    exact id
  · rw [hbeside.waiting, hbeside.listeners]
    exact h.waits
  · rw [hbeside.waiting]
    exact h.nodup
  · rw [hbeside.touches.queue, hbeside.waiting, hbeside.listeners]
    exact h.called

/-- **A job that ends** may be the last one that a listener behind the stop mark has waited for. -/
theorem Queueing.endJob (h : Queueing r) (n : Nat) : Queueing (r.endJob n) := by
  have hrunning := running_endJob r n
  have hget : ∀ (m : Nat) (l' : Listener), (r.endJob n).listeners[m]? = some l' →
      ∃ l : Listener, r.listeners[m]? = some l ∧ l' = l.settled (r.endJob n).running := by
    intro m l' hl'
    rw [listeners_endJob, List.getElem?_map] at hl'
    obtain ⟨l, hl, he⟩ := Option.map_eq_some_iff.1 hl'
    exact ⟨l, hl, he.symm⟩
  refine ⟨⟨?_, ?_, h.behind, ?_, ?_, ?_, h.nodup⟩, ?_⟩
  · rw [(touchesOnly_endJob r n).map_task]
    exact h.ordered
  · have hcount : (r.endJob n).listeners.countP Listener.hasMark = r.listeners.countP Listener.hasMark := by
      rw [listeners_endJob, List.countP_map]
      apply List.countP_congr
      intro l _
      rw [Function.comp_apply, Listener.hasMark_settled]
    rw [hcount]
    exact h.marked
  · intro l' hl' hmark
    rw [listeners_endJob] at hl'
    obtain ⟨l, hl, rfl⟩ := List.mem_map.1 hl'
    rw [Listener.hasMark_settled] at hmark
    exact h.passed l hl hmark
  · intro m l' hm hl'
    obtain ⟨l, hl, rfl⟩ := hget m l' hl'
    have hstands := h.attends m l hm hl
    obtain ⟨handlers, state⟩ := l
    cases hstands with
    | looking hturn => exact .looking hturn
    | waiting hwaits => exact .waiting hwaits
    | done hnone =>
        refine .done ?_
        rw [hrunning, hnone]
        rfl
    | finishing jobs hall hsome =>
        have hall' : ∀ j ∈ (r.endJob n).running, j ∈ jobs := by
          intro j hj
          rw [hrunning] at hj
          exact hall j (List.mem_filter.1 hj).1
        simp only [Listener.settled]
        split
        · rename_i hany
          obtain ⟨j, hj, hcontains⟩ := List.any_eq_true.1 hany
          exact .finishing jobs hall' ⟨j, hj, List.contains_iff_mem.1 hcontains⟩
        · rename_i hnone
          refine .done (List.eq_nil_iff_forall_not_mem.2 ?_)
          intro j hj
          exact hnone (List.any_eq_true.2 ⟨j, hall' j hj, List.contains_iff_mem.2 hj⟩)
  · intro m hm hwaits
    obtain ⟨l, hl, hstate⟩ := h.waits m hm hwaits
    refine ⟨l.settled (r.endJob n).running, ?_, ?_⟩
    · rw [listeners_endJob, List.getElem?_map, hl]
      rfl
    · rw [Listener.settled, hstate]
      exact hstate
  · intro hqueue hwaiting
    obtain ⟨l, hl, hstate⟩ := h.called hqueue hwaiting
    refine ⟨l.settled (r.endJob n).running, ?_, ?_⟩
    · rw [listeners_endJob]
      exact List.mem_map_of_mem hl
    · rw [Listener.settled, hstate]
      exact hstate

/-- **The work of a job.** -/
theorem Queueing.works (h : Queueing r) (hworks : Works n r r') : Queueing r' := by
  obtain ⟨mid, hbeside, rfl | rfl⟩ := hworks
  · exact h.beside hbeside
  · exact (h.beside hbeside).endJob n

/-! ## Turns -/

/-- A turn is taken from the list: the listener that it is for becomes busy. -/
theorem QueueFits.takeTurn (h : QueueFits none r) {position : Nat} {turn : Turn} (hturn : r.turns[position]? = some turn) :
    ∀ busy, (∀ m, turn = .listener m → busy = some m) → QueueFits busy (r.spend position) := by
  intro busy hbusy
  refine ⟨h.ordered, h.marked, h.behind, h.passed, ?_, ?_, h.nodup⟩
  · intro m l hm hl
    refine (h.attends m l (by simp) hl).mono ?_ id rfl
    intro hmem
    obtain ⟨i, hi⟩ := List.getElem?_of_mem hmem
    refine List.mem_eraseIdx_iff_getElem?.2 ⟨i, ?_, hi⟩
    -- the turn that is taken is that of the busy listener
    intro he
    rw [he, hturn] at hi
    exact hm (hbusy m (Option.some.inj hi))
  · exact fun m _ hm => h.waits m (by simp) hm

/-- A listener that is busy but not at the queue stands as it did. -/
theorem QueueFits.idle (h : QueueFits (some n) r) (hn : ∀ l, r.listeners[n]? = some l → Attends r n l.state)
    (hwaits : n ∈ r.waiting → ∃ l, r.listeners[n]? = some l ∧ l.state = .waiting) : QueueFits none r := by
  refine ⟨h.ordered, h.marked, h.behind, h.passed, ?_, ?_, h.nodup⟩
  · intro m l _ hl
    by_cases hmn : m = n
    · subst hmn
      exact hn l hl
    · exact h.attends m l (by simp [Ne.symm hmn]) hl
  · intro m _ hm
    by_cases hmn : m = n
    · subst hmn
      exact hwaits hm
    · exact h.waits m (by simp [Ne.symm hmn]) hm

/-! ## Steps -/

/-- What is of no concern to tasks is of no concern to the queue. -/
theorem Queueing.aside (h : Queueing r) (hsame : SameWork r r') (hclosed : r'.closed = r.closed)
    (hwaiting : r'.waiting = r.waiting) (hlisteners : r'.listeners = r.listeners) (hturns : r'.turns = r.turns) :
    Queueing r' := by
  have hlater : Later r r' := hsame.later fun h => hclosed.trans h
  refine h.beside (n := 0) ⟨hsame.touchesOnly 0, hclosed, hwaiting, hlisteners, ?_, hlater, by rw [hturns]⟩
  rw [running, running, hsame.jobs]

/-- A turn that is not that of a listener at the queue is taken. -/
theorem Queueing.spend (h : Queueing r) {position : Nat} {turn : Turn} (hturn : r.turns[position]? = some turn)
    (hlistener : ∀ n handlers, turn = .listener n → r.listeners[n]? ≠ some ⟨handlers, .looking⟩) :
    Queueing (r.spend position) := by
  cases turn with
  | listener n =>
      have hbusy := h.toQueueFits.takeTurn hturn (some n) fun m he => by cases he; rfl
      refine ⟨hbusy.idle ?_ (h.waits n (by simp)), h.called⟩
      intro l hl
      have hstands := h.attends n l (by simp) hl
      obtain ⟨handlers, state⟩ := l
      cases hstands with
      | looking _ => exact absurd hl (hlistener n handlers rfl)
      | waiting hwaits => exact .waiting hwaits
      | finishing jobs hall hsome => exact .finishing jobs hall hsome
      | done hnone => exact .done hnone
  | job n => exact ⟨h.toQueueFits.takeTurn hturn none (by simp), h.called⟩
  | call n i => exact ⟨h.toQueueFits.takeTurn hturn none (by simp), h.called⟩
  | settled n i => exact ⟨h.toQueueFits.takeTurn hturn none (by simp), h.called⟩

/-- A job that starts works. -/
theorem Queueing.start_works {relay : Relay σ} (h : Queueing r) {position : Nat} {job : Job} (hjob : r.jobs[n]? = some job)
    (hstate : job.state = .starting) : Works n (r.spend position) ((r.spend position).startJob relay n job) :=
  works_startJob relay (h.task_eq hjob) (mem_running_of_job (r := r.spend position) hjob (by simp [hstate]))

/-- So does a job that goes on. -/
theorem Queueing.goOn_works {relay : Relay σ} (h : Queueing r) {position : Nat} {job : Job} {activity : Activity}
    (hjob : r.jobs[n]? = some job) (hstate : job.state = .resuming activity) :
    Works n (r.spend position) (advance relay n job.task activity (r.spend position)) := by
  rw [h.task_eq hjob]
  exact works_advance relay activity _ (mem_running_of_job (r := r.spend position) hjob (by simp [hstate]))

/-- **One step** keeps the invariant. -/
theorem queueing_step {relay : Relay σ} (h : Queueing r) (hstep : Step relay r r') : Queueing r' := by
  -- only the turn of a listener makes it busy with the queue
  have hspend : ∀ {position turn}, r.turns[position]? = some turn → (∀ m, turn ≠ .listener m) →
      Queueing (r.spend position) :=
    fun hturn hne => h.spend hturn fun m _ he => absurd he (hne m)
  cases hstep with
  | look position n handlers hturn hlooking =>
      have hbusy := h.toQueueFits.takeTurn hturn (some n) fun m he => by cases he; rfl
      refine queueing_drain rfl r.queue (r.spend position) rfl hlooking ?_ hbusy
      intro hn
      obtain ⟨l, hl, hstate⟩ := h.waits n (by simp) hn
      rw [hlooking] at hl
      cases hl
      cases hstate
  | start position n job hturn hjob hstate =>
      exact (hspend hturn (by simp)).works (h.start_works hjob hstate)
  | goOn position n job activity hturn hjob hstate =>
      exact (hspend hturn (by simp)).works (h.goOn_works hjob hstate)
  | call position n i hturn => exact (hspend hturn (by simp)).beside (beside_makeCall relay _ n i)
  | settled position n i hturn => exact (hspend hturn (by simp)).beside (beside_settleCallOf _ n i)
  | idle position turn hturn hlistener => exact h.spend hturn hlistener
  | resume n => exact h.beside (beside_resume r n)
  | endCall n i => exact h.beside (beside_endCall r n i)
  | endCalls n => exact h.beside (beside_expireJob r n)
  | aside _ hsame hclosed hwaiting hlisteners hturns => exact h.aside hsame hclosed hwaiting hlisteners hturns

/-- **A step leads to a later runtime.** -/
theorem Queueing.later_step {relay : Relay σ} (h : Queueing r) (hstep : Step relay r r') : Later r r' := by
  have hspend : ∀ position, Later r (r.spend position) :=
    fun position => (SameWork.later ⟨rfl, rfl, rfl, rfl, rfl⟩ id)
  cases hstep with
  | look position n handlers hturn hlooking => exact (hspend position).trans (later_drain _ _)
  | start position n job hturn hjob hstate => exact (hspend position).trans (h.start_works hjob hstate).later
  | goOn position n job activity hturn hjob hstate => exact (hspend position).trans (h.goOn_works hjob hstate).later
  | call position n i hturn => exact (hspend position).trans (beside_makeCall relay _ n i).later
  | settled position n i hturn => exact (hspend position).trans (beside_settleCallOf _ n i).later
  | idle position turn hturn hlistener => exact hspend position
  | resume n => exact (beside_resume r n).later
  | endCall n i => exact (beside_endCall r n i).later
  | endCalls n => exact (beside_expireJob r n).later
  | aside _ hsame hclosed hwaiting hlisteners hturns => exact hsame.later fun h => hclosed.trans h

/-- Several steps keep the invariant and lead to a later runtime. -/
theorem queueing_steps {relay : Relay σ} (h : Queueing r) (hsteps : Steps relay r r') : Queueing r' ∧ Later r r' := by
  refine hsteps.invariant (P := fun r' => Queueing r' ∧ Later r r') ?_ ⟨h, .refl r⟩
  intro mid r' hmid hstep
  exact ⟨queueing_step hmid.1 hstep, hmid.2.trans (hmid.1.later_step hstep)⟩

/-! ## Runs -/

/-- **A move** keeps the invariant. -/
theorem queueing_moved {relay : Relay σ} {m : Move} (h : Queueing r) (hmoved : Moved relay r m r') : Queueing r' := by
  cases hmoved with
  | accepted info _ hopen => exact queueing_callListener (h.toQueueFits.addTask hopen info)
  | refused _ _ => exact h
  | closed _ hopen => exact queueing_callListener (h.toQueueFits.addStop hopen)
  | again _ _ => exact h
  | listened handlers _ => exact queueing_listen h handlers
  | steps _ _ hsteps => exact (queueing_steps h hsteps).1

/-- **A move leads to a later runtime.** -/
theorem Queueing.later {relay : Relay σ} {m : Move} (h : Queueing r) (hmoved : Moved relay r m r') : Later r r' := by
  cases hmoved with
  | accepted info _ _ => exact ((later_addTask r info).trans (later_enqueue _ _)).trans (later_callListener _)
  | refused _ _ => exact .refl r
  | closed _ _ =>
      have hclosed : Later r { r with closed := true } := SameWork.later ⟨rfl, rfl, rfl, rfl, rfl⟩ fun _ => rfl
      exact (hclosed.trans (later_enqueue _ _)).trans (later_callListener _)
  | again _ _ => exact .refl r
  | listened handlers _ => exact later_listen r handlers
  | steps _ _ hsteps => exact (queueing_steps h hsteps).2

/-- **A whole run** keeps the invariant. -/
theorem queueing_moves (relay : Relay σ) (capacity : Nat) (s : σ) (ms : List Move) :
    Queueing ((new capacity s).moves relay ms) :=
  moves_invariant (fun _ _ _ h hmoved => queueing_moved h hmoved) ms _ (queueing_new capacity s)

end TaskRuntime

end WebhookBridge
