import WebhookBridge.Proofs.TaskRuntime.Frame

/-!
# Tasks and their jobs

Jobs are started in the order in which tasks were submitted, and the other tasks stand in the queue. So a job is that of the
task at its own position, and the task at the front of the queue is the first without one. Every job has its listener, which
has the handlers that all listeners have.

## Contents

* `TaskRuntime.Ordered`: where tasks stand;
* `TaskRuntime.InOrder`: an invariant that everything keeps, whatever is known of handlers;
* one lemma for each change.
-/

namespace WebhookBridge.TaskRuntime

variable {σ : Type} {r r' : TaskRuntime σ} {n t : Nat}

/-! ## Tasks -/

/-- The task that stands in the queue. -/
def queuedTask? : Queued → Option Nat
  | .task t => some t
  | .stop => none

/-- Jobs were started in the order in which tasks were submitted, and the other tasks stand in the queue. -/
abbrev Ordered (r : TaskRuntime σ) : Prop :=
  r.jobs.map (·.task) ++ r.queue.filterMap queuedTask? = List.range r.tasks.length

/-- A job is that of the task at its own position. -/
theorem Ordered.task_eq (h : Ordered r) {job : Job} (hjob : r.jobs[n]? = some job) : job.task = n ∧ n < r.tasks.length := by
  have hlt : n < (r.jobs.map (·.task)).length := by simpa using (List.getElem?_eq_some_iff.1 hjob).1
  have hget : (r.jobs.map (·.task) ++ r.queue.filterMap queuedTask?)[n]? = some job.task := by
    rw [List.getElem?_append_left hlt, List.getElem?_map, hjob]
    rfl
  rw [h, List.getElem?_eq_some_iff] at hget
  obtain ⟨hn, heq⟩ := hget
  rw [List.getElem_range] at heq
  rw [List.length_range] at hn
  exact ⟨heq.symm, hn⟩

/-- The task at the front of the queue is the first without a job. -/
theorem Ordered.front (h : Ordered r) {rest : List Queued} (hqueue : r.queue = .task t :: rest) :
    t = r.jobs.length ∧ t < r.tasks.length := by
  rw [Ordered, hqueue] at h
  have hget : (r.jobs.map (·.task) ++ t :: rest.filterMap queuedTask?)[r.jobs.length]? = some t := by
    rw [List.getElem?_append_right (by simp)]
    simp
  rw [show r.jobs.map (·.task) ++ t :: rest.filterMap queuedTask? = _ from h, List.getElem?_eq_some_iff] at hget
  obtain ⟨hlt, heq⟩ := hget
  rw [List.getElem_range] at heq
  rw [List.length_range] at hlt
  omega

/-- There is no job without a task. -/
theorem Ordered.length_jobs_le (h : Ordered r) : r.jobs.length ≤ r.tasks.length := by
  have hlength := congrArg List.length h
  rw [List.length_append, List.length_map, List.length_range] at hlength
  omega

/-- A task that is submitted waits behind the others. -/
theorem Ordered.addTask (h : Ordered r) (info : TaskInfo) : Ordered ((r.addTask info).enqueue (.task r.tasks.length)) := by
  show r.jobs.map (·.task) ++ (r.queue ++ [Queued.task r.tasks.length]).filterMap queuedTask?
    = List.range (r.tasks ++ [TaskEntry.mk info none]).length
  rw [List.filterMap_append, ← List.append_assoc, h, List.length_append, List.length_singleton, List.range_succ]
  rfl

/-- The stop mark is no task. -/
theorem Ordered.addStop (h : Ordered r) : Ordered (r.enqueue .stop) := by
  show r.jobs.map (·.task) ++ (r.queue ++ [Queued.stop]).filterMap queuedTask? = _
  rw [List.filterMap_append, ← List.append_assoc, h]
  exact List.append_nil _

/-! ## Listeners -/

theorem exists_handlers {l l' : List Listener} (h : l'.map (·.handlers) = l.map (·.handlers)) {x : Listener}
    (hx : x ∈ l') : ∃ y ∈ l, y.handlers = x.handlers := by
  have hmem := List.mem_map_of_mem (f := (·.handlers)) hx
  rw [h] at hmem
  obtain ⟨y, hy, he⟩ := List.mem_map.1 hmem
  exact ⟨y, hy, he⟩

theorem exists_owner {l l' : List Job} (h : l'.map (fun j => (j.task, j.listener)) = l.map fun j => (j.task, j.listener))
    {x : Job} (hx : x ∈ l') : ∃ y ∈ l, y.listener = x.listener := by
  have hmem := List.mem_map_of_mem (f := fun j : Job => (j.task, j.listener)) hx
  rw [h] at hmem
  obtain ⟨y, hy, he⟩ := List.mem_map.1 hmem
  exact ⟨y, hy, (Prod.mk.inj he).2⟩

variable {P : Handlers → Prop}

/-- **Tasks and jobs are in order**, every job has its listener, and the handlers of all listeners have a property. -/
structure InOrder (P : Handlers → Prop) (r : TaskRuntime σ) : Prop where
  ordered : Ordered r
  served : ∀ job ∈ r.jobs, job.listener < r.listeners.length
  adapted : ∀ l ∈ r.listeners, P l.handlers

theorem inOrder_new (P : Handlers → Prop) (capacity : Nat) (s : σ) : InOrder P (new capacity s) where
  ordered := rfl
  served := by simp [new]
  adapted := by simp [new]

/-- The work of a job leaves everything in order. -/
theorem InOrder.of_touchesOnly (h : InOrder P r) (htouches : TouchesOnly n r r') : InOrder P r' where
  ordered := by
    rw [Ordered, htouches.map_task, htouches.queue, htouches.length_tasks]
    exact h.ordered
  served job hjob := by
    obtain ⟨job', hjob', he⟩ := exists_owner htouches.owners hjob
    have hlength := congrArg List.length htouches.handlers
    rw [List.length_map, List.length_map] at hlength
    rw [hlength, ← he]
    exact h.served job' hjob'
  adapted l hl := by
    obtain ⟨l', hl', he⟩ := exists_handlers htouches.handlers hl
    rw [← he]
    exact h.adapted l' hl'

/-- So does what leaves the work as it is. -/
theorem InOrder.of_sameWork (h : InOrder P r) (hsame : SameWork r r') : InOrder P r' :=
  h.of_touchesOnly (hsame.touchesOnly 0)

/-- A listener starts. -/
theorem InOrder.listen (h : InOrder P r) {handlers : Handlers} (hhandlers : P handlers) : InOrder P (r.listen handlers) := by
  refine ⟨h.ordered, fun job hjob => ?_, fun l hl => ?_⟩
  · show job.listener < (r.listeners ++ [Listener.mk handlers .looking]).length
    rw [List.length_append]
    exact Nat.lt_add_right _ (h.served job hjob)
  · rcases List.mem_append.1 hl with hl | hl
    · exact h.adapted l hl
    · rw [List.mem_singleton.1 hl]
      exact hhandlers

/-- A job is started for the task at the front of the queue. -/
theorem InOrder.addJob (h : InOrder P r) {rest : List Queued} (hqueue : r.queue = .task t :: rest)
    (hn : n < r.listeners.length) : InOrder P ({ r with queue := rest }.addJob t n) := by
  have hordered := h.ordered
  rw [Ordered, hqueue] at hordered
  refine ⟨?_, fun job hjob => ?_, h.adapted⟩
  · show (r.jobs ++ [Job.mk t n .starting]).map (·.task) ++ rest.filterMap queuedTask? = _
    rw [List.map_append, List.append_assoc]
    exact hordered
  · rcases List.mem_append.1 hjob with hjob | hjob
    · exact h.served job hjob
    · rw [List.mem_singleton.1 hjob]
      exact hn

/-- The stop mark is taken from the queue. -/
theorem InOrder.takeStop (h : InOrder P r) {rest : List Queued} (hqueue : r.queue = .stop :: rest) :
    InOrder P { r with queue := rest } := by
  have hordered := h.ordered
  rw [Ordered, hqueue] at hordered
  exact ⟨hordered, h.served, h.adapted⟩

end WebhookBridge.TaskRuntime
