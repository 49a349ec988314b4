import WebhookBridge.Task.Adapter
import WebhookBridge.TaskRuntime.Events

/-!
# The task runtime

Tasks are submitted and wait in a queue. Listeners take them from it and start a job for each, which performs the
activity of the task's handler. Closing the runtime puts a stop mark behind the tasks: the listener that takes it ends
when the running jobs have ended.

Whatever happens between two points where somebody waits is one turn. Turns that can be taken stand in a list, in the
order in which they came up; any of them may be taken next.

## Contents

* `Reply`, `TaskEntry`: submitted tasks and their replies;
* `Listener`, `Job`, `Turn`: who acts, and the turns that can be taken;
* `TaskRuntime`: the state of a runtime over a relay;
* `RuntimeFault`: why a submission or an emission is refused.
-/

namespace WebhookBridge

/-! ## Tasks -/

/-- A delivered reply. -/
structure Reply where
  kind : Text
  data : Json

/-- A submitted task, and its reply once it has one. -/
structure TaskEntry where
  info : TaskInfo
  reply : Option Reply

/-- What stands in the queue: a task by its position among the submitted ones, or the stop mark. -/
inductive Queued where
  | task (n : Nat)
  | stop
  deriving DecidableEq, Repr

/-- The handlers of a listener, by kind of task. -/
abbrev Handlers := Text → Option (TaskInfo → Activity)

/-! ## Who acts -/

/-- What a listener does: it is about to look into the queue, waits for a task, waits for jobs to end, or has ended. -/
inductive ListenerState where
  | looking
  | waiting
  | finishing (jobs : List Nat)
  | done
  | cancelled
  deriving DecidableEq, Repr

/-- A listener. -/
structure Listener where
  handlers : Handlers
  state : ListenerState

/-- What a job does: it is about to start or to go on, waits for a call or for a batch or for its release, or has
    ended. Calls that end at a time limit carry what they will come to. -/
inductive JobState where
  | starting
  | resuming (activity : Activity)
  | calling (result : CallResult) (next : CallResult → Activity)
  | batching (batch : BatchRun) (late : List (Nat × CallResult)) (unsettled : Nat)
      (next : Except Defect BatchResult → Activity)
  | waiting (next : Activity)
  | over

/-- A job: the task that it is for, the listener that started it, and what it does. -/
structure Job where
  task : Nat
  listener : Nat
  state : JobState

/-- Whether a job has ended. -/
def Job.isOver (j : Job) : Bool :=
  match j.state with
  | .over => true
  | _ => false

theorem Job.isOver_iff {j : Job} : j.isOver = true ↔ j.state = .over := by
  obtain ⟨task, listener, state⟩ := j
  cases state <;> simp [isOver]

/-- A turn: a listener looks into the queue, a job goes on, a call of a job's batch is made, or the end of such a call
    is noticed. -/
inductive Turn where
  | listener (n : Nat)
  | job (n : Nat)
  | call (job call : Nat)
  | settled (job call : Nat)
  deriving DecidableEq, Repr

/-! ## The state -/

/-- A runtime over a relay with states of type `σ`. -/
structure TaskRuntime (σ : Type) where
  closed : Bool
  queue : List Queued
  tasks : List TaskEntry
  listeners : List Listener
  /-- The listeners that wait for a task, in the order in which they came. -/
  waiting : List Nat
  jobs : List Job
  /-- Whether waiting activities have been released for good. -/
  released : Bool
  /-- The jobs that wait for their release, in the order in which they came. -/
  held : List Nat
  turns : List Turn
  events : EventStore
  /-- Every reply that was tried: the task, the payload, and whether it was delivered. -/
  attempts : List (Nat × Payload × Except ReplyFault Unit)
  log : List LogEvent
  relay : σ

namespace TaskRuntime

variable {σ : Type}

/-- A runtime before anything happened. -/
def new (capacity : Nat) (s : σ) : TaskRuntime σ where
  closed := false
  queue := []
  tasks := []
  listeners := []
  waiting := []
  jobs := []
  released := false
  held := []
  turns := []
  events := .empty capacity
  attempts := []
  log := []
  relay := s

/-- Why a submission or an emission is refused. -/
inductive RuntimeFault where
  | closed
  | undecodable (fault : DecodeFault)
  | undumpable (fault : Json.DumpFault)

/-- The text of a runtime fault. -/
def RuntimeFault.message : RuntimeFault → Text
  | .closed => "runtime is closed"
  | .undecodable fault => fault.message
  | .undumpable fault => fault.message

/-- The jobs that have not ended. -/
def running (r : TaskRuntime σ) : List Nat :=
  (List.range r.jobs.length).filter fun j => match r.jobs[j]? with
    | some job => !job.isOver
    | none => false

/-- The runtime with another state of a listener. -/
def setListener (r : TaskRuntime σ) (n : Nat) (state : ListenerState) : TaskRuntime σ :=
  { r with listeners := r.listeners.modify n fun l => { l with state := state } }

/-- The runtime with another state of a job. -/
def setJob (r : TaskRuntime σ) (n : Nat) (state : JobState) : TaskRuntime σ :=
  { r with jobs := r.jobs.modify n fun j => { j with state := state } }

/-- The runtime with one more turn that can be taken. -/
def schedule (r : TaskRuntime σ) (turn : Turn) : TaskRuntime σ := { r with turns := r.turns ++ [turn] }

/-- The runtime with several more turns that can be taken. -/
def scheduleAll (r : TaskRuntime σ) (turns : List Turn) : TaskRuntime σ := { r with turns := r.turns ++ turns }

/-- The runtime with one more element at the end of the queue. -/
def enqueue (r : TaskRuntime σ) (q : Queued) : TaskRuntime σ := { r with queue := r.queue ++ [q] }

/-- The runtime with one more task. -/
def addTask (r : TaskRuntime σ) (info : TaskInfo) : TaskRuntime σ := { r with tasks := r.tasks ++ [⟨info, none⟩] }

/-- The runtime with one more listener. -/
def addListener (r : TaskRuntime σ) (handlers : Handlers) : TaskRuntime σ :=
  { r with listeners := r.listeners ++ [⟨handlers, .looking⟩] }

/-- The runtime with one more job, which is about to start. -/
def addJob (r : TaskRuntime σ) (task listener : Nat) : TaskRuntime σ :=
  { r with jobs := r.jobs ++ [⟨task, listener, .starting⟩] }

/-- The runtime with more log events. -/
def report (r : TaskRuntime σ) (events : List LogEvent) : TaskRuntime σ := { r with log := r.log ++ events }

/-- The runtime with a listener that waited about to look into the queue. -/
def wakeListener (r : TaskRuntime σ) (n : Nat) : TaskRuntime σ :=
  { r with listeners := r.listeners.modify n fun l => if l.state = .waiting then { l with state := .looking } else l }

/-- Calls the first waiting listener to look into the queue. -/
def callListener (r : TaskRuntime σ) : TaskRuntime σ :=
  match r.waiting with
  | [] => r
  | n :: rest => ({ r with waiting := rest }.wakeListener n).schedule (.listener n)

end TaskRuntime

end WebhookBridge
