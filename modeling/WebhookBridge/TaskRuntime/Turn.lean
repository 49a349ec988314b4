import WebhookBridge.TaskRuntime.Basic

/-!
# What happens in a task runtime

The operations that come from outside, and the turns of listeners, jobs and calls.

## Contents

* `TaskRuntime.submit`, `close`, `listen`, `release`, `emit`, `nextEvent?`, `expire`: operations;
* `TaskRuntime.reply`: a reply to a task, of which the first that can be dumped counts;
* `TaskRuntime.advance`: a job up to the next point where it waits;
* `TaskRuntime.take`: a turn;
* `TaskRuntime.settle`: all turns, first come first served.
-/

namespace WebhookBridge.TaskRuntime

variable {σ : Type}

/-! ## Operations -/

/-- A task is submitted. -/
def submit (r : TaskRuntime σ) (info : TaskInfo) : Except RuntimeFault (TaskRuntime σ) :=
  if r.closed then .error .closed
  else .ok ((r.addTask info).enqueue (.task r.tasks.length)).callListener

/-- A task with an input in octets is submitted. -/
def submitOctets (r : TaskRuntime σ) (key executionId : Text) (input : Octets) :
    Except RuntimeFault (TaskRuntime σ) :=
  if r.closed then .error .closed
  else match Utf8.read false input with
    | .error fault => .error (.undecodable fault)
    | .ok t => r.submit ⟨key, executionId, t⟩

/-- The runtime is closed, once: the stop mark goes behind the tasks. -/
def close (r : TaskRuntime σ) : TaskRuntime σ :=
  if r.closed then r else ({ r with closed := true }.enqueue .stop).callListener

/-- A listener starts. -/
def listen (r : TaskRuntime σ) (handlers : Handlers) : TaskRuntime σ :=
  (r.addListener handlers).schedule (.listener r.listeners.length)

/-- A job that waits for its release goes on. -/
def resume (r : TaskRuntime σ) (n : Nat) : TaskRuntime σ :=
  match r.jobs[n]? with
  | some ⟨_, _, .waiting next⟩ => (r.setJob n (.resuming next)).schedule (.job n)
  | _ => r

/-- The waiting activities go on, and no activity waits any more. -/
def release (r : TaskRuntime σ) : TaskRuntime σ := r.held.foldl resume { r with released := true, held := [] }

/-- An event is emitted. -/
def emit (r : TaskRuntime σ) (name : Text) (dumped : Except Json.DumpFault Json) :
    Except RuntimeFault (TaskRuntime σ) :=
  if r.closed then .error .closed
  else match dumped with
    | .error fault => .error (.undumpable fault)
    | .ok data => .ok ({ r with events := r.events.add ⟨name, data⟩ }.report
        [⟨.info, .runtime, ("event " : Text) ++ name ++ " emitted"⟩])

/-- The next unread event. -/
def nextEvent? (r : TaskRuntime σ) : Option (Event × TaskRuntime σ) :=
  r.events.next?.map fun (e, events) => (e, { r with events := events })

/-! ## Replies -/

/-- A reply to a task is tried: it is delivered if it is the first and can be dumped. -/
def reply (r : TaskRuntime σ) (task : Nat) (payload : Payload) : TaskRuntime σ × Except ReplyFault Unit :=
  match r.tasks[task]? with
  | none => (r, .ok ())
  | some entry =>
    let (entry, delivered) : TaskEntry × Except ReplyFault Unit :=
      match entry.reply with
      | some _ => (entry, .error (.alreadyAnswered entry.info.executionId))
      | none => match payload.dump with
        | .error fault => (entry, .error (.undumpable fault))
        | .ok data => ({ entry with reply := some ⟨payload.kind, data⟩ }, .ok ())
    -- an attempt that fails counts as one
    ({ r with tasks := r.tasks.set task entry, attempts := r.attempts ++ [(task, payload, delivered)] }, delivered)

/-- Whether a task has its reply. -/
def isAnswered (r : TaskRuntime σ) (task : Nat) : Bool :=
  match r.tasks[task]? with
  | some entry => entry.reply.isSome
  | none => false

/-! ## Jobs -/

/-- A job ends, and so do the listeners that waited for it last. -/
def endJob (r : TaskRuntime σ) (n : Nat) : TaskRuntime σ :=
  let r := r.setJob n .over
  let running := r.running
  { r with listeners := r.listeners.map fun l => match l.state with
      | .finishing jobs => if jobs.any running.contains then l else { l with state := .done }
      | _ => l }

/-- A job's handler has failed: a task without a reply gets one. -/
def failJob (r : TaskRuntime σ) (n : Nat) (task : Nat) : TaskRuntime σ :=
  match r.tasks[task]? with
  | none => r.endJob n
  | some entry =>
    let r := r.report [⟨.error, .runtime, ("task " : Text) ++ entry.info.key.quoted ++ " (" ++ entry.info.executionId ++
      ") failed"⟩]
    -- the handler may have replied before it failed
    let r := if r.isAnswered task then r else (r.reply task (.error "internal task failure")).1
    r.endJob n

/-- A job up to the next point where it waits. -/
def advance (relay : Relay σ) (n task : Nat) : Activity → TaskRuntime σ → TaskRuntime σ
  | .done, r => r.endJob n
  | .fail _, r => r.failJob n task
  | .reply payload next, r =>
    let (r, delivered) := r.reply task payload
    advance relay n task (next delivered) r
  | .call request next, r =>
    let step := relay.call r.relay request
    let r := { r with relay := step.state }.report step.log
    if step.isLate then r.setJob n (.calling step.result next) else advance relay n task (next step.result) r
  | .dispatch requests next, r =>
    -- an empty batch makes no call and waits for nothing
    if requests.isEmpty then advance relay n task (next (.ok .empty)) r
    else
      let r := (r.report (BatchRun.startLog requests)).setJob n
        (.batching (.create requests) [] requests.length next)
      r.scheduleAll ((List.range requests.length).map (Turn.call n))
  | .wait next, r =>
    if r.released then advance relay n task next r
    else { r with held := r.held ++ [n] }.setJob n (.waiting next)
  | .report events next, r => advance relay n task next (r.report events)

/-- A job starts: a task of a kind without a handler gets an error. -/
def startJob (relay : Relay σ) (r : TaskRuntime σ) (n : Nat) (job : Job) : TaskRuntime σ :=
  match r.tasks[job.task]?, r.listeners[job.listener]? with
  | some entry, some l =>
    match l.handlers entry.info.key with
    | some handler => advance relay n job.task (handler entry.info) r
    | none =>
      let r := r.report [⟨.warning, .runtime, ("no handler registered for task " : Text) ++ entry.info.key.quoted⟩]
      ((r.reply job.task (.error (("unknown task " : Text) ++ entry.info.key.quoted))).1).endJob n
  | _, _ => r.endJob n

/-- A call of a batch is made. -/
def makeCall (relay : Relay σ) (r : TaskRuntime σ) (n i : Nat) : TaskRuntime σ :=
  match r.jobs[n]? with
  | some ⟨_, _, .batching batch late unsettled next⟩ =>
    match batch.requests[i]?, batch.calls[i]? with
    | some request, some .created =>
      let step := relay.call r.relay request
      let r := { r with relay := step.state }.report step.log
      let batch := batch.post i
      if step.isLate then r.setJob n (.batching batch (late ++ [(i, step.result)]) unsettled next)
      else
        let (batch, log) := batch.finish i step.result
        ((r.report log).setJob n (.batching batch late unsettled next)).schedule (.settled n i)
    | _, _ => r
  | _ => r

/-- The end of a call of a batch is noticed: a defect cancels the calls that still run, and the job goes on after the
    last call. -/
def settleCallOf (r : TaskRuntime σ) (n i : Nat) : TaskRuntime σ :=
  match r.jobs[n]? with
  | some ⟨_, _, .batching batch late unsettled next⟩ =>
    let cancelled := if batch.calls[i]? = some .broken
      then (List.range batch.calls.length).filter fun k => batch.calls[k]?.any fun c => !c.isOver else []
    let batch := if batch.calls[i]? = some .broken then batch.abort else batch
    let r := r.scheduleAll (cancelled.map (Turn.settled n))
    -- the end that is noticed last lets the job go on
    if unsettled ≤ 1 then
      ((r.report batch.endLog).setJob n (.resuming (next batch.outcome))).schedule (.job n)
    else r.setJob n (.batching batch late (unsettled - 1) next)
  | _ => r

/-! ## Listeners -/

/-- A listener takes what stands in the queue: it starts a job for each task, and comes to an end at the stop mark. -/
def drain (n : Nat) : List Queued → TaskRuntime σ → TaskRuntime σ
  | [], r => { r with queue := [], waiting := r.waiting ++ [n] }.setListener n .waiting
  -- what stands behind the mark is left to other listeners
  | .stop :: rest, r =>
    let r := { r with queue := rest }
    let running := r.running
    r.setListener n (if running.isEmpty then .done else .finishing running)
  | .task t :: rest, r =>
    drain n rest (({ r with queue := rest }.addJob t n).schedule (.job r.jobs.length))

/-! ## Turns -/

/-- A turn is taken. A turn of someone who has nothing to do changes nothing. -/
def perform (relay : Relay σ) (r : TaskRuntime σ) : Turn → TaskRuntime σ
  | .listener n => match r.listeners[n]? with
    | some ⟨_, .looking⟩ => drain n r.queue r
    | _ => r
  | .job n => match r.jobs[n]? with
    | some job => match job.state with
      | .starting => r.startJob relay n job
      | .resuming activity => advance relay n job.task activity r
      | _ => r
    | none => r
  | .call n i => r.makeCall relay n i
  | .settled n i => r.settleCallOf n i

/-- The turn at a position among those that can be taken is taken; none if there is no such turn. -/
def take? (relay : Relay σ) (r : TaskRuntime σ) (position : Nat) : Option (TaskRuntime σ) :=
  r.turns[position]?.map fun turn => perform relay { r with turns := r.turns.eraseIdx position } turn

/-- Turns are taken first come first served until none is left, or `limit` of them. -/
def settle (relay : Relay σ) : (limit : Nat) → TaskRuntime σ → TaskRuntime σ
  | 0, r => r
  | limit + 1, r => match r.take? relay 0 with
    | none => r
    | some r => settle relay limit r

/-- The late calls of a job's batch end. -/
def expireCalls (n : Nat) : List (Nat × CallResult) → TaskRuntime σ → TaskRuntime σ
  | [], r => r
  | (i, result) :: rest, r =>
    match r.jobs[n]? with
    | some ⟨_, _, .batching batch late unsettled next⟩ =>
      if batch.calls[i]? = some .running then
        let (batch, log) := batch.finish i result
        expireCalls n rest
          (((r.report log).setJob n (.batching batch late unsettled next)).schedule (.settled n i))
      else expireCalls n rest r
    | _ => r

/-- A late call of a job's batch ends before the others. -/
def endCall (r : TaskRuntime σ) (n i : Nat) : TaskRuntime σ :=
  match r.jobs[n]? with
  | some ⟨_, _, .batching batch late unsettled next⟩ =>
    match late.find? (·.1 = i) with
    | some call => expireCalls n [call] (r.setJob n (.batching batch (late.filter (·.1 ≠ i)) unsettled next))
    | none => r
  | _ => r

/-- The late calls of a job end. -/
def expireJob (r : TaskRuntime σ) (n : Nat) : TaskRuntime σ :=
  match r.jobs[n]? with
  | some ⟨_, _, .calling result next⟩ => (r.setJob n (.resuming (next result))).schedule (.job n)
  | some ⟨_, _, .batching batch late unsettled next⟩ =>
    expireCalls n late (r.setJob n (.batching batch [] unsettled next))
  | _ => r

/-- The time limit has passed: the calls that are late end. -/
def expire (r : TaskRuntime σ) : TaskRuntime σ := (List.range r.jobs.length).foldl expireJob r

/-- A listener is cancelled: it ends at once, and the jobs that it waited for end without a reply. -/
def cancelListener (r : TaskRuntime σ) (n : Nat) : TaskRuntime σ :=
  match r.listeners[n]? with
  -- only behind the stop mark does a listener wait for its jobs; otherwise they run on without it
  | some ⟨_, .finishing jobs⟩ =>
    jobs.foldl (fun r j => r.endJob j) (r.setListener n .cancelled)
  | some ⟨_, .done⟩ => r
  | some _ => { r with waiting := r.waiting.filter (· != n) }.setListener n .cancelled
  | none => r

end WebhookBridge.TaskRuntime
