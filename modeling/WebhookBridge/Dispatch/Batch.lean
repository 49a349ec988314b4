import WebhookBridge.Log
import WebhookBridge.Relay.Outcome
import WebhookBridge.Relay.Request

/-!
# Batches

The calls of a batch run side by side, and may start and end in any order. Each call that ends with an answer or a relay
error is recorded at once, so that among calls to the same URL the last to end owns the entry. A call that meets a defect
spoils the batch: the calls that have not ended are then cancelled, and no call is recorded any more.

## Contents

* `settleCall`: what a call comes to, and what is logged of it;
* `CallState`, `BatchRun`: a batch under way;
* `BatchRun.create`, `post`, `finish`, `notice`: its steps; `BatchRun.start`: a batch of which every call was made;
* `BatchRun.isOver`, `BatchRun.outcome`, `BatchRun.returned?`: its end;
* `BatchRun.Action`, `BatchRun.performAll`: all that can happen to a batch;
* the laws that say what a step keeps.
-/

namespace WebhookBridge

/-! ## Single calls -/

/-- The outcome of a call to a URL, and what is logged of it. -/
def settleCall (url : Text) : CallResult → Except Defect Outcome × List LogEvent
  | .answered status body => (.ok ⟨url, .ok ⟨Text.ofInt status, body⟩⟩, [])
  | .failed e =>
    (.ok ⟨url, .error e⟩, [⟨.debug, .dispatch, ("relay to " : Text) ++ url ++ " failed: " ++ e.message⟩])
  | .met defect => (.error defect, [])

/-! ## Batches under way -/

/-- The states of a call of a batch: the relay has not been called, it has been called, its answer or error has been
    recorded, a defect was met, or the call was cancelled. -/
inductive CallState where
  | created
  | running
  | recorded
  | broken
  | cancelled
  deriving DecidableEq, Repr

/-- Whether a call has ended. -/
def CallState.isOver : CallState → Bool
  | .created => false
  | .running => false
  | _ => true

/-- A batch under way: its requests, the state of each call, what the relay was called with, in order, the entries so
    far, and the defects in the order in which they were met. -/
structure BatchRun where
  requests : List RelayRequest
  calls : List CallState
  posted : List RelayRequest
  result : BatchResult
  defects : List Defect

namespace BatchRun

/-- A batch of which no call was made. -/
def create (requests : List RelayRequest) : BatchRun :=
  ⟨requests, requests.map fun _ => .created, [], .empty, []⟩

/-- The batch after the relay was called for a request, given by its position. A request is posted once. -/
def post (b : BatchRun) (i : Nat) : BatchRun :=
  match b.requests[i]?, b.calls[i]? with
  | some request, some .created => { b with calls := b.calls.set i .running, posted := b.posted ++ [request] }
  | _, _ => b

/-- A batch of which every call was made and none has ended. -/
def start (requests : List RelayRequest) : BatchRun := (List.range requests.length).foldl post (create requests)

/-- What is logged when a batch starts. An empty batch starts and ends unnoticed. -/
def startLog (requests : List RelayRequest) : List LogEvent :=
  if requests.isEmpty then []
  else [⟨.debug, .dispatch, ("dispatching batch of " : Text) ++ Text.ofNat requests.length ++ " requests"⟩]

/-- The batch after a call, given by its position, has ended with a result, and what is logged of it. A call that does
    not run any more changes nothing. -/
def finish (b : BatchRun) (i : Nat) (result : CallResult) : BatchRun × List LogEvent :=
  match b.requests[i]?, b.calls[i]? with
  | some request, some .running =>
    let (outcome, log) := settleCall request.url result
    match outcome with
    | .error defect => ({ b with calls := b.calls.set i .broken, defects := b.defects ++ [defect] }, log)
    | .ok outcome => ({ b with calls := b.calls.set i .recorded, result := b.result.record outcome }, log)
  | _, _ => (b, [])

/-- The batch after the calls that have not ended were cancelled. -/
def abort (b : BatchRun) : BatchRun :=
  { b with calls := b.calls.map fun c => if c.isOver then c else .cancelled }

/-- The batch after a defect was noticed, if one was met. -/
def notice (b : BatchRun) : BatchRun := if b.defects.isEmpty then b else b.abort

/-- Whether every call has ended. -/
def isOver (b : BatchRun) : Bool := b.calls.all CallState.isOver

/-- What a batch comes to that is over: its entries, or its defects as a group. -/
def outcome (b : BatchRun) : Except Defect BatchResult :=
  if b.defects.isEmpty then .ok b.result else .error (.group b.defects)

/-- What a batch has returned, which it does when every call has ended. -/
def returned? (b : BatchRun) : Option (Except Defect BatchResult) := if b.isOver then some b.outcome else none

/-- What is logged when a batch is over. -/
def endLog (b : BatchRun) : List LogEvent :=
  if b.requests.isEmpty || !b.defects.isEmpty then []
  else [⟨.debug, .dispatch, ("batch done: " : Text) ++ Text.ofNat b.result.successes.length ++ " successes, " ++
    Text.ofNat b.result.errors.length ++ " errors"⟩]

/-! ## Actions -/

/-- What can happen to a batch: a call is made, a call ends, or a defect is noticed. -/
inductive Action where
  | post (i : Nat)
  | finish (i : Nat) (result : CallResult)
  | notice

/-- The batch after an action. -/
def perform (b : BatchRun) : Action → BatchRun
  | .post i => b.post i
  | .finish i result => (b.finish i result).1
  | .notice => b.notice

/-- The batch after several actions. -/
def performAll (b : BatchRun) (actions : List Action) : BatchRun := actions.foldl perform b

/-- The position of the call that an action makes. -/
def Action.posted? : Action → Option Nat
  | .post i => some i
  | _ => none

/-- The position and the result of the call that an action ends. -/
def Action.finished? : Action → Option (Nat × CallResult)
  | .finish i result => some (i, result)
  | _ => none

/-! ## What steps keep -/

theorem requests_post (b : BatchRun) (i : Nat) : (b.post i).requests = b.requests := by
  unfold post
  split <;> rfl

theorem requests_finish (b : BatchRun) (i : Nat) (result : CallResult) :
    (b.finish i result).1.requests = b.requests := by
  unfold finish
  repeat' split
  all_goals rfl

theorem isOver_abort (b : BatchRun) : b.abort.isOver = true := by
  simp only [isOver, abort, List.all_map, List.all_eq_true, Function.comp_apply]
  intro c _
  split
  · assumption
  · rfl

theorem outcome_abort (b : BatchRun) : b.abort.outcome = b.outcome := rfl

end BatchRun

end WebhookBridge
