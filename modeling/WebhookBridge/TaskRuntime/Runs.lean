import WebhookBridge.TaskRuntime.Turn

/-!
# Runs of a task runtime

All that can happen to a runtime while nobody cancels its listeners, in any order: operations from outside, turns, and
the ends of calls. The listeners of the bridge answer its tasks with its own handlers, and other tasks as they like;
other listeners answer all tasks as they like.

## Contents

* `TaskRuntime.Action`, `TaskRuntime.act`: what can happen among listeners of the bridge, and the runtime after it;
* `TaskRuntime.run`: the runtime after several actions;
* `TaskRuntime.Move`, `TaskRuntime.move`, `TaskRuntime.moves`: the same among listeners of any kind.
-/

namespace WebhookBridge

/-- The handlers of the bridge, and others for other kinds of tasks. -/
def bridgeHandlers (others : Handlers) : Handlers := fun key => (relayHandler? key).or (others key)

namespace TaskRuntime

variable {σ : Type}

/-- What can happen to a runtime. -/
inductive Action where
  | submit (info : TaskInfo)
  | submitOctets (key executionId : Text) (input : Octets)
  | close
  | listen (others : Handlers)
  /-- A turn is taken, given by its position. -/
  | turn (position : Nat)
  | release
  | emit (name : Text) (dumped : Except Json.DumpFault Json)
  | nextEvent
  /-- A late call of a job's batch ends. -/
  | endCall (job call : Nat)
  /-- The late calls of a job end. -/
  | endCalls (job : Nat)
  /-- The time limit has passed for all calls. -/
  | expire

/-- The runtime after an operation that may be refused. -/
def orSame (r : TaskRuntime σ) : Except RuntimeFault (TaskRuntime σ) → TaskRuntime σ
  | .ok r => r
  | .error _ => r

/-- The runtime after an action. A refused operation changes nothing. -/
def act (relay : Relay σ) (r : TaskRuntime σ) : Action → TaskRuntime σ
  | .submit info => r.orSame (r.submit info)
  | .submitOctets key executionId input => r.orSame (r.submitOctets key executionId input)
  | .close => r.close
  | .listen others => r.listen (bridgeHandlers others)
  | .turn position => (r.take? relay position).getD r
  | .release => r.release
  | .emit name dumped => r.orSame (r.emit name dumped)
  | .nextEvent => (r.nextEvent?.map (·.2)).getD r
  | .endCall job call => r.endCall job call
  | .endCalls job => r.expireJob job
  | .expire => r.expire

/-- The runtime after several actions. -/
def run (relay : Relay σ) (actions : List Action) (r : TaskRuntime σ) : TaskRuntime σ := actions.foldl (act relay) r

/-- What can happen to a runtime whose listeners have any handlers. -/
inductive Move where
  | act (a : Action)
  | listen (handlers : Handlers)

/-- The runtime after a move. -/
def move (relay : Relay σ) (r : TaskRuntime σ) : Move → TaskRuntime σ
  | .act a => r.act relay a
  | .listen handlers => r.listen handlers

/-- The runtime after several moves. -/
def moves (relay : Relay σ) (ms : List Move) (r : TaskRuntime σ) : TaskRuntime σ := ms.foldl (move relay) r

end TaskRuntime

end WebhookBridge
