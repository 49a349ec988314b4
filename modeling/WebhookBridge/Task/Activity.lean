import WebhookBridge.Dispatch.Schedule

/-!
# Activities

What a task handler does, step by step: it calls the relay, dispatches a batch, replies to its task, waits, reports, and
ends or fails. How it goes on depends on what the steps came to, so an activity is a tree whose branches are the
possible answers. Who performs it decides the answers and the order among several activities.

## Contents

* `ReplyFault`: why a reply is not delivered;
* `Activity`: what a handler does;
* `Activity.perform`: an activity by itself, over a relay.
-/

namespace WebhookBridge

/-- Why a reply is not delivered. -/
inductive ReplyFault where
  | alreadyAnswered (executionId : Text)
  | undumpable (fault : Json.DumpFault)
  | undelivered (message : Text)
  deriving DecidableEq, Repr

/-- The text of a reply fault. -/
def ReplyFault.message : ReplyFault → Text
  | .alreadyAnswered id => ("task " : Text) ++ id ++ " already answered"
  | .undumpable fault => fault.message
  | .undelivered message => message

/-- What a task handler does. -/
inductive Activity where
  /-- The handler has ended. -/
  | done
  /-- The handler has failed. -/
  | fail (defect : Defect)
  /-- It replies, and learns whether the reply was delivered. -/
  | reply (payload : Payload) (next : Except ReplyFault Unit → Activity)
  /-- It calls the relay. -/
  | call (request : RelayRequest) (next : CallResult → Activity)
  /-- It dispatches a batch. -/
  | dispatch (requests : List RelayRequest) (next : Except Defect BatchResult → Activity)
  /-- It waits until it is released. -/
  | wait (next : Activity)
  /-- It reports. -/
  | report (events : List LogEvent) (next : Activity)

/-- A rule of delivery: what a reply comes to after the replies before it. -/
abbrev Delivery := List Payload → Payload → Except ReplyFault Unit

/-- What an activity came to: its end, its replies with what became of them, what was logged, and the relay after it. -/
structure Performance (σ : Type) where
  ending : Except Defect Unit
  replies : List (Payload × Except ReplyFault Unit)
  log : List LogEvent
  state : σ

/-- The activity from its start or from a later point on, after `before`. Waiting takes no time. -/
def Activity.perform {σ : Type} (relay : Relay σ) (deliver : Delivery) : Activity → Performance σ → Performance σ
  | .done, before => before
  | .fail defect, before => { before with ending := .error defect }
  | .reply payload next, before =>
    let delivered := deliver (before.replies.map (·.1)) payload
    (next delivered).perform relay deliver { before with replies := before.replies ++ [(payload, delivered)] }
  | .call request next, before =>
    let step := relay.call before.state request
    (next step.result).perform relay deliver { before with log := before.log ++ step.log, state := step.state }
  | .dispatch requests next, before =>
    let d := dispatchBatch relay before.state requests
    (next d.outcome).perform relay deliver { before with log := before.log ++ d.log, state := d.state }
  | .wait next, before => next.perform relay deliver before
  | .report events next, before => next.perform relay deliver { before with log := before.log ++ events }

/-- A whole activity over a relay in a state. -/
def Activity.run {σ : Type} (relay : Relay σ) (deliver : Delivery) (a : Activity) (s : σ) : Performance σ :=
  a.perform relay deliver ⟨.ok (), [], [], s⟩

end WebhookBridge
