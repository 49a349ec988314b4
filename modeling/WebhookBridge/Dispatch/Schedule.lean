import WebhookBridge.Dispatch.Batch
import WebhookBridge.Relay.Caller

/-!
# Dispatching over a relay

A batch over a relay whose calls start in the order of the requests. Calls that end without delay are recorded in that
order; after them, unless a defect was met, those that end at the time limit.

## Contents

* `Dispatched`: what a dispatch comes to;
* `dispatchOne`: a single request;
* `BatchRun.startCalls`, `BatchRun.finishLate`: the two waves of a batch;
* `dispatchBatch`: a whole batch.
-/

namespace WebhookBridge

variable {σ : Type}

/-- What a dispatch comes to: its outcome, what was logged, and the state of the relay after it. -/
structure Dispatched (σ : Type) (α : Type) where
  outcome : Except Defect α
  log : List LogEvent
  state : σ

/-- A single request over a relay. -/
def dispatchOne (relay : Relay σ) (s : σ) (request : RelayRequest) : Dispatched σ Outcome :=
  let step := relay.call s request
  let (outcome, log) := settleCall request.url step.result
  ⟨outcome, step.log ++ log, step.state⟩

/-- A batch with the calls that end late, what was logged, and the state of the relay. -/
structure Wave (σ : Type) where
  batch : BatchRun
  late : List (Nat × CallResult)
  log : List LogEvent
  state : σ

namespace BatchRun

/-- The wave after the calls of the requests from position `i` on have started, and those that end without delay have
    ended. -/
def startCalls (relay : Relay σ) : Nat → List RelayRequest → Wave σ → Wave σ
  | _, [], w => w
  | i, request :: rest, w =>
    let step := relay.call w.state request
    let posted := w.batch.post i
    if step.isLate then
      startCalls relay (i + 1) rest
        { batch := posted, late := w.late ++ [(i, step.result)], log := w.log ++ step.log, state := step.state }
    else
      let (batch, log) := posted.finish i step.result
      startCalls relay (i + 1) rest
        { w with batch := batch, log := w.log ++ step.log ++ log, state := step.state }

/-- The batch after late calls have ended, and what was logged of them. -/
def finishLate (b : BatchRun) : List (Nat × CallResult) → BatchRun × List LogEvent
  | [] => (b, [])
  | (i, result) :: rest =>
    let (b, log) := b.finish i result
    let (b, others) := finishLate b rest
    (b, log ++ others)

end BatchRun

/-- A whole batch over a relay. -/
def dispatchBatch (relay : Relay σ) (s : σ) (requests : List RelayRequest) : Dispatched σ BatchResult :=
  let w := BatchRun.startCalls relay 0 requests ⟨.create requests, [], BatchRun.startLog requests, s⟩
  let (b, log) := w.batch.notice.finishLate w.late
  ⟨b.notice.outcome, w.log ++ log ++ b.notice.endLog, w.state⟩

end WebhookBridge
