import WebhookBridge.Proofs.Task.Replies

/-!
# What handlers reply over a relay

Over a relay a handler replies what its call or its batch has come to, in a payload that depends on nothing else. Where the call
or the batch has met a defect, it replies nothing.

## Contents

* `Performance.payloads`: what an activity has replied;
* `callReplies`, `payloads_executeActivity`: single calls;
* `batchReplies`, `afterBatch`, `payloads_afterBatch`: batches.
-/

namespace WebhookBridge

variable {σ : Type} (relay : Relay σ) (deliver : Delivery)

/-- What an activity has replied, whatever became of its replies. -/
def Performance.payloads (p : Performance σ) : List Payload := p.replies.map (·.1)

theorem payloads_replyOnce (task : TaskInfo) (payload : Payload) (before : Performance σ) :
    ((replyOnce task payload).perform relay deliver before).payloads = before.payloads ++ [payload] := by
  rw [replyOnce, Activity.perform]
  cases deliver (before.replies.map (·.1)) payload with
  | ok _ => simp [Activity.perform, Performance.payloads]
  | error fault => simp [Activity.perform, Performance.payloads]

/-! ## Single calls -/

/-- What a task is replied that makes a single call. -/
def callReplies : CallResult → List Payload
  | .answered status body => [.success ⟨Text.ofInt status, body⟩]
  | .failed e => [.error (failedRequest e)]
  | .met _ => []

/-- **The handler of a single call** replies what the call has come to. -/
theorem payloads_executeActivity {task : TaskInfo} {request : RelayRequest} (h : RelayRequest.decode task.input = .ok request)
    (s : σ) : ((executeActivity task).run relay deliver s).payloads = callReplies (relay.call s request).result := by
  simp only [executeActivity, h, Activity.run, Activity.perform]
  cases (relay.call s request).result with
  | answered status body => exact payloads_replyOnce relay deliver task _ _
  | met defect => rfl
  | failed e => exact payloads_replyOnce relay deliver task _ _

/-! ## Batches -/

/-- What a task is replied that makes a batch. -/
def batchReplies : Except Defect BatchResult → List Payload
  | .ok result => [.batch result]
  | .error _ => []

/-- How the handler of a batch goes on after the batch. -/
def afterBatch (task : TaskInfo) : Except Defect BatchResult → Activity
  | .error defect => .fail defect
  | .ok result => replyOnce task (.batch result)

theorem batchExecuteActivity_eq {task : TaskInfo} {requests : List RelayRequest} (h : decodeBatch task.input = .ok requests) :
    batchExecuteActivity task = .dispatch requests (afterBatch task) := by
  rw [batchExecuteActivity, h]
  rfl

/-- **The handler of a batch** replies what the batch has come to. -/
theorem payloads_afterBatch (task : TaskInfo) (outcome : Except Defect BatchResult) {before : Performance σ}
    (hbefore : before.payloads = []) : ((afterBatch task outcome).perform relay deliver before).payloads = batchReplies outcome := by
  cases outcome with
  | ok result =>
      rw [afterBatch, payloads_replyOnce, hbefore]
      rfl
  | error defect => exact hbefore

/-- The handler of a batch replies an error if its input names no batch. -/
theorem payloads_undecodable {task : TaskInfo} {issues : List Issue} (h : decodeBatch task.input = .error issues) (s : σ) :
    ((batchExecuteActivity task).run relay deliver s).payloads = [.error (undecodableBatch issues)] := by
  simp only [batchExecuteActivity, h]
  exact payloads_replyOnce relay deliver task _ _

end WebhookBridge
