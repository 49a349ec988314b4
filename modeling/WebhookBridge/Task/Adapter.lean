import WebhookBridge.Task.Activity

/-!
# The handlers of the bridge

Two kinds of tasks are answered with relay calls: `execute` makes one call, `batchExecute` a batch of them. Either
replies exactly once: with what the calls came to, or with an error if the input does not say what to call.

## Contents

* `TaskInfo`: a task as its handler sees it;
* `executeActivity`, `batchExecuteActivity`: the two handlers;
* `relayHandler?`: the handler of a kind of task.
-/

namespace WebhookBridge

/-- A task as its handler sees it. -/
structure TaskInfo where
  key : Text
  executionId : Text
  input : Text
  deriving DecidableEq, Repr, Inhabited

/-- The name of the kind of a payload. -/
def Payload.kind : Payload → Text
  | .success _ => "success"
  | .error _ => "error"
  | .batch _ => "batch"
  | .other kind _ => kind

/-- What is logged when a reply is not delivered. -/
def replyFailureLog (task : TaskInfo) (payload : Payload) : LogEvent :=
  ⟨.error, .tasks, ("error while replying " : Text) ++ payload.kind.quoted ++ " to task " ++ task.key.quoted ++ " (" ++
    task.executionId ++ ")"⟩

/-- Replies, and leaves it at that: a reply that is not delivered is logged. -/
def replyOnce (task : TaskInfo) (payload : Payload) : Activity :=
  .reply payload fun delivered => match delivered with
    | .ok () => .done
    | .error _ => .report [replyFailureLog task payload] .done

/-- What is said of an input that names no request. -/
def undecodableInput (issues : List Issue) : Text := ("err while decoding input data: " : Text) ++ summary issues

/-- What is said of an input that names no batch. -/
def undecodableBatch (issues : List Issue) : Text := ("err while decoding batch input data: " : Text) ++ summary issues

/-- What is said of a call that failed. -/
def failedRequest (e : RelayError) : Text := ("err while performing the post request: " : Text) ++ e.message

/-- The reply to a call's outcome. -/
def outcomePayload (o : Outcome) : Payload :=
  match o.result with
  | .error e => .error (failedRequest e)
  | .ok answer => .success answer

/-- Makes the one call that the input names. -/
def executeActivity (task : TaskInfo) : Activity :=
  match RelayRequest.decode task.input with
  | .error issues => replyOnce task (.error (undecodableInput issues))
  | .ok request => .call request fun result =>
    let (outcome, log) := settleCall request.url result
    .report log (match outcome with
      | .error defect => .fail defect
      | .ok outcome => replyOnce task (outcomePayload outcome))

/-- Makes the calls that the input names. -/
def batchExecuteActivity (task : TaskInfo) : Activity :=
  match decodeBatch task.input with
  | .error issues => replyOnce task (.error (undecodableBatch issues))
  | .ok requests => .dispatch requests fun outcome => match outcome with
    | .error defect => .fail defect
    | .ok result => replyOnce task (.batch result)

/-- The kinds of tasks that the bridge handles. -/
def relayTaskKeys : List Text := ["execute", "batchExecute"]

/-- The handler of a kind of task. -/
def relayHandler? (key : Text) : Option (TaskInfo → Activity) :=
  if key = ("execute" : Text) then some executeActivity
  else if key = ("batchExecute" : Text) then some batchExecuteActivity
  else none

end WebhookBridge
