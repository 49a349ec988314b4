import WebhookBridge.Proofs.Dispatch.Recording
import WebhookBridge.Proofs.Json.Parts
import WebhookBridge.Task.Adapter

/-!
# What the handlers of the bridge reply

A handler of the bridge replies once and then ends, or fails without a reply, for which the runtime then gives one. What
is replied is made of the input and of what the relay's calls came to. Whether it can be dumped depends on nothing but
the parts of the values that the relay has answered with.

## Contents

* `Relay.IsRelayed`, `Relay.MayCome`: relays that answer for every call, and what a call may come to;
* `Payload.Dumpable`, `Payload.dump_iff`: payloads that can be dumped;
* `BatchResult.ComesFrom`: entries that come from calls;
* `TaskInfo.requests`, `RepliesTo`: the requests that a task names, and what may be replied to it;
* `Activity.RepliesNow`, `Activity.RepliesOnce`: activities that reply once, after their calls and from their start;
* `Activity.AnswersFor`, `relayHandler_answersFor`, `relayHandler_repliesOnce`: the handlers do.
-/

namespace WebhookBridge

variable {σ : Type}

/-! ## Relays -/

/-- A relay that answers for every call. -/
def Relay.IsRelayed (relay : Relay σ) : Prop := ∀ s request, (relay.call s request).result.IsRelayed

/-- What a call may come to, in some state of the relay. -/
def Relay.MayCome (relay : Relay σ) (request : RelayRequest) (result : CallResult) : Prop :=
  ∃ s, (relay.call s request).result = result

theorem Relay.MayCome.isRelayed {relay : Relay σ} (hrelay : relay.IsRelayed) {request : RelayRequest}
    {result : CallResult} (h : relay.MayCome request result) : result.IsRelayed := by
  obtain ⟨s, rfl⟩ := h
  exact hrelay s request

/-! ## Payloads -/

/-- Whether a value is dumped: each of its parts is admitted. -/
def Json.Dumpable (v : Json) : Prop := ∀ part ∈ v.parts 0, Json.Admitted part

/-- Whether a payload is dumped: its values are. -/
def Payload.Dumpable : Payload → Prop
  | .success answer => answer.body.Dumpable
  | .error _ => True
  | .batch b => ∀ entry ∈ b.successes, entry.2.body.Dumpable
  | .other _ dumped => faultOf? dumped = none

theorem Answer.dump_iff (a : Answer) : faultOf? a.dump = none ↔ a.body.Dumpable := by
  rw [Json.Dumpable, ← Json.dumpAt_iff, Answer.dump, Json.dump]
  cases Json.dumpAt 0 a.body with
  | ok v => exact Iff.rfl
  | error fault => exact Iff.rfl

theorem BatchResult.dumpTable_iff {α : Type} (f : α → Except Json.DumpFault Json) (t : Table α) :
    faultOf? (dumpTable f t) = none ↔ ∀ entry ∈ t, faultOf? (f entry.2) = none := by
  rw [dumpTable, faultOf?_map]
  induction t with
  | nil => simp [dumpEntries]
  | cons entry rest ih =>
      obtain ⟨url, v⟩ := entry
      rw [List.forall_mem_cons, ← ih, dumpEntries]
      cases hv : f v with
      | error fault => simp [bind, Except.bind]
      | ok first =>
          cases hrest : dumpEntries f rest with
          | error fault => simp [bind, Except.bind]
          | ok others => simp [bind, Except.bind, pure, Except.pure]

/-- **A payload is dumped** exactly if it can be. -/
theorem Payload.dump_iff (p : Payload) : faultOf? p.dump = none ↔ p.Dumpable := by
  cases p with
  | success answer => exact answer.dump_iff
  | error message => exact iff_of_true rfl trivial
  | other kind dumped => exact Iff.rfl
  | batch b =>
      -- only the bodies of the successes can keep a batch from it
      have hs := BatchResult.dumpTable_iff Answer.dump b.successes
      have he := BatchResult.dumpTable_iff (fun m : Text => .ok (dumpError m)) b.errors
      simp only [Answer.dump_iff] at hs
      have hdumped : faultOf? (BatchResult.dumpTable (fun m : Text => .ok (dumpError m)) b.errors) = none :=
        he.2 fun entry _ => rfl
      rw [Payload.Dumpable, ← hs, Payload.dump, BatchResult.dump]
      cases BatchResult.dumpTable Answer.dump b.successes with
      | error fault => simp [bind, Except.bind]
      | ok successes =>
          cases herrors : BatchResult.dumpTable (fun m : Text => .ok (dumpError m)) b.errors with
          | error fault =>
              rw [herrors] at hdumped
              cases hdumped
          | ok errors => simp [bind, Except.bind, pure, Except.pure]

/-! ## Batches -/

/-- The entries of a batch are what calls of its requests may have come to. -/
structure BatchResult.ComesFrom (relay : Relay σ) (requests : List RelayRequest) (b : BatchResult) : Prop where
  successes : ∀ entry ∈ b.successes, ∃ request ∈ requests, ∃ status body,
    relay.MayCome request (.answered status body) ∧ entry = (request.url, ⟨Text.ofInt status, body⟩)
  errors : ∀ entry ∈ b.errors, ∃ request ∈ requests, ∃ e,
    relay.MayCome request (.failed e) ∧ entry = (request.url, e.message)

theorem BatchResult.comesFrom_empty (relay : Relay σ) (requests : List RelayRequest) :
    empty.ComesFrom relay requests := ⟨by simp [empty], by simp [empty]⟩

/-- Recording what a call came to leaves entries that come from calls. -/
theorem BatchResult.ComesFrom.record {relay : Relay σ} {requests : List RelayRequest} {b : BatchResult}
    (h : b.ComesFrom relay requests) {request : RelayRequest} (hmem : request ∈ requests) {result : CallResult}
    (hr : result.IsRelayed) (hresult : relay.MayCome request result) :
    ∃ o, (settleCall request.url result).1 = .ok o ∧ (b.record o).ComesFrom relay requests := by
  cases result with
  | answered status body =>
      refine ⟨_, rfl, fun entry hentry => ?_, fun entry hentry => ?_⟩
      · rcases Table.mem_put hentry with rfl | hentry
        · exact ⟨request, hmem, status, body, hresult, rfl⟩
        · exact h.successes entry hentry
      · exact h.errors entry (List.mem_filter.1 hentry).1
  | failed e =>
      refine ⟨_, rfl, fun entry hentry => ?_, fun entry hentry => ?_⟩
      · exact h.successes entry (List.mem_filter.1 hentry).1
      · rcases Table.mem_put hentry with rfl | hentry
        · exact ⟨request, hmem, e, hresult, rfl⟩
        · exact h.errors entry hentry
  -- the relay answers for the call, so that it has not met a defect
  | met defect => exact absurd hr id

/-- A batch under way whose entries come from calls, and so do the results of its late calls. -/
structure BatchRun.ComesFrom (relay : Relay σ) (late : List (Nat × CallResult)) (b : BatchRun) : Prop where
  clean : b.defects = []
  entries : b.result.ComesFrom relay b.requests
  late : ∀ call ∈ late, ∃ request, b.requests[call.1]? = some request ∧ relay.MayCome request call.2

namespace BatchRun

variable {relay : Relay σ} {late : List (Nat × CallResult)} {b : BatchRun}

theorem comesFrom_create (relay : Relay σ) (requests : List RelayRequest) : (create requests).ComesFrom relay [] :=
  ⟨rfl, BatchResult.comesFrom_empty relay requests, by simp⟩

theorem ComesFrom.post (h : b.ComesFrom relay late) (i : Nat) : (b.post i).ComesFrom relay late := by
  unfold BatchRun.post
  split
  · exact ⟨h.clean, h.entries, h.late⟩
  · exact h

theorem ComesFrom.abort (h : b.ComesFrom relay late) : b.abort.ComesFrom relay late := ⟨h.clean, h.entries, h.late⟩

theorem ComesFrom.finish (hrelay : relay.IsRelayed) (h : b.ComesFrom relay late) {i : Nat} {request : RelayRequest}
    (hreq : b.requests[i]? = some request) {result : CallResult} (hresult : relay.MayCome request result) :
    (b.finish i result).1.ComesFrom relay late := by
  obtain ⟨o, hsettle, hfrom⟩ := h.entries.record (List.mem_of_getElem? hreq) (hresult.isRelayed hrelay) hresult
  -- a call that does not run any more leaves the batch as it is
  by_cases hrunning : b.calls[i]? = some .running
  · simp only [BatchRun.finish, hreq, hrunning, hsettle]
    exact ⟨h.clean, hfrom, h.late⟩
  · have hsame : (b.finish i result).1 = b := by
      unfold BatchRun.finish
      split
      · rename_i hcall
        exact absurd hcall hrunning
      · rfl
    rw [hsame]
    exact h

theorem ComesFrom.outcome (h : b.ComesFrom relay late) : b.outcome = .ok b.result := by
  rw [BatchRun.outcome, h.clean]
  rfl

end BatchRun

/-! ## Replies -/

/-- The requests that a task of the bridge names. -/
def TaskInfo.requests (task : TaskInfo) : List RelayRequest :=
  if task.key = "execute" then (RelayRequest.decode task.input).toOption.toList
  else if task.key = "batchExecute" then (decodeBatch task.input).toOption.getD []
  else []

theorem TaskInfo.requests_execute {task : TaskInfo} (hkey : task.key = "execute") :
    task.requests = (RelayRequest.decode task.input).toOption.toList := if_pos hkey

theorem TaskInfo.requests_batchExecute {task : TaskInfo} (hkey : task.key = "batchExecute") :
    task.requests = (decodeBatch task.input).toOption.getD [] := by
  have hne : task.key ≠ "execute" := by
    rw [hkey]
    decide
  rw [requests, if_neg hne, if_pos hkey]

/-- What a task gets whose handler has failed. -/
def internalFailure : Payload := .error "internal task failure"

/-- **What may be replied to a task of the bridge**: an error if the input names nothing to call, and otherwise what the
    calls came to. -/
inductive RepliesTo (relay : Relay σ) (task : TaskInfo) : Payload → Prop
  | noRequest (issues : List Issue) (hkey : task.key = "execute") (hinput : RelayRequest.decode task.input = .error issues) :
      RepliesTo relay task (.error (undecodableInput issues))
  | noBatch (issues : List Issue) (hkey : task.key = "batchExecute") (hinput : decodeBatch task.input = .error issues) :
      RepliesTo relay task (.error (undecodableBatch issues))
  | answered (request : RelayRequest) (status : Int) (body : Json) (hkey : task.key = "execute")
      (hinput : RelayRequest.decode task.input = .ok request) (hcall : relay.MayCome request (.answered status body)) :
      RepliesTo relay task (.success ⟨Text.ofInt status, body⟩)
  | failed (request : RelayRequest) (e : RelayError) (hkey : task.key = "execute")
      (hinput : RelayRequest.decode task.input = .ok request) (hcall : relay.MayCome request (.failed e)) :
      RepliesTo relay task (.error (failedRequest e))
  | batch (requests : List RelayRequest) (b : BatchResult) (hkey : task.key = "batchExecute")
      (hinput : decodeBatch task.input = .ok requests) (hcalls : b.ComesFrom relay requests) :
      RepliesTo relay task (.batch b)

/-- **What is replied to a task of the bridge** is never what a task gets whose handler has failed. -/
theorem RepliesTo.ne_internalFailure {relay : Relay σ} {task : TaskInfo} {payload : Payload} (h : RepliesTo relay task payload) :
    payload ≠ internalFailure := by
  -- all errors that are replied begin with other letters
  have herr : ∀ start rest : Text, start.head? = some (CodePoint.ofChar 'e') →
      Payload.error (start ++ rest) ≠ internalFailure := by
    intro start rest hstart he
    have hhead := congrArg List.head? (Payload.error.inj he)
    rw [List.head?_append, hstart, Option.some_or] at hhead
    revert hhead
    decide
  cases h with
  | noRequest issues _ _ => exact herr _ _ (by decide)
  | noBatch issues _ _ => exact herr _ _ (by decide)
  | answered request status body _ _ _ => simp [internalFailure]
  | failed request e _ _ _ => exact herr _ _ (by decide)
  | batch requests b _ _ _ => simp [internalFailure]

namespace Activity

/-- An activity that has nothing left to do but to report. -/
def Ends : Activity → Prop
  | .done => True
  | .report _ next => next.Ends
  | _ => False

/-- An activity that replies once, with one of some payloads, and then ends, whatever its calls come to. Where it fails
    without a reply the runtime replies in its place. -/
def RepliesOnce (relay : Relay σ) (replies : Payload → Prop) : Activity → Prop
  | .done => False
  | .fail _ => replies internalFailure
  | .reply payload next => replies payload ∧ ∀ delivered, (next delivered).Ends
  | .call request next => ∀ result, relay.MayCome request result → (next result).RepliesOnce relay replies
  | .dispatch requests next => ∀ b, b.ComesFrom relay requests → (next (.ok b)).RepliesOnce relay replies
  | .wait next => next.RepliesOnce relay replies
  | .report _ next => next.RepliesOnce relay replies

/-- An activity that makes no calls any more: it replies once, with one of some payloads, and then ends. -/
def RepliesNow (replies : Payload → Prop) : Activity → Prop
  | .fail _ => replies internalFailure
  | .reply payload next => replies payload ∧ ∀ delivered, (next delivered).Ends
  | .report _ next => next.RepliesNow replies
  | _ => False

theorem RepliesNow.mono {replies replies' : Payload → Prop} (himp : ∀ payload, replies payload → replies' payload)
    {a : Activity} (h : a.RepliesNow replies) : a.RepliesNow replies' := by
  induction a with
  | fail defect => exact himp _ h
  | reply payload next _ => exact ⟨himp _ h.1, h.2⟩
  | report events next ih => exact ih h
  | done => exact h
  | call request next _ => exact h
  | dispatch requests next _ => exact h
  | wait next _ => exact h

theorem RepliesNow.repliesOnce {replies : Payload → Prop} (relay : Relay σ) {a : Activity} (h : a.RepliesNow replies) :
    a.RepliesOnce relay replies := by
  induction a with
  | fail defect => exact h
  | reply payload next _ => exact h
  | report events next ih => exact ih h
  | done => exact h
  | call request next _ => exact absurd h id
  | dispatch requests next _ => exact absurd h id
  | wait next _ => exact absurd h id

/-- **What a handler does for its task**: it replies at once if the input names no request, and otherwise calls the relay for
    those that it names and replies with what the calls came to. It fails if they meet a defect. -/
inductive AnswersFor (relay : Relay σ) (task : TaskInfo) : Activity → Prop
  | now (a : Activity) (hnone : task.requests = []) (hreplies : a.RepliesNow (RepliesTo relay task)) : AnswersFor relay task a
  | call (request : RelayRequest) (next : CallResult → Activity) (hkey : task.key = "execute")
      (hone : task.requests = [request])
      (hrelayed : ∀ result, result.IsRelayed → relay.MayCome request result →
        (next result).RepliesNow (RepliesTo relay task))
      (hmet : ∀ defect, (next (.met defect)).RepliesNow (· = internalFailure)) :
      AnswersFor relay task (.call request next)
  | dispatch (next : Except Defect BatchResult → Activity) (hkey : task.key = "batchExecute")
      (hreturned : ∀ b, b.ComesFrom relay task.requests → (next (.ok b)).RepliesNow (RepliesTo relay task))
      (hmet : ∀ defect, (next (.error defect)).RepliesNow (· = internalFailure)) :
      AnswersFor relay task (.dispatch task.requests next)

/-- Over a relay that answers for every call, such an activity replies once. -/
theorem AnswersFor.repliesOnce {relay : Relay σ} (hrelay : relay.IsRelayed) {task : TaskInfo} {a : Activity}
    (h : a.AnswersFor relay task) : a.RepliesOnce relay (RepliesTo relay task) := by
  cases h with
  | now _ _ hreplies => exact hreplies.repliesOnce relay
  | call request next _ _ hrelayed _ =>
      intro result hcall
      exact (hrelayed result (hcall.isRelayed hrelay) hcall).repliesOnce relay
  | dispatch next _ hreturned _ =>
      intro b hcalls
      exact (hreturned b hcalls).repliesOnce relay

end Activity

/-! ## Handlers -/

variable {relay : Relay σ} {replies : Payload → Prop}

theorem replyOnce_repliesNow {task : TaskInfo} {payload : Payload} (h : replies payload) :
    (replyOnce task payload).RepliesNow replies := by
  refine ⟨h, fun delivered => ?_⟩
  cases delivered with
  | ok _ => trivial
  | error fault => trivial

theorem executeActivity_answersFor (relay : Relay σ) {task : TaskInfo} (hkey : task.key = "execute") :
    (executeActivity task).AnswersFor relay task := by
  have hrequests := TaskInfo.requests_execute hkey
  rw [executeActivity]
  cases hinput : RelayRequest.decode task.input with
  | error issues =>
      rw [hinput] at hrequests
      exact .now _ hrequests (replyOnce_repliesNow (.noRequest issues hkey hinput))
  | ok request =>
      rw [hinput] at hrequests
      refine .call request _ hkey hrequests ?_ fun defect => rfl
      intro result hr hcall
      cases result with
      | answered status body =>
          show Activity.RepliesNow (RepliesTo relay task) (replyOnce task _)
          exact replyOnce_repliesNow (.answered request status body hkey hinput hcall)
      | failed e =>
          show Activity.RepliesNow (RepliesTo relay task) (replyOnce task _)
          exact replyOnce_repliesNow (.failed request e hkey hinput hcall)
      | met defect => exact absurd hr id

theorem batchExecuteActivity_answersFor (relay : Relay σ) {task : TaskInfo} (hkey : task.key = "batchExecute") :
    (batchExecuteActivity task).AnswersFor relay task := by
  have hrequests := TaskInfo.requests_batchExecute hkey
  rw [batchExecuteActivity]
  cases hinput : decodeBatch task.input with
  | error issues =>
      rw [hinput] at hrequests
      exact .now _ hrequests (replyOnce_repliesNow (.noBatch issues hkey hinput))
  | ok requests =>
      have hsame : task.requests = requests := by rw [hrequests, hinput]; rfl
      subst hsame
      refine .dispatch _ hkey ?_ fun defect => rfl
      exact fun b hcalls => replyOnce_repliesNow (.batch task.requests b hkey hinput hcalls)

/-- **The handlers of the bridge** answer for their tasks. -/
theorem relayHandler_answersFor (relay : Relay σ) {task : TaskInfo} (hkey : task.key ∈ relayTaskKeys) :
    ∃ handler, relayHandler? task.key = some handler ∧ (handler task).AnswersFor relay task := by
  rcases List.mem_cons.1 hkey with hkey | hkey
  · exact ⟨executeActivity, by simp [relayHandler?, hkey], executeActivity_answersFor relay hkey⟩
  · have hkey := List.mem_singleton.1 hkey
    refine ⟨batchExecuteActivity, ?_, batchExecuteActivity_answersFor relay hkey⟩
    rw [hkey]
    rfl

/-- **The handlers of the bridge reply once.** -/
theorem relayHandler_repliesOnce (hrelay : relay.IsRelayed) {task : TaskInfo} (hkey : task.key ∈ relayTaskKeys) :
    ∃ handler, relayHandler? task.key = some handler ∧ (handler task).RepliesOnce relay (RepliesTo relay task) := by
  obtain ⟨handler, hhandler, hanswers⟩ := relayHandler_answersFor relay hkey
  exact ⟨handler, hhandler, hanswers.repliesOnce hrelay⟩

end WebhookBridge
