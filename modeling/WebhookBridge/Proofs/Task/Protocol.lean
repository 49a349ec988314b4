import WebhookBridge.Proofs.Dispatch.AllOrNothing
import WebhookBridge.Proofs.Task.Performing

/-!
# The protocol of replies

Whatever the relay answers, in whatever order the calls of a batch end, and whether or not its reply is delivered, a handler
of the bridge ends, and has replied once: with an error, before any call, if its input does not say what to call; and
otherwise with what its calls have come to, after each of them was made once.

## Contents

* `Deed`: what a handler does that others see;
* `Activity.Goes`: the ways in which an activity can go, `exists_goes` the one over a relay;
* `RepliesWith`: which reply a task gets;
* `handlers_follow_protocol`: the handlers of the bridge.
-/

namespace WebhookBridge

variable {σ : Type}

/-! ## Deeds -/

/-- What a handler does that others see: it calls the relay, dispatches a batch, whose calls are made and end in some order,
    replies, or reports. -/
inductive Deed where
  | called (request : RelayRequest) (result : CallResult)
  | dispatched (requests : List RelayRequest) (actions : List BatchRun.Action)
  | replied (payload : Payload) (delivered : Except ReplyFault Unit)
  | reported (events : List LogEvent)

namespace Deed

/-- What the relay is called for. -/
def calls : Deed → List RelayRequest
  | .called request _ => [request]
  | .dispatched requests actions => ((BatchRun.create requests).performAll actions).posted
  | .replied _ _ => []
  | .reported _ => []

/-- A reply, and what became of it. -/
def reply? : Deed → Option (Payload × Except ReplyFault Unit)
  | .replied payload delivered => some (payload, delivered)
  | _ => none

/-- Whether the relay answers for all calls. -/
def IsRelayed : Deed → Prop
  | .called _ result => result.IsRelayed
  | .dispatched _ actions => ∀ i result, .finish i result ∈ actions → result.IsRelayed
  | .replied _ _ => True
  | .reported _ => True

end Deed

/-! ## Ways to go -/

/-- **The ways in which an activity can go**: what is done, in order, and how it ends. A call may come to anything, the calls of
    a batch may be made and end in any order, and a reply may be delivered or not. -/
inductive Activity.Goes : Activity → List Deed → Except Defect Unit → Prop
  | done : Goes .done [] (.ok ())
  | fail (defect : Defect) : Goes (.fail defect) [] (.error defect)
  | reply {payload : Payload} {next : Except ReplyFault Unit → Activity} {deeds : List Deed} {ending : Except Defect Unit}
    (delivered : Except ReplyFault Unit) (h : (next delivered).Goes deeds ending) :
    Goes (.reply payload next) (.replied payload delivered :: deeds) ending
  | call {request : RelayRequest} {next : CallResult → Activity} {deeds : List Deed} {ending : Except Defect Unit}
    (result : CallResult) (h : (next result).Goes deeds ending) :
    Goes (.call request next) (.called request result :: deeds) ending
  | dispatch {requests : List RelayRequest} {next : Except Defect BatchResult → Activity} {deeds : List Deed}
    {ending : Except Defect Unit} (actions : List BatchRun.Action) (horder : BatchRun.IsSchedule requests.length actions)
    (h : (next ((BatchRun.create requests).performAll actions).outcome).Goes deeds ending) :
    Goes (.dispatch requests next) (.dispatched requests actions :: deeds) ending
  | wait {next : Activity} {deeds : List Deed} {ending : Except Defect Unit} (h : next.Goes deeds ending) :
    Goes (.wait next) deeds ending
  | report {events : List LogEvent} {next : Activity} {deeds : List Deed} {ending : Except Defect Unit}
    (h : next.Goes deeds ending) : Goes (.report events next) (.reported events :: deeds) ending

variable {deeds : List Deed} {ending : Except Defect Unit} {task : TaskInfo} {payload : Payload}

/-- An activity over a relay goes one of its ways, from wherever it stands. -/
theorem Activity.perform_goes (relay : Relay σ) (deliver : Delivery) (a : Activity) : ∀ before : Performance σ,
    before.ending = .ok () → ∃ deeds, a.Goes deeds (a.perform relay deliver before).ending ∧
      (a.perform relay deliver before).replies = before.replies ++ deeds.filterMap Deed.reply? ∧
      (relay.IsRelayed → ∀ deed ∈ deeds, deed.IsRelayed) := by
  induction a with
  | done =>
      intro before hbefore
      refine ⟨[], ?_, (List.append_nil _).symm, by simp⟩
      rw [perform, hbefore]
      exact .done
  | fail defect => exact fun before _ => ⟨[], .fail defect, (List.append_nil _).symm, by simp⟩
  | reply payload next ih =>
      intro before hbefore
      obtain ⟨deeds, hgoes, hreplies, hrelayed⟩ := ih (deliver (before.replies.map (·.1)) payload)
        { before with replies := before.replies ++ [(payload, deliver (before.replies.map (·.1)) payload)] } hbefore
      refine ⟨_, .reply _ hgoes, ?_, fun h => ?_⟩
      · rw [perform, hreplies, List.append_assoc]
        rfl
      · exact List.forall_mem_cons.2 ⟨trivial, hrelayed h⟩
  | call request next ih =>
      intro before hbefore
      obtain ⟨deeds, hgoes, hreplies, hrelayed⟩ := ih (relay.call before.state request).result
        { before with log := before.log ++ (relay.call before.state request).log, state := (relay.call before.state request).state }
        hbefore
      refine ⟨_, .call _ hgoes, hreplies, fun h => ?_⟩
      exact List.forall_mem_cons.2 ⟨h _ _, hrelayed h⟩
  | dispatch requests next ih =>
      intro before hbefore
      obtain ⟨deeds, hgoes, hreplies, hrelayed⟩ := ih (dispatchBatch relay before.state requests).outcome
        { before with log := before.log ++ (dispatchBatch relay before.state requests).log,
                      state := (dispatchBatch relay before.state requests).state } hbefore
      -- a batch over a relay goes through one of the orders of its calls
      refine ⟨.dispatched requests (relay.waves before.state requests) :: deeds, ?_, hreplies, fun h => ?_⟩
      · refine .dispatch _ (relay.isSchedule_waves before.state requests) ?_
        rw [Relay.waves, ← BatchRun.outcome_dispatchBatch]
        exact hgoes
      · exact List.forall_mem_cons.2 ⟨Relay.relayed_waves_iff.2 fun c _ => h _ _, hrelayed h⟩
  | wait next ih =>
      intro before hbefore
      obtain ⟨deeds, hgoes, hrest⟩ := ih before hbefore
      exact ⟨deeds, .wait hgoes, hrest⟩
  | report events next ih =>
      intro before hbefore
      obtain ⟨deeds, hgoes, hreplies, hrelayed⟩ := ih { before with log := before.log ++ events } hbefore
      exact ⟨_, .report hgoes, hreplies, fun h => List.forall_mem_cons.2 ⟨trivial, hrelayed h⟩⟩

/-- **Over a relay** an activity goes one of its ways, with the replies that it has made. -/
theorem Activity.exists_goes (relay : Relay σ) (deliver : Delivery) (a : Activity) (s : σ) :
    ∃ deeds, a.Goes deeds (a.run relay deliver s).ending ∧
      deeds.filterMap Deed.reply? = (a.run relay deliver s).replies ∧
      (relay.IsRelayed → ∀ deed ∈ deeds, deed.IsRelayed) := by
  obtain ⟨deeds, hgoes, hreplies, hrelayed⟩ := a.perform_goes relay deliver ⟨.ok (), [], [], s⟩ rfl
  exact ⟨deeds, hgoes, hreplies.symm, hrelayed⟩

/-! ## Replies -/

/-- What is done after a reply: one that is not delivered is logged. -/
def afterReply (task : TaskInfo) (payload : Payload) : Except ReplyFault Unit → List Deed
  | .ok () => []
  | .error _ => [.reported [replyFailureLog task payload]]

/-- **A reply** is made once, whether or not it is delivered. -/
theorem goes_replyOnce (h : (replyOnce task payload).Goes deeds ending) :
    ending = .ok () ∧ ∃ delivered, deeds = .replied payload delivered :: afterReply task payload delivered := by
  rw [replyOnce] at h
  cases h with
  | reply delivered h =>
      cases delivered with
      | ok _ =>
          cases h with
          | done => exact ⟨rfl, .ok (), rfl⟩
      | error fault =>
          cases h with
          | report h =>
              cases h with
              | done => exact ⟨rfl, .error fault, rfl⟩

/-- **Which reply a task gets** after what its handler has done: an error that says why the input cannot be decoded; the answer
    to the call, or an error that says why it failed; or what the batch has returned. -/
inductive RepliesWith (task : TaskInfo) : List Deed → Payload → Prop
  | noRequest (issues : List Issue) (hkey : task.key = "execute") (hinput : RelayRequest.decode task.input = .error issues) :
    RepliesWith task [] (.error (("err while decoding input data: " : Text) ++ summary issues))
  | noBatch (issues : List Issue) (hkey : task.key = "batchExecute") (hinput : decodeBatch task.input = .error issues) :
    RepliesWith task [] (.error (("err while decoding batch input data: " : Text) ++ summary issues))
  | answered (request : RelayRequest) (status : Int) (body : Json) (hkey : task.key = "execute")
    (hinput : RelayRequest.decode task.input = .ok request) :
    RepliesWith task [.called request (.answered status body), .reported []] (.success ⟨Text.ofInt status, body⟩)
  | failed (request : RelayRequest) (e : RelayError) (log : List LogEvent) (hkey : task.key = "execute")
    (hinput : RelayRequest.decode task.input = .ok request) :
    RepliesWith task [.called request (.failed e), .reported log]
      (.error (("err while performing the post request: " : Text) ++ e.message))
  | batch (requests : List RelayRequest) (actions : List BatchRun.Action) (result : BatchResult)
    (hkey : task.key = "batchExecute") (hinput : decodeBatch task.input = .ok requests)
    (horder : BatchRun.IsSchedule requests.length actions)
    (hreturned : ((BatchRun.create requests).performAll actions).returned? = some (.ok result)) :
    RepliesWith task [.dispatched requests actions] (.batch result)

/-- Before the reply nothing was replied, and the relay was called once for each request of the input. -/
theorem RepliesWith.before {before : List Deed} (h : RepliesWith task before payload)
    (hrelayed : ∀ deed ∈ before, deed.IsRelayed) :
    before.filterMap Deed.reply? = [] ∧ (before.flatMap Deed.calls).Perm task.requests := by
  cases h with
  | noRequest issues hkey hinput =>
      rw [TaskInfo.requests_execute hkey, hinput]
      exact ⟨rfl, .refl _⟩
  | noBatch issues hkey hinput =>
      rw [TaskInfo.requests_batchExecute hkey, hinput]
      exact ⟨rfl, .refl _⟩
  | answered request status body hkey hinput =>
      rw [TaskInfo.requests_execute hkey, hinput]
      exact ⟨rfl, .refl _⟩
  | failed request e log hkey hinput =>
      rw [TaskInfo.requests_execute hkey, hinput]
      exact ⟨rfl, .refl _⟩
  | batch requests actions result hkey hinput horder hreturned =>
      rw [TaskInfo.requests_batchExecute hkey, hinput]
      have hposted := horder.posted_perm (hrelayed _ (List.mem_singleton_self _))
      refine ⟨rfl, ?_⟩
      simpa [Deed.calls, Except.toOption] using hposted

/-! ## Handlers -/

/-- **The handler of a single call.** -/
theorem goes_executeActivity (hkey : task.key = "execute") (h : (executeActivity task).Goes deeds ending)
    (hrelayed : ∀ deed ∈ deeds, deed.IsRelayed) : ending = .ok () ∧ ∃ before payload delivered,
      deeds = before ++ .replied payload delivered :: afterReply task payload delivered ∧ RepliesWith task before payload := by
  rw [executeActivity] at h
  cases hinput : RelayRequest.decode task.input with
  | error issues =>
      rw [hinput] at h
      obtain ⟨hending, delivered, rfl⟩ := goes_replyOnce h
      exact ⟨hending, [], _, delivered, rfl, .noRequest issues hkey hinput⟩
  | ok request =>
      rw [hinput] at h
      cases h with
      | call result h =>
          have hresult : result.IsRelayed := hrelayed _ (List.mem_cons_self ..)
          cases h with
          | report h =>
              cases result with
              | answered status body =>
                  obtain ⟨hending, delivered, rfl⟩ := goes_replyOnce h
                  exact ⟨hending, _, _, delivered, rfl, .answered request status body hkey hinput⟩
              | failed e =>
                  obtain ⟨hending, delivered, rfl⟩ := goes_replyOnce h
                  exact ⟨hending, _, _, delivered, rfl, .failed request e _ hkey hinput⟩
              | met defect => exact absurd hresult id

/-- **The handler of a batch.** -/
theorem goes_batchExecuteActivity (hkey : task.key = "batchExecute") (h : (batchExecuteActivity task).Goes deeds ending)
    (hrelayed : ∀ deed ∈ deeds, deed.IsRelayed) : ending = .ok () ∧ ∃ before payload delivered,
      deeds = before ++ .replied payload delivered :: afterReply task payload delivered ∧ RepliesWith task before payload := by
  cases hinput : decodeBatch task.input with
  | error issues =>
      rw [batchExecuteActivity, hinput] at h
      obtain ⟨hending, delivered, rfl⟩ := goes_replyOnce h
      exact ⟨hending, [], _, delivered, rfl, .noBatch issues hkey hinput⟩
  | ok requests =>
      rw [batchExecuteActivity_eq hinput] at h
      cases h with
      | dispatch actions horder h =>
          have hreturned := horder.returned?_eq (hrelayed _ (List.mem_cons_self ..))
          obtain ⟨-, houtcome⟩ := BatchRun.returned?_eq_some hreturned
          rw [← houtcome, afterBatch] at h
          obtain ⟨hending, delivered, rfl⟩ := goes_replyOnce h
          exact ⟨hending, [.dispatched requests actions], _, delivered, rfl, .batch requests actions _ hkey hinput horder hreturned⟩

/-- **The protocol of replies.** In whatever way the handler of a task goes, if the relay answers for its calls: it ends without
    a defect, and what it does is to make its calls, one for each request of the input, and then one reply, which says what they
    came to, or that the input cannot be decoded; a reply that is not delivered is logged, and that is all. Over every relay
    that answers for its calls, and whatever becomes of replies, it does go one of these ways. -/
theorem handlers_follow_protocol (hkey : task.key ∈ relayTaskKeys) : ∃ handler, relayHandler? task.key = some handler ∧
    (∀ deeds ending, (handler task).Goes deeds ending → (∀ deed ∈ deeds, deed.IsRelayed) →
      ending = .ok () ∧ ∃ before payload delivered,
        deeds = before ++ .replied payload delivered :: afterReply task payload delivered ∧
        before.filterMap Deed.reply? = [] ∧
        (before.flatMap Deed.calls).Perm task.requests ∧
        RepliesWith task before payload) ∧
    ∀ {σ : Type} (relay : Relay σ) (deliver : Delivery) (s : σ), relay.IsRelayed →
      ∃ deeds, (handler task).Goes deeds ((handler task).run relay deliver s).ending ∧
        deeds.filterMap Deed.reply? = ((handler task).run relay deliver s).replies ∧ ∀ deed ∈ deeds, deed.IsRelayed := by
  -- the handlers differ in how they come to their reply
  have hgoes : ∃ handler, relayHandler? task.key = some handler ∧
      ∀ deeds ending, (handler task).Goes deeds ending → (∀ deed ∈ deeds, deed.IsRelayed) →
        ending = .ok () ∧ ∃ before payload delivered,
          deeds = before ++ .replied payload delivered :: afterReply task payload delivered ∧
          RepliesWith task before payload := by
    rcases List.mem_cons.1 hkey with hkey | hkey
    · exact ⟨executeActivity, by simp [relayHandler?, hkey], fun _ _ => goes_executeActivity hkey⟩
    · have hkey := List.mem_singleton.1 hkey
      refine ⟨batchExecuteActivity, by rw [hkey]; rfl, fun _ _ => goes_batchExecuteActivity hkey⟩
  obtain ⟨handler, hhandler, hgoes⟩ := hgoes
  refine ⟨handler, hhandler, fun deeds ending h hrelayed => ?_, fun relay deliver s hrelay => ?_⟩
  · obtain ⟨hending, before, payload, delivered, rfl, hreplies⟩ := hgoes deeds ending h hrelayed
    obtain ⟨hnone, hcalls⟩ := hreplies.before fun deed hmem => hrelayed deed (List.mem_append_left _ hmem)
    exact ⟨hending, before, payload, delivered, rfl, hnone, hcalls, hreplies⟩
  · obtain ⟨deeds, hway, hreplies, hrelayed⟩ := (handler task).exists_goes relay deliver s
    exact ⟨deeds, hway, hreplies, hrelayed hrelay⟩

/-- Two requests, a task that names them, a batch of them of which the calls end in the other order, and what is done of it where the
    reply is not delivered. -/
def twoRequests : List RelayRequest := [⟨"a", .null⟩, ⟨"b", .null⟩]
def twoCallsTask : TaskInfo := ⟨"batchExecute", "1", "[\x7b\"url\":\"a\"\x7d,\x7b\"url\":\"b\"\x7d]"⟩
def swappedOrder : List BatchRun.Action :=
  [.post 0, .post 1, .finish 1 (.answered 200 .null), .notice, .finish 0 (.failed ⟨.transport, "refused"⟩)]
def twoCallsReply : Payload := .batch ⟨[("b", ⟨"200", .null⟩)], [("a", "refused")]⟩
def twoCallsDeeds : List Deed :=
  [.dispatched twoRequests swappedOrder, .replied twoCallsReply (.error (.undelivered "gone")),
    .reported [replyFailureLog twoCallsTask twoCallsReply]]

theorem handlers_follow_protocol_swapped :
    relayHandler? twoCallsTask.key = some batchExecuteActivity ∧
    (batchExecuteActivity twoCallsTask).Goes twoCallsDeeds (.ok ()) ∧ (∀ deed ∈ twoCallsDeeds, deed.IsRelayed) ∧
    ∃ before payload delivered,
      twoCallsDeeds = before ++ .replied payload delivered :: afterReply twoCallsTask payload delivered ∧
      (before.flatMap Deed.calls).Perm twoRequests ∧ RepliesWith twoCallsTask before payload := by
  have hinput : decodeBatch twoCallsTask.input = .ok twoRequests := by cbv
  have horder : BatchRun.IsSchedule twoRequests.length swappedOrder := by
    refine ⟨by decide, by decide, ?_⟩
    intro before i result after heq
    rcases before with _ | ⟨_, _ | ⟨_, _ | ⟨_, _ | ⟨_, _ | ⟨_, before⟩⟩⟩⟩⟩ <;>
      simp [swappedOrder] at heq <;> grind
  have hgoes : (batchExecuteActivity twoCallsTask).Goes twoCallsDeeds (.ok ()) := by
    rw [batchExecuteActivity_eq hinput]
    apply Activity.Goes.dispatch swappedOrder horder
    rw [show ((BatchRun.create twoRequests).performAll swappedOrder).outcome
      = .ok ⟨[("b", ⟨"200", .null⟩)], [("a", "refused")]⟩ from by cbv, afterBatch, replyOnce]
    apply Activity.Goes.reply (.error (.undelivered "gone"))
    apply Activity.Goes.report
    apply Activity.Goes.done
  have hrelayed : ∀ deed ∈ twoCallsDeeds, deed.IsRelayed := by
    refine List.forall_mem_cons.2 ⟨?_, List.forall_mem_cons.2 ⟨trivial, List.forall_mem_cons.2 ⟨trivial, by simp⟩⟩⟩
    intro i result hmem
    simp only [swappedOrder, List.mem_cons, reduceCtorEq, BatchRun.Action.finish.injEq, List.not_mem_nil, false_or, or_false] at hmem
    rcases hmem with ⟨-, rfl⟩ | ⟨-, rfl⟩
    · trivial
    · trivial
  obtain ⟨handler, hhandler, hlaw, -⟩ := @handlers_follow_protocol twoCallsTask (by decide)
  have hsame : handler = batchExecuteActivity := by
    rw [show relayHandler? twoCallsTask.key = some batchExecuteActivity from rfl] at hhandler
    exact (Option.some.inj hhandler).symm
  subst hsame
  obtain ⟨-, before, payload, delivered, heq, -, hcalls, hreplies⟩ := hlaw _ _ hgoes hrelayed
  rw [TaskInfo.requests_batchExecute rfl, hinput] at hcalls
  exact ⟨hhandler, hgoes, hrelayed, before, payload, delivered, heq, hcalls, hreplies⟩

end WebhookBridge
