import WebhookBridge.Proofs.Dispatch.Progress
import WebhookBridge.Proofs.Relay.Reopening
import WebhookBridge.Proofs.TaskRuntime.Replying

/-!
# Tasks that are stranded or lost

A relay that is closed refuses calls. A task is stranded if such a call is still to be made for it, and lost if a call that
is made for it meets any other defect. It can be seen from the state of its job how it stands: whether it was stranded or
lost decides between the reply of a handler that has failed and what the calls of the task come to while the relay is open.

## Contents

* `Outstanding`, `Relay.Strands`: the calls that are still to be made, and what is refused of them;
* `Deserves`: what a task gets;
* `TaskRuntime.Makes`, `TaskRuntime.Loses`: turns in which calls are made, and those that lose a task;
* `TaskRuntime.Undertakes`: batches under way, and one lemma for each thing that happens to one;
* `TaskRuntime.Fate`, `TaskRuntime.FateOf`: how a task stands, by the state of its job, and one lemma for each thing that is
  done for a job;
* `Fate.refusing`, `FateOf.of_goes`, `FateOf.closeRelay`: the relay changes.
-/

namespace WebhookBridge

variable {σ : Type} {relay : Relay σ} {reopen : σ → σ} {info : TaskInfo} {failed cut : Prop}

/-! ## Calls that are still to be made -/

/-- A call for a task is still to be made, by the state of the task's job, if it has one. -/
def Outstanding (info : TaskInfo) (request : RelayRequest) : Option JobState → Prop
  | none => request ∈ info.requests
  | some .starting => request ∈ info.requests
  | some (.batching batch _ _ _) => ∃ i : Nat, info.requests[i]? = some request ∧ batch.calls[i]? = some .created
  | some _ => False

/-- **A relay strands a task**: it refuses one of the calls that are still to be made for it. -/
def Relay.Strands (relay : Relay σ) (s : σ) (info : TaskInfo) (state : Option JobState) : Prop :=
  ∃ request, Outstanding info request state ∧ relay.Refuses s request

theorem mem_of_outstanding {request : RelayRequest} {state : Option JobState} (h : Outstanding info request state) :
    request ∈ info.requests := by
  cases state with
  | none => exact h
  | some state =>
      cases state with
      | starting => exact h
      | batching batch late unsettled next =>
          obtain ⟨i, hreq, -⟩ := h
          exact List.mem_of_getElem? hreq
      | resuming a => exact absurd h id
      | calling result next => exact absurd h id
      | waiting next => exact absurd h id
      | «over» => exact absurd h id

/-- A task that names no request is not stranded. -/
theorem Relay.not_strands_of_none (relay : Relay σ) (s : σ) (hnone : info.requests = []) (state : Option JobState) :
    ¬ relay.Strands s info state := by
  rintro ⟨request, houtstanding, -⟩
  have hmem := mem_of_outstanding houtstanding
  rw [hnone] at hmem
  cases hmem

/-- A task that names one request is stranded if that is refused. -/
theorem Relay.strands_starting_iff (relay : Relay σ) (s : σ) {request : RelayRequest} (hone : info.requests = [request]) :
    relay.Strands s info (some .starting) ↔ relay.Refuses s request := by
  constructor
  · rintro ⟨other, houtstanding, hrefuses⟩
    have hother : other ∈ info.requests := houtstanding
    rw [hone, List.mem_singleton] at hother
    rw [← hother]
    exact hrefuses
  · intro hrefuses
    have hmem : request ∈ info.requests := by simp [hone]
    exact ⟨request, hmem, hrefuses⟩

/-- A relay that is open strands no task. -/
theorem Relay.Closable.not_strands (hclosable : relay.Closable reopen) {s : σ} (hopen : reopen s = s) (info : TaskInfo)
    (state : Option JobState) : ¬ relay.Strands s info state := by
  rintro ⟨request, -, hrefuses⟩
  exact hclosable.serves s request hopen hrefuses

/-- Calls for others strand no task. -/
theorem Relay.Closable.strands_iff (hclosable : relay.Closable reopen) {s s' : σ} (hgoes : Relay.Goes reopen s s')
    (info : TaskInfo) (state : Option JobState) : relay.Strands s' info state ↔ relay.Strands s info state := by
  by_cases hopen : reopen s = s
  · exact iff_of_false (hclosable.not_strands (hgoes.stays hopen) info state) (hclosable.not_strands hopen info state)
  · rw [hgoes.idle hopen]

/-- A call that has been made, or that would not be refused, leaves the others to be made. -/
theorem Relay.strands_set {s : σ} {request : RelayRequest} {i : Nat} (hreq : info.requests[i]? = some request)
    {batch batch' : BatchRun} (hnot : batch.calls[i]? = some .created → ¬ relay.Refuses s request) {c : CallState} (hc : c ≠ .created)
    (hcalls : batch'.calls = batch.calls.set i c) {late late' : List (Nat × CallResult)} {unsettled unsettled' : Nat}
    {next next' : Except Defect BatchResult → Activity} :
    relay.Strands s info (some (.batching batch' late' unsettled' next')) ↔
      relay.Strands s info (some (.batching batch late unsettled next)) := by
  constructor
  · rintro ⟨other, ⟨k, hother, hcreated⟩, hrefuses⟩
    rw [hcalls, BatchRun.created_set_iff hc] at hcreated
    exact ⟨other, ⟨k, hother, hcreated.2⟩, hrefuses⟩
  · rintro ⟨other, ⟨k, hother, hcreated⟩, hrefuses⟩
    refine ⟨other, ⟨k, hother, ?_⟩, hrefuses⟩
    rw [hcalls, BatchRun.created_set_iff hc]
    refine ⟨?_, hcreated⟩
    rintro rfl
    rw [hreq] at hother
    cases hother
    exact hnot hcreated hrefuses

/-! ## What a task gets -/

/-- **What a task gets**: the reply of a handler that has failed, or what its input says and its calls come to. -/
def Deserves (relay : Relay σ) (failed : Prop) (info : TaskInfo) (payload : Payload) : Prop :=
  failed ∧ payload = internalFailure ∨ ¬ failed ∧ RepliesTo relay info payload

theorem Activity.RepliesNow.deserves {a : Activity} (hnot : ¬ failed) (h : a.RepliesNow (RepliesTo relay info)) :
    a.RepliesNow (Deserves relay failed info) := h.mono fun _ hpayload => Or.inr ⟨hnot, hpayload⟩

theorem Activity.RepliesNow.deserves_failed {a : Activity} (hfailed : failed) (h : a.RepliesNow (· = internalFailure)) :
    a.RepliesNow (Deserves relay failed info) := h.mono fun _ hpayload => Or.inl ⟨hfailed, hpayload⟩

/-- Whether a turn is one in which the end of a call of a job's batch is noticed. -/
def Turn.settles (n : Nat) : Turn → Bool
  | .settled m _ => m = n
  | _ => false

namespace TaskRuntime

variable {r r' : TaskRuntime σ} {n : Nat}

/-! ## How a task stands -/

/-- The state of a job, if there is one. -/
def jobState? (r : TaskRuntime σ) (n : Nat) : Option JobState := (r.jobs[n]?).map (·.state)

theorem jobState?_of_job {job : Job} (hjob : r.jobs[n]? = some job) : r.jobState? n = some job.state := by
  rw [jobState?, hjob, Option.map_some]

/-- How many ends of calls of a job's batch are still to be noticed. -/
def pending (r : TaskRuntime σ) (n : Nat) : Nat := r.turns.countP (Turn.settles n)

/-- **A task is stranded** by the relay of its runtime. -/
def Strands (relay : Relay σ) (r : TaskRuntime σ) (n : Nat) : Prop :=
  ∃ entry, r.tasks[n]? = some entry ∧ relay.Strands r.relay entry.info (r.jobState? n)

/-- A turn in which a call is made for the task at a position: for its one request when its job starts, or for one of its
    batch. -/
def Makes (r : TaskRuntime σ) (n : Nat) (request : RelayRequest) : Turn → Prop
  | .job m => m = n ∧ r.jobState? n = some .starting ∧
      ∃ entry, r.tasks[n]? = some entry ∧ entry.info.key = "execute" ∧ request ∈ entry.info.requests
  | .call m i => m = n ∧ ∃ batch late unsettled next, r.jobState? n = some (.batching batch late unsettled next) ∧
      batch.requests[i]? = some request ∧ batch.calls[i]? = some .created
  | _ => False

/-- **A turn loses a task**: the call that is made in it for the task is spoiled. -/
def Loses (relay : Relay σ) (r : TaskRuntime σ) (n : Nat) (turn : Turn) : Prop :=
  ∃ request, r.Makes n request turn ∧ relay.Spoils r.relay request

/-- A call of a batch that is made. -/
theorem loses_call_iff (relay : Relay σ) {batch : BatchRun} {late : List (Nat × CallResult)} {unsettled : Nat}
    {next : Except Defect BatchResult → Activity} (hstate : r.jobState? n = some (.batching batch late unsettled next))
    {i : Nat} {request : RelayRequest} (hreq : batch.requests[i]? = some request)
    (hcreated : batch.calls[i]? = some .created) : Loses relay r n (.call n i) ↔ relay.Spoils r.relay request := by
  constructor
  · rintro ⟨other, ⟨-, batch', late', unsettled', next', hstate', hother, -⟩, hspoils⟩
    rw [hstate] at hstate'
    cases hstate'
    rw [hreq] at hother
    cases hother
    exact hspoils
  · exact fun hspoils => ⟨request, ⟨rfl, batch, late, unsettled, next, hstate, hreq, hcreated⟩, hspoils⟩

/-- A job that starts, for a task that names one request. -/
theorem loses_job_iff (relay : Relay σ) {entry : TaskEntry} (hentry : r.tasks[n]? = some entry)
    (hstate : r.jobState? n = some .starting) (hkey : entry.info.key = "execute") {request : RelayRequest}
    (hone : entry.info.requests = [request]) : Loses relay r n (.job n) ↔ relay.Spoils r.relay request := by
  constructor
  · rintro ⟨other, ⟨-, -, entry', hentry', -, hother⟩, hspoils⟩
    rw [hentry] at hentry'
    cases hentry'
    rw [hone, List.mem_singleton] at hother
    rw [← hother]
    exact hspoils
  · intro hspoils
    have hmem : request ∈ entry.info.requests := by simp [hone]
    exact ⟨request, ⟨rfl, hstate, entry, hentry, hkey, hmem⟩, hspoils⟩

/-- A job that starts makes no call of its own for a task that names no request or is of another kind. -/
theorem not_loses_job (relay : Relay σ) {entry : TaskEntry} (hentry : r.tasks[n]? = some entry)
    (hquiet : entry.info.key = "execute" → entry.info.requests = []) : ¬ Loses relay r n (.job n) := by
  rintro ⟨request, ⟨-, -, entry', hentry', hkey, hmem⟩, -⟩
  rw [hentry] at hentry'
  cases hentry'
  rw [hquiet hkey] at hmem
  cases hmem

/-- A batch under way for a task: it fails if a call has met a defect or will be refused, and it returns when the end of
    every call was noticed. -/
structure Undertakes (relay : Relay σ) (reopen : σ → σ) (info : TaskInfo) (failed : Prop) (s : σ) (pending : Nat)
    (batch : BatchRun) (late : List (Nat × CallResult)) (unsettled : Nat)
    (next : Except Defect BatchResult → Activity) : Prop where
  dispatches : batch.Dispatches (relay.whileOpen reopen) info.requests late
  returned : ∀ b, b.ComesFrom (relay.whileOpen reopen) info.requests →
    (next (.ok b)).RepliesNow (RepliesTo (relay.whileOpen reopen) info)
  met : ∀ defect, (next (.error defect)).RepliesNow (· = internalFailure)
  failed_iff : failed ↔ batch.defects ≠ [] ∨ relay.Strands s info (some (.batching batch late unsettled next))
  counted : unsettled = batch.live + pending

/-- **How a task stands**, where it is settled whether it was or will be stranded. As long as its job has not ended nobody has
    tried to reply. A job that ends without a reply was cut off. -/
def Fate (relay : Relay σ) (reopen : σ → σ) (info : TaskInfo) (failed cut : Prop) (s : σ) (pending : Nat)
    (reply : Option Reply) (attempts : List (Payload × Except ReplyFault Unit)) : Option JobState → Prop
  | none => (reply = none ∧ attempts = []) ∧ pending = 0 ∧ (failed ↔ relay.Strands s info none)
  | some .starting => (reply = none ∧ attempts = []) ∧ pending = 0 ∧ (failed ↔ relay.Strands s info (some .starting))
  | some (.resuming a) =>
    (reply = none ∧ attempts = []) ∧ a.RepliesNow (Deserves (relay.whileOpen reopen) failed info)
  | some (.calling result next) =>
    (reply = none ∧ attempts = []) ∧ (next result).RepliesNow (Deserves (relay.whileOpen reopen) failed info)
  | some (.batching batch late unsettled next) =>
    (reply = none ∧ attempts = []) ∧ Undertakes relay reopen info failed s pending batch late unsettled next
  | some (.waiting _) => False
  | some .over =>
    (reply = none ∧ attempts = []) ∧ cut ∨ Answered (Deserves (relay.whileOpen reopen) failed info) reply attempts

/-- How the task at a position stands. -/
def FateOf (relay : Relay σ) (reopen : σ → σ) (info : TaskInfo) (failed cut : Prop) (r : TaskRuntime σ) (n pending : Nat) :
    Prop :=
  Fate relay reopen info failed cut r.relay pending (r.replyTo n) (r.attemptsTo n) (r.jobState? n)

theorem fateOf_of_state {pending : Nat} {state : JobState} (hstate : r.jobState? n = some state)
    (h : Fate relay reopen info failed cut r.relay pending (r.replyTo n) (r.attemptsTo n) (some state)) :
    FateOf relay reopen info failed cut r n pending := by
  rw [FateOf, hstate]
  exact h

theorem FateOf.of_job {pending : Nat} (h : FateOf relay reopen info failed cut r n pending) {job : Job}
    (hjob : r.jobs[n]? = some job) :
    Fate relay reopen info failed cut r.relay pending (r.replyTo n) (r.attemptsTo n) (some job.state) := by
  rw [FateOf, jobState?_of_job hjob] at h
  exact h

theorem jobState?_setJob {job : Job} (hjob : r.jobs[n]? = some job) (state : JobState) :
    (r.setJob n state).jobState? n = some state := by
  simp [jobState?, setJob, hjob]

/-- A job that has ended after the one reply to its task. -/
theorem fateOf_over {pending : Nat} (hn : n < r.jobs.length)
    (h : Answered (Deserves (relay.whileOpen reopen) failed info) (r.replyTo n) (r.attemptsTo n) ∧
      ∀ job, r.jobs[n]? = some job → job.state = .over) : FateOf relay reopen info failed cut r n pending := by
  have hget : r.jobs[n]? = some r.jobs[n] := List.getElem?_eq_getElem hn
  have hstate : r.jobState? n = some .over := by
    rw [jobState?_of_job hget, h.2 _ hget]
  exact fateOf_of_state hstate (Or.inr h.1)

/-! ## Ends that are still to be noticed -/

theorem pending_scheduleAll (r : TaskRuntime σ) (turns : List Turn) :
    (r.scheduleAll turns).pending n = r.pending n + turns.countP (Turn.settles n) := List.countP_append

theorem pending_schedule_settled (r : TaskRuntime σ) (i : Nat) :
    (r.schedule (.settled n i)).pending n = r.pending n + 1 := by
  have hone : [Turn.settled n i].countP (Turn.settles n) = 1 := by simp [Turn.settles]
  exact (pending_scheduleAll r [.settled n i]).trans (by rw [hone])

theorem pending_scheduleAll_calls (r : TaskRuntime σ) (m : Nat) (calls : List Nat) :
    (r.scheduleAll (calls.map (Turn.call m))).pending n = r.pending n := by
  have hnone : (calls.map (Turn.call m)).countP (Turn.settles n) = 0 := by simp [List.countP_map, Turn.settles]
  rw [pending_scheduleAll, hnone, Nat.add_zero]

theorem pending_scheduleAll_settled (r : TaskRuntime σ) (calls : List Nat) :
    (r.scheduleAll (calls.map (Turn.settled n))).pending n = r.pending n + calls.length := by
  have hall : (calls.map (Turn.settled n)).countP (Turn.settles n) = calls.length := by
    rw [List.countP_map]
    apply List.countP_eq_length.2
    intro i _
    simp [Turn.settles]
  rw [pending_scheduleAll, hall]

/-! ## Batches under way -/

section Undertakes

variable {s s' : σ} {pending unsettled i : Nat} {batch batch' : BatchRun} {late late' : List (Nat × CallResult)}
  {next : Except Defect BatchResult → Activity} {request : RelayRequest} {result : CallResult}

/-- A batch that is begun: all of its calls are still to be made. -/
theorem undertakes_create (hpending : pending = 0)
    (hreturned : ∀ b, b.ComesFrom (relay.whileOpen reopen) info.requests →
      (next (.ok b)).RepliesNow (RepliesTo (relay.whileOpen reopen) info))
    (hmet : ∀ defect, (next (.error defect)).RepliesNow (· = internalFailure))
    (hfailed : failed ↔ relay.Strands s info (some .starting)) :
    Undertakes relay reopen info failed s pending (.create info.requests) [] info.requests.length next where
  dispatches := BatchRun.dispatches_create _ _
  returned := hreturned
  met := hmet
  failed_iff := by
    rw [hfailed]
    constructor
    · rintro ⟨request, houtstanding, hrefuses⟩
      obtain ⟨i, hreq⟩ := List.getElem?_of_mem (show request ∈ info.requests from houtstanding)
      have hcreated : (BatchRun.create info.requests).calls[i]? = some .created := by
        rw [BatchRun.create, List.getElem?_map, hreq]
        rfl
      exact Or.inr ⟨request, ⟨i, hreq, hcreated⟩, hrefuses⟩
    · rintro (hdefects | ⟨request, houtstanding, hrefuses⟩)
      · exact absurd rfl hdefects
      · exact ⟨request, mem_of_outstanding houtstanding, hrefuses⟩
  counted := by rw [BatchRun.live_create, hpending, Nat.add_zero]

/-- The relay goes on, and refuses what it refused before. -/
theorem Undertakes.moved (h : Undertakes relay reopen info failed s pending batch late unsettled next)
    (hiff : ∀ state, relay.Strands s' info state ↔ relay.Strands s info state) :
    Undertakes relay reopen info failed s' pending batch late unsettled next := by
  refine ⟨h.dispatches, h.returned, h.met, ?_, h.counted⟩
  rw [h.failed_iff, hiff]

/-- A call that is not refused comes to another state, in which it is no longer to be made. -/
theorem Undertakes.set (h : Undertakes relay reopen info failed s pending batch late unsettled next)
    (hreq : info.requests[i]? = some request) (hnot : batch.calls[i]? = some .created → ¬ relay.Refuses s request)
    {c : CallState} (hc : c ≠ .created) (hcalls : batch'.calls = batch.calls.set i c)
    (hdefects : batch'.defects = batch.defects)
    (hdispatches : batch'.Dispatches (relay.whileOpen reopen) info.requests late) {pending' : Nat}
    (hcounted : unsettled = batch'.live + pending') :
    Undertakes relay reopen info failed s pending' batch' late unsettled next := by
  refine ⟨hdispatches, h.returned, h.met, ?_, hcounted⟩
  rw [hdefects, h.failed_iff]
  exact or_congr_right (Relay.strands_set hreq hnot hc hcalls).symm

/-- **A call is made** that is not refused. -/
theorem Undertakes.post (h : Undertakes relay reopen info failed s pending batch late unsettled next)
    (hreq : info.requests[i]? = some request) (hcreated : batch.calls[i]? = some .created)
    (hnot : ¬ relay.Refuses s request) :
    Undertakes relay reopen info failed s pending (batch.post i) late unsettled next := by
  obtain ⟨hposted, hlive⟩ := h.dispatches.post hreq hcreated
  obtain ⟨hcalls, hdefects, -⟩ := BatchRun.calls_post (by rw [h.dispatches.named, hreq]) hcreated
  have hcounted := h.counted
  exact h.set hreq (fun _ => hnot) (by simp) hcalls hdefects hposted (by omega)

/-- **A call meets a defect**: the batch fails. -/
theorem Undertakes.spoil {failed' : Prop} (h : Undertakes relay reopen info failed s pending batch late unsettled next)
    (hreq : info.requests[i]? = some request) (hcreated : batch.calls[i]? = some .created) (hfailed : failed')
    (defect : Defect) (s' : σ) :
    Undertakes relay reopen info failed' s' (pending + 1) ((batch.post i).finish i (.met defect)).1 late unsettled next := by
  obtain ⟨hposted, hlive⟩ := h.dispatches.post hreq hcreated
  have hrunning := BatchRun.running_post (by rw [h.dispatches.named, hreq]) hcreated
  obtain ⟨hfinished, hended, hspoiled⟩ := hposted.finish_met hreq hrunning defect
  have hcounted := h.counted
  exact ⟨hfinished, h.returned, h.met, iff_of_true hfailed (Or.inl hspoiled), by omega⟩

/-- A call will end late. -/
theorem Undertakes.withLate (h : Undertakes relay reopen info failed s pending batch late unsettled next)
    (hlate : ∀ call ∈ late', call ∈ late ∨ ∃ request, info.requests[call.1]? = some request ∧ call.2.IsRelayed ∧
      (relay.whileOpen reopen).MayCome request call.2) :
    Undertakes relay reopen info failed s pending batch late' unsettled next :=
  ⟨h.dispatches.withLate hlate, h.returned, h.met, h.failed_iff, h.counted⟩

/-- **A call ends** with what the relay answers for. -/
theorem Undertakes.finish (h : Undertakes relay reopen info failed s pending batch late unsettled next)
    (hreq : info.requests[i]? = some request) (hrunning : batch.calls[i]? = some .running) (hr : result.IsRelayed)
    (hmay : (relay.whileOpen reopen).MayCome request result) :
    Undertakes relay reopen info failed s (pending + 1) (batch.finish i result).1 late unsettled next := by
  obtain ⟨hfinished, hended, hcalls, hdefects⟩ := h.dispatches.finish hreq hrunning hr hmay
  have hmade : batch.calls[i]? = some .created → ¬ relay.Refuses s request := by
    intro hcreated
    rw [hrunning] at hcreated
    cases hcreated
  have hcounted := h.counted
  exact h.set hreq hmade (by simp) hcalls hdefects hfinished (by omega)

/-- The end of a call is noticed, and others are still to be noticed. -/
theorem Undertakes.settle (h : Undertakes relay reopen info failed s (pending + 1) batch late unsettled next) :
    Undertakes relay reopen info failed s pending batch late (unsettled - 1) next := by
  have hcounted := h.counted
  exact ⟨h.dispatches, h.returned, h.met, h.failed_iff, by omega⟩

/-- **The calls that have not ended are cancelled** after one has met a defect: the batch fails in any case. -/
theorem Undertakes.abort (h : Undertakes relay reopen info failed s pending batch late unsettled next)
    (hbroken : .broken ∈ batch.calls) :
    Undertakes relay reopen info failed s (pending + batch.live) batch.abort late unsettled next := by
  have hdefects := h.dispatches.broken hbroken
  have hlive := batch.live_abort
  have hcounted := h.counted
  refine ⟨h.dispatches.abort, h.returned, h.met, ?_, by omega⟩
  exact iff_of_true (h.failed_iff.2 (Or.inl hdefects)) (Or.inl hdefects)

/-- **A batch of which every call has ended** comes to what its task gets. -/
theorem Undertakes.outcome (h : Undertakes relay reopen info failed s pending batch late unsettled next)
    (hlive : batch.live = 0) :
    (next batch.outcome).RepliesNow (Deserves (relay.whileOpen reopen) failed info) := by
  have hfailed : failed ↔ batch.defects ≠ [] := by
    rw [h.failed_iff]
    constructor
    · rintro (hdefects | ⟨request, ⟨k, -, hcreated⟩, -⟩)
      · exact hdefects
      · exact absurd hcreated (BatchRun.not_created_of_live hlive)
    · exact Or.inl
  rw [BatchRun.outcome]
  by_cases hdefects : batch.defects = []
  · rw [hdefects]
    exact (h.returned _ h.dispatches.entries).deserves fun hyes => hfailed.1 hyes hdefects
  · rw [if_neg (by simpa using hdefects)]
    exact (h.met _).deserves_failed (hfailed.2 hdefects)

end Undertakes

/-! ## Jobs -/

/-- A job that makes no calls any more. -/
theorem fateOf_advance {pending : Nat} {a : Activity} (hn : n < r.jobs.length) (htask : n < r.tasks.length)
    (huntried : r.replyTo n = none ∧ r.attemptsTo n = [])
    (hnow : a.RepliesNow (Deserves (relay.whileOpen reopen) failed info)) :
    FateOf relay reopen info failed cut (advance relay n n a r) n pending := by
  apply fateOf_over
  · rw [(touchesOnly_advance relay n a r).length_jobs]
    exact hn
  · exact answered_advance a r htask huntried.1 huntried.2 hnow

/-- **A job that starts**, with what a handler of the bridge does for its task. -/
theorem fateOf_begin (hclosable : relay.Closable reopen) (hn : n < r.jobs.length) {entry : TaskEntry}
    (hentry : r.tasks[n]? = some entry) (hstate : r.jobState? n = some .starting)
    (huntried : r.replyTo n = none ∧ r.attemptsTo n = []) (hpending : r.pending n = 0)
    (hfailed : failed ↔ relay.Strands r.relay entry.info (some .starting)) {a : Activity}
    (ha : a.AnswersFor (relay.whileOpen reopen) entry.info) :
    FateOf relay reopen entry.info (failed ∨ Loses relay r n (.job n)) cut (advance relay n n a r) n
      ((advance relay n n a r).pending n) := by
  have hget : r.jobs[n]? = some r.jobs[n] := List.getElem?_eq_getElem hn
  have htask : n < r.tasks.length := (List.getElem?_eq_some_iff.1 hentry).1
  cases ha with
  | now _ hnone hreplies =>
      have hnot : ¬ failed := by
        rw [hfailed]
        exact Relay.not_strands_of_none relay r.relay hnone _
      rw [or_iff_left (not_loses_job relay hentry fun _ => hnone)]
      exact fateOf_advance hn htask huntried (hreplies.deserves hnot)
  | call request next hkey hone hanswered hmet =>
      -- the task fails exactly if its one call meets a defect
      have hfails : failed ∨ Loses relay r n (.job n) ↔ relay.Refuses r.relay request ∨ relay.Spoils r.relay request := by
        rw [hfailed, relay.strands_starting_iff r.relay hone, loses_job_iff relay hentry hstate hkey hone]
      have hnow : (next (relay.call r.relay request).result).RepliesNow
          (Deserves (relay.whileOpen reopen) (failed ∨ Loses relay r n (.job n)) entry.info) := by
        rw [hfails]
        rcases hclosable.call_cases r.relay request with ⟨hbad, defect, hresult⟩ | ⟨hgood, hr, hmay⟩
        · rw [hresult]
          exact (hmet defect).deserves_failed hbad
        · exact (hanswered _ hr hmay).deserves (not_or.2 hgood)
      rw [advance]
      split
      · exact fateOf_of_state (jobState?_setJob hget _) ⟨huntried, hnow⟩
      · exact fateOf_advance hn htask huntried hnow
  | dispatch next hkey hreturned hmet =>
      have hother : entry.info.key = "execute" → entry.info.requests = [] := by
        intro he
        rw [hkey] at he
        exact absurd he (by decide)
      rw [or_iff_left (not_loses_job relay hentry hother), advance]
      split
      · rename_i hempty
        have hnot : ¬ failed := by
          rw [hfailed]
          exact Relay.not_strands_of_none relay r.relay (List.isEmpty_iff.1 hempty) _
        exact fateOf_advance hn htask huntried ((hreturned _ (BatchResult.comesFrom_empty _ _)).deserves hnot)
      · rw [pending_scheduleAll_calls]
        have hbegun := undertakes_create hpending hreturned hmet hfailed
        exact fateOf_of_state (jobState?_setJob hget _) ⟨huntried, hbegun⟩

/-! ## Calls -/

/-- **A call of a batch is made.** -/
theorem fateOf_makeCall (hclosable : relay.Closable reopen)
    (h : FateOf relay reopen info failed cut r n (r.pending n)) (i : Nat) :
    FateOf relay reopen info (failed ∨ Loses relay r n (.call n i)) cut (r.makeCall relay n i) n
      ((r.makeCall relay n i).pending n) := by
  unfold makeCall
  split
  · rename_i task listener batch late unsettled next hjob
    have hstate : r.jobState? n = some (.batching batch late unsettled next) := jobState?_of_job hjob
    obtain ⟨huntried, hbatch⟩ := h.of_job hjob
    split
    · rename_i request hreq hcreated
      have hrunning := BatchRun.running_post hreq hcreated
      rw [loses_call_iff relay hstate hreq hcreated]
      rw [hbatch.dispatches.named] at hreq
      rcases hclosable.call_cases r.relay request with ⟨hbad, defect, hresult⟩ | ⟨⟨hnot, hsound⟩, hr, hmay⟩
      · have hfailed : failed ∨ relay.Spoils r.relay request := by
          apply hbad.imp_left
          exact fun hrefuses => hbatch.failed_iff.2 (Or.inr ⟨request, ⟨i, hreq, hcreated⟩, hrefuses⟩)
        -- a call that meets a defect ends at once
        dsimp only
        rw [hclosable.isLate_of_met hresult, hresult, if_neg (by simp), pending_schedule_settled]
        exact fateOf_of_state (jobState?_setJob hjob _) ⟨huntried, hbatch.spoil hreq hcreated hfailed defect _⟩
      · rw [or_iff_left hsound]
        have hposted := (hbatch.post hreq hcreated hnot).moved
          (hclosable.strands_iff (hclosable.goes r.relay request) info)
        dsimp only
        split
        · refine fateOf_of_state (jobState?_setJob hjob _) ⟨huntried, hposted.withLate ?_⟩
          intro call hcall
          rcases List.mem_append.1 hcall with hcall | hcall
          · exact Or.inl hcall
          · rw [List.mem_singleton.1 hcall]
            exact Or.inr ⟨request, hreq, hr, hmay⟩
        · rw [pending_schedule_settled]
          exact fateOf_of_state (jobState?_setJob hjob _) ⟨huntried, hposted.finish hreq hrunning hr hmay⟩
    · rename_i hnone
      rw [or_iff_left]
      · exact h
      · rintro ⟨request, ⟨-, batch', late', unsettled', next', hstate', hreq, hcreated⟩, -⟩
        rw [hstate] at hstate'
        cases hstate'
        exact hnone request hreq hcreated
  · rename_i hnone
    rw [or_iff_left]
    · exact h
    · rintro ⟨request, ⟨-, batch, late, unsettled, next, hstate, -⟩, -⟩
      obtain ⟨job, hjob, he⟩ := Option.map_eq_some_iff.1 hstate
      obtain ⟨task, listener, jobState⟩ := job
      subst he
      exact hnone _ _ _ _ _ _ hjob

/-- **The end of a call is noticed**, which was still to be noticed before. -/
theorem fateOf_settleCallOf (h : FateOf relay reopen info failed cut r n (r.pending n + 1)) (i : Nat) :
    FateOf relay reopen info failed cut (r.settleCallOf n i) n ((r.settleCallOf n i).pending n) := by
  unfold settleCallOf
  split
  · rename_i task listener batch late unsettled next hjob
    obtain ⟨huntried, hbatch⟩ := h.of_job hjob
    have hpending : ∀ (calls : List Nat) (state : JobState),
        ((r.scheduleAll (calls.map (Turn.settled n))).setJob n state).pending n = r.pending n + calls.length :=
      fun calls _ => pending_scheduleAll_settled r calls
    dsimp only
    split
    · -- the end that is noticed last is that of a batch without calls to be made
      have hlive : batch.live = 0 := by
        have hcounted := hbatch.counted
        omega
      have houtcome : (if batch.calls[i]? = some .broken then batch.abort else batch).outcome = batch.outcome := by
        split
        · exact batch.outcome_abort
        · rfl
      rw [houtcome]
      exact fateOf_of_state (jobState?_setJob hjob _) ⟨huntried, hbatch.outcome hlive⟩
    · rw [hpending]
      by_cases hbroken : batch.calls[i]? = some .broken
      · simp only [hbroken, if_true]
        rw [batch.length_livePositions]
        have hsettled := hbatch.settle.abort (List.mem_of_getElem? hbroken)
        exact fateOf_of_state (jobState?_setJob hjob _) ⟨huntried, hsettled⟩
      · simp only [hbroken, if_false]
        exact fateOf_of_state (jobState?_setJob hjob _) ⟨huntried, hbatch.settle⟩
  · -- ends are noticed of calls of batches alone
    rename_i hnot
    rw [FateOf] at h ⊢
    generalize hstate : r.jobState? n = state at h
    cases state with
    | none => exact absurd h.2.1 (by simp)
    | some state =>
        cases state with
        | starting => exact absurd h.2.1 (by simp)
        | resuming a => exact h
        | calling result next => exact h
        | waiting next => exact h
        | «over» => exact h
        | batching batch late unsettled next =>
            obtain ⟨job, hjob, he⟩ := Option.map_eq_some_iff.1 hstate
            obtain ⟨task, listener, jobState⟩ := job
            subst he
            exact absurd hjob (hnot _ _ _ _ _ _)

/-- **Late calls end.** -/
theorem fateOf_expireCalls (calls : List (Nat × CallResult)) : ∀ r : TaskRuntime σ,
    FateOf relay reopen info failed cut r n (r.pending n) →
    (∀ call ∈ calls, ∃ request, info.requests[call.1]? = some request ∧ call.2.IsRelayed ∧
      (relay.whileOpen reopen).MayCome request call.2) →
    FateOf relay reopen info failed cut (expireCalls n calls r) n ((expireCalls n calls r).pending n) := by
  induction calls with
  | nil => exact fun r h _ => h
  | cons call calls ih =>
      obtain ⟨i, result⟩ := call
      intro r h hcalls
      obtain ⟨⟨request, hreq, hr, hmay⟩, hothers⟩ := List.forall_mem_cons.1 hcalls
      dsimp only at hreq hr hmay
      rw [expireCalls]
      split
      · rename_i task listener batch late unsettled next hjob
        obtain ⟨huntried, hbatch⟩ := h.of_job hjob
        split
        · rename_i hrunning
          dsimp only
          apply ih _ _ hothers
          rw [pending_schedule_settled]
          exact fateOf_of_state (jobState?_setJob hjob _) ⟨huntried, hbatch.finish hreq hrunning hr hmay⟩
        · exact ih r h hothers
      · exact h

/-- **The time limit has passed for a job.** -/
theorem fateOf_expireJob (h : FateOf relay reopen info failed cut r n (r.pending n)) :
    FateOf relay reopen info failed cut (r.expireJob n) n ((r.expireJob n).pending n) := by
  unfold expireJob
  split
  · rename_i task listener result next hjob
    obtain ⟨huntried, hnow⟩ := h.of_job hjob
    exact fateOf_of_state (jobState?_setJob hjob _) ⟨huntried, hnow⟩
  · rename_i task listener batch late unsettled next hjob
    obtain ⟨huntried, hbatch⟩ := h.of_job hjob
    apply fateOf_expireCalls
    · exact fateOf_of_state (jobState?_setJob hjob _) ⟨huntried, hbatch.withLate (by simp)⟩
    · exact hbatch.dispatches.late
  · exact h

/-! ## Cuts -/

/-- **A job is cut off**: if it has not ended, it ends without a reply. -/
theorem fateOf_endJob (hcut : cut) {pending pending' : Nat} (h : FateOf relay reopen info failed cut r n pending)
    (hn : n < r.jobs.length) : FateOf relay reopen info failed cut (r.endJob n) n pending' := by
  have hget : r.jobs[n]? = some r.jobs[n] := List.getElem?_eq_getElem hn
  have hfate := h.of_job hget
  have hstate : (r.endJob n).jobState? n = some .over := jobState?_setJob hget .over
  apply fateOf_of_state hstate
  show (r.replyTo n = none ∧ r.attemptsTo n = []) ∧ cut ∨
    Answered (Deserves (relay.whileOpen reopen) failed info) (r.replyTo n) (r.attemptsTo n)
  generalize (r.jobs[n]).state = state at hfate
  cases state with
  | starting => exact Or.inl ⟨hfate.1, hcut⟩
  | resuming a => exact Or.inl ⟨hfate.1, hcut⟩
  | calling result next => exact Or.inl ⟨hfate.1, hcut⟩
  | batching batch late unsettled next => exact Or.inl ⟨hfate.1, hcut⟩
  | waiting next => exact absurd hfate id
  | «over» => exact hfate

/-! ## The relay changes -/

/-- A task that is stranded will fail. -/
theorem FateOf.of_strands {pending : Nat} (h : FateOf relay reopen info failed cut r n pending)
    (hstrands : relay.Strands r.relay info (r.jobState? n)) : failed := by
  rw [FateOf] at h
  generalize r.jobState? n = state at h hstrands
  cases state with
  | none => exact h.2.2.2 hstrands
  | some state =>
      cases state with
      | starting => exact h.2.2.2 hstrands
      | batching batch late unsettled next => exact h.2.failed_iff.2 (Or.inr hstrands)
      -- nothing is to be made for the others
      | resuming a => exact absurd hstrands fun ⟨_, hnone, _⟩ => hnone
      | calling result next => exact absurd hstrands fun ⟨_, hnone, _⟩ => hnone
      | waiting next => exact absurd hstrands fun ⟨_, hnone, _⟩ => hnone
      | «over» => exact absurd hstrands fun ⟨_, hnone, _⟩ => hnone

/-- **The relay comes to refuse more**: the tasks fail that it strands then, and those that would have failed. -/
theorem Fate.refusing {s s' : σ} {pending : Nat} {reply : Option Reply} {attempts : List (Payload × Except ReplyFault Unit)}
    {state : Option JobState} (h : Fate relay reopen info failed cut s pending reply attempts state)
    (hmore : relay.Strands s info state → relay.Strands s' info state) :
    Fate relay reopen info (failed ∨ relay.Strands s' info state) cut s' pending reply attempts state := by
  -- a task for which no call is to be made is not stranded
  have hsame : (∀ request, ¬ Outstanding info request state) → (failed ∨ relay.Strands s' info state) = failed := by
    intro hquiet
    apply propext
    apply or_iff_left_of_imp
    rintro ⟨request, houtstanding, -⟩
    exact absurd houtstanding (hquiet request)
  cases state with
  | none => exact ⟨h.1, h.2.1, by rw [h.2.2, or_iff_right_of_imp hmore]⟩
  | some state =>
      cases state with
      | starting => exact ⟨h.1, h.2.1, by rw [h.2.2, or_iff_right_of_imp hmore]⟩
      | batching batch late unsettled next =>
          obtain ⟨huntried, hbatch⟩ := h
          refine ⟨huntried, hbatch.dispatches, hbatch.returned, hbatch.met, ?_, hbatch.counted⟩
          rw [hbatch.failed_iff, or_assoc, or_iff_right_of_imp hmore]
      | waiting next => exact h
      | resuming a =>
          rw [hsame fun _ => id]
          exact h
      | calling result next =>
          rw [hsame fun _ => id]
          exact h
      | «over» =>
          rw [hsame fun _ => id]
          exact h

/-- What is done for others leaves a task as it stands. -/
theorem FateOf.of_goes (hclosable : relay.Closable reopen)
    {pending : Nat} (h : FateOf relay reopen info failed cut r n pending) (hgoes : Relay.Goes reopen r.relay r'.relay)
    (hreply : r'.replyTo n = r.replyTo n) (hattempts : r'.attemptsTo n = r.attemptsTo n)
    (hjob : r'.jobs[n]? = r.jobs[n]?) : FateOf relay reopen info failed cut r' n pending := by
  have hstate : r'.jobState? n = r.jobState? n := by rw [jobState?, jobState?, hjob]
  have hiff := hclosable.strands_iff hgoes info (r.jobState? n)
  have hsame : (failed ∨ relay.Strands r'.relay info (r.jobState? n)) = failed := by
    apply propext
    apply or_iff_left_of_imp
    intro hstrands
    exact h.of_strands (hiff.1 hstrands)
  have hmoved := Fate.refusing h hiff.2
  rw [hsame] at hmoved
  rw [FateOf, hreply, hattempts, hstate]
  exact hmoved

/-- **The relay is closed**: the tasks fail that are then stranded. -/
theorem FateOf.closeRelay (hclosable : relay.Closable reopen)
    {pending : Nat} (h : FateOf relay reopen info failed cut r n pending) (hopen : reopen r.relay = r.relay) (s : σ) :
    FateOf relay reopen info (failed ∨ relay.Strands s info (r.jobState? n)) cut { r with relay := s } n pending := by
  have hnone := hclosable.not_strands hopen info (r.jobState? n)
  exact Fate.refusing h fun hstrands => absurd hstrands hnone

end TaskRuntime

end WebhookBridge
