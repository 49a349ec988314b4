import WebhookBridge.Proofs.Dispatch.Aggregation
import WebhookBridge.Proofs.Task.Replies

/-!
# How far a batch has come

A call of a batch is made once and ends once. The calls that have not ended say when the batch returns; those that have not
been made say what a relay would be called for that is closed meanwhile.

## Contents

* `BatchRun.live`: how many calls have not ended;
* `BatchRun.Dispatches`: a batch under way, whose calls come to entries or meet defects;
* `Dispatches.post`, `Dispatches.finish`, `Dispatches.finish_met`, `Dispatches.abort`: what its steps do to it.
-/

namespace WebhookBridge.BatchRun

variable {σ : Type} {relay : Relay σ} {requests : List RelayRequest} {late : List (Nat × CallResult)} {b : BatchRun}
  {request : RelayRequest} {result : CallResult} {i k : Nat}

/-! ## Calls -/

/-- The number of calls that have not ended. -/
def live (b : BatchRun) : Nat := b.calls.countP fun c => !c.isOver

/-- A call that goes on leaves as many, a call that ends leaves one less. -/
theorem countP_set_live {calls : List CallState} {c : CallState} (hcall : calls[i]? = some c) (hlive : c.isOver = false)
    (c' : CallState) : (calls.set i c').countP (fun c => !c.isOver) + (if c'.isOver then 1 else 0)
      = calls.countP fun c => !c.isOver := by
  obtain ⟨hi, hget⟩ := List.getElem?_eq_some_iff.1 hcall
  have hpos : 0 < calls.countP fun c => !c.isOver := by
    apply List.countP_pos_iff.2
    exact ⟨c, List.mem_of_getElem? hcall, by simp [hlive]⟩
  rw [List.countP_set hi, hget]
  cases c'.isOver with
  | true =>
      simp only [hlive, Bool.not_false, Bool.not_true, if_true, Bool.false_eq_true, if_false]
      omega
  | false =>
      simp only [hlive, Bool.not_false, if_true, Bool.false_eq_true, if_false]
      omega

/-- Calls that are still to be made are the others. -/
theorem created_set_iff {calls : List CallState} {c : CallState} (hc : c ≠ .created) :
    (calls.set i c)[k]? = some .created ↔ k ≠ i ∧ calls[k]? = some .created := by
  rw [List.getElem?_set]
  by_cases hk : i = k
  · subst hk
    by_cases hi : i < calls.length
    · simp [hi, hc]
    · simp [hi]
  · simp [hk, Ne.symm hk]

theorem live_create (requests : List RelayRequest) : (create requests).live = requests.length := by
  rw [live, create, List.countP_map]
  apply List.countP_eq_length.2
  intro request _
  rfl

/-- When every call has ended, none is still to be made. -/
theorem not_created_of_live (h : b.live = 0) : b.calls[k]? ≠ some .created := by
  intro hcall
  have hnone := List.countP_eq_zero.1 h .created (List.mem_of_getElem? hcall)
  exact hnone rfl

theorem live_abort (b : BatchRun) : b.abort.live = 0 := by
  apply List.countP_eq_zero.2
  intro c hc
  have hover := List.all_eq_true.1 (isOver_abort b) c hc
  simp [hover]

/-- The calls that have not ended can be counted by their positions. -/
theorem length_livePositions (b : BatchRun) :
    ((List.range b.calls.length).filter fun k => b.calls[k]?.any fun c => !c.isOver).length = b.live := by
  have hcount := List.countP_filterMap (p := fun c : CallState => !c.isOver) (f := fun k => b.calls[k]?)
    (l := List.range b.calls.length)
  rw [filterMap_range_getElem?] at hcount
  rw [live, hcount, ← List.countP_eq_length_filter]
  apply List.countP_congr
  intro k _
  cases b.calls[k]? with
  | none => simp
  | some c => simp

/-! ## Batches under way -/

/-- **A batch under way**: its entries come from calls, and so will those of its late calls; a call that is broken has met a
    defect. -/
structure Dispatches (relay : Relay σ) (requests : List RelayRequest) (late : List (Nat × CallResult)) (b : BatchRun) :
    Prop where
  named : b.requests = requests
  entries : b.result.ComesFrom relay requests
  late : ∀ call ∈ late, ∃ request, requests[call.1]? = some request ∧ call.2.IsRelayed ∧ relay.MayCome request call.2
  broken : .broken ∈ b.calls → b.defects ≠ []

theorem dispatches_create (relay : Relay σ) (requests : List RelayRequest) :
    (create requests).Dispatches relay requests [] where
  named := rfl
  entries := BatchResult.comesFrom_empty relay requests
  late := by simp
  broken h := by
    obtain ⟨request, -, hcall⟩ := List.mem_map.1 h
    cases hcall

/-- Late calls are laid by for when the time limit passes. -/
theorem Dispatches.withLate (h : b.Dispatches relay requests late) {late' : List (Nat × CallResult)}
    (hlate : ∀ call ∈ late', call ∈ late ∨
      ∃ request, requests[call.1]? = some request ∧ call.2.IsRelayed ∧ relay.MayCome request call.2) :
    b.Dispatches relay requests late' := by
  refine ⟨h.named, h.entries, ?_, h.broken⟩
  intro call hcall
  rcases hlate call hcall with hold | hnew
  · exact h.late call hold
  · exact hnew

theorem calls_post (hreq : b.requests[i]? = some request) (hcall : b.calls[i]? = some .created) :
    (b.post i).calls = b.calls.set i .running ∧ (b.post i).defects = b.defects ∧ (b.post i).result = b.result := by
  simp [post, hreq, hcall]

/-- A call that is made runs. -/
theorem running_post (hreq : b.requests[i]? = some request) (hcall : b.calls[i]? = some .created) :
    (b.post i).calls[i]? = some .running := by
  have hi : i < b.calls.length := (List.getElem?_eq_some_iff.1 hcall).1
  rw [(calls_post hreq hcall).1, List.getElem?_set_self hi]

/-- **A call is made.** -/
theorem Dispatches.post (h : b.Dispatches relay requests late) (hreq : requests[i]? = some request)
    (hcall : b.calls[i]? = some .created) : (b.post i).Dispatches relay requests late ∧ (b.post i).live = b.live := by
  have hreq' : b.requests[i]? = some request := by rw [h.named, hreq]
  obtain ⟨hcalls, hdefects, hresult⟩ := calls_post hreq' hcall
  refine ⟨⟨?_, ?_, h.late, ?_⟩, ?_⟩
  · rw [requests_post, h.named]
  · rw [hresult]
    exact h.entries
  · rw [hcalls, hdefects]
    intro hmem
    rcases List.mem_or_eq_of_mem_set hmem with hmem | he
    · exact h.broken hmem
    · cases he
  · rw [live, hcalls]
    exact countP_set_live hcall rfl .running

/-- **A call ends** with what the relay answers for. -/
theorem Dispatches.finish (h : b.Dispatches relay requests late) (hreq : requests[i]? = some request)
    (hcall : b.calls[i]? = some .running) (hr : result.IsRelayed) (hmay : relay.MayCome request result) :
    (b.finish i result).1.Dispatches relay requests late ∧ (b.finish i result).1.live + 1 = b.live ∧
      (b.finish i result).1.calls = b.calls.set i .recorded ∧ (b.finish i result).1.defects = b.defects := by
  obtain ⟨o, hsettle, hfrom⟩ := h.entries.record (List.mem_of_getElem? hreq) hr hmay
  have hreq' : b.requests[i]? = some request := by rw [h.named, hreq]
  have hfinish : (b.finish i result).1 = { b with calls := b.calls.set i .recorded, result := b.result.record o } := by
    simp only [BatchRun.finish, hreq', hcall, hsettle]
  rw [hfinish]
  refine ⟨⟨h.named, hfrom, h.late, ?_⟩, countP_set_live hcall rfl .recorded, rfl, rfl⟩
  intro hmem
  rcases List.mem_or_eq_of_mem_set hmem with hmem | he
  · exact h.broken hmem
  · cases he

/-- **A call meets a defect.** -/
theorem Dispatches.finish_met (h : b.Dispatches relay requests late) (hreq : requests[i]? = some request)
    (hcall : b.calls[i]? = some .running) (defect : Defect) :
    (b.finish i (.met defect)).1.Dispatches relay requests late ∧ (b.finish i (.met defect)).1.live + 1 = b.live ∧
      (b.finish i (.met defect)).1.defects ≠ [] := by
  have hreq' : b.requests[i]? = some request := by rw [h.named, hreq]
  have hfinish : (b.finish i (.met defect)).1 = { b with calls := b.calls.set i .broken, defects := b.defects ++ [defect] } := by
    simp only [BatchRun.finish, hreq', hcall, settleCall]
  rw [hfinish]
  exact ⟨⟨h.named, h.entries, h.late, by simp⟩, countP_set_live hcall rfl .broken, by simp⟩

/-- **The calls that have not ended are cancelled.** -/
theorem Dispatches.abort (h : b.Dispatches relay requests late) : b.abort.Dispatches relay requests late := by
  refine ⟨h.named, h.entries, h.late, ?_⟩
  intro hmem
  obtain ⟨c, hc, he⟩ := List.mem_map.1 hmem
  split at he
  · rw [he] at hc
    exact h.broken hc
  · cases he

end WebhookBridge.BatchRun
