import WebhookBridge.Dispatch.Schedule
import WebhookBridge.Proofs.Dispatch.Aggregation

/-!
# A batch over a relay

A batch over a relay is one of the orders in which calls can be made and end: the calls are made in the order of the
requests, each in the state in which the call before it has left the relay; those that are not late end at once, and the
late ones after all others. So the law of batches holds for it.

## Contents

* `Relay.calls`: the calls of a batch, each with the state that it finds the relay in;
* `BatchRun.startActions`, `BatchRun.lateCalls`, `BatchRun.waves`: what happens, as actions;
* `BatchRun.isSchedule_waves`: they are an order of calls;
* `outcome_dispatchBatch`, `dispatchBatch_ok_iff`: what the batch comes to.
-/

namespace WebhookBridge

variable {σ : Type}

/-- The calls of a batch over a relay: each request with the state that the relay is called in. -/
def Relay.calls (relay : Relay σ) : σ → List RelayRequest → List (σ × RelayRequest)
  | _, [] => []
  | s, request :: rest => (s, request) :: relay.calls (relay.call s request).state rest

/-- What a call of a batch comes to. -/
def Relay.stepOf (relay : Relay σ) (c : σ × RelayRequest) : CallStep σ := relay.call c.1 c.2

namespace BatchRun

/-! ## The actions -/

/-- What happens to a batch while its calls are made, those from position `i` on: a call that is not late ends at once. -/
def startActions : Nat → List (CallStep σ) → List Action
  | _, [] => []
  | i, step :: rest =>
    .post i :: ((if step.isLate then [] else [.finish i step.result]) ++ startActions (i + 1) rest)

/-- The late calls, from position `i` on, with what they come to. -/
def lateCalls : Nat → List (CallStep σ) → List (Nat × CallResult)
  | _, [] => []
  | i, step :: rest => (if step.isLate then [(i, step.result)] else []) ++ lateCalls (i + 1) rest

/-- The end of a call as an action. -/
def endOf (call : Nat × CallResult) : Action := .finish call.1 call.2

/-- **All that happens to a batch over a relay**, given what its calls come to. -/
def waves (steps : List (CallStep σ)) : List Action :=
  startActions 0 steps ++ .notice :: ((lateCalls 0 steps).map endOf ++ [.notice])

variable {relay : Relay σ}

/-- The calls are made as the actions say, and the late ones are kept. -/
theorem startCalls_eq (relay : Relay σ) (rest : List RelayRequest) : ∀ (i : Nat) (w : Wave σ),
    (startCalls relay i rest w).batch = w.batch.performAll (startActions i ((relay.calls w.state rest).map relay.stepOf)) ∧
      (startCalls relay i rest w).late = w.late ++ lateCalls i ((relay.calls w.state rest).map relay.stepOf) := by
  induction rest with
  | nil => exact fun i w => ⟨rfl, (List.append_nil _).symm⟩
  | cons request rest ih =>
      intro i w
      simp only [Relay.calls, List.map_cons, Relay.stepOf, startActions, lateCalls]
      by_cases hlate : (relay.call w.state request).isLate = true
      · simp only [startCalls, hlate, if_true]
        obtain ⟨hbatch, hlater⟩ := ih (i + 1) ⟨w.batch.post i, w.late ++ [(i, (relay.call w.state request).result)],
          w.log ++ (relay.call w.state request).log, (relay.call w.state request).state⟩
        rw [hbatch, hlater]
        exact ⟨rfl, List.append_assoc _ _ _⟩
      · simp only [startCalls, hlate, Bool.false_eq_true, if_false]
        obtain ⟨hbatch, hlater⟩ := ih (i + 1) ⟨((w.batch.post i).finish i (relay.call w.state request).result).1, w.late,
          w.log ++ (relay.call w.state request).log ++ ((w.batch.post i).finish i (relay.call w.state request).result).2,
          (relay.call w.state request).state⟩
        rw [hbatch, hlater]
        exact ⟨rfl, rfl⟩

theorem finishLate_eq (late : List (Nat × CallResult)) : ∀ b : BatchRun,
    (b.finishLate late).1 = b.performAll (late.map endOf) := by
  induction late with
  | nil => exact fun b => rfl
  | cons call late ih => exact fun b => ih (b.finish call.1 call.2).1

theorem performAll_append (b : BatchRun) (first second : List Action) :
    b.performAll (first ++ second) = (b.performAll first).performAll second := List.foldl_append

/-- **A batch over a relay** comes to what its actions lead to. -/
theorem outcome_dispatchBatch (s : σ) (requests : List RelayRequest) :
    (dispatchBatch relay s requests).outcome =
      ((create requests).performAll (waves ((relay.calls s requests).map relay.stepOf))).outcome := by
  obtain ⟨hbatch, hlate⟩ := startCalls_eq relay requests 0 ⟨create requests, [], startLog requests, s⟩
  rw [waves, performAll_append, ← hbatch]
  simp only [List.nil_append] at hlate
  rw [← hlate]
  show ((_ : BatchRun).finishLate _).1.notice.outcome = (BatchRun.performAll _ (_ :: _)).outcome
  rw [finishLate_eq]
  show _ = ((performAll _ (_ ++ [Action.notice])).outcome)
  rw [performAll_append]
  rfl

/-! ## The order -/

theorem made_startActions (steps : List (CallStep σ)) : ∀ i,
    made (startActions i steps) = List.range' i steps.length := by
  induction steps with
  | nil => exact fun i => rfl
  | cons step steps ih =>
      intro i
      rw [startActions, List.length_cons, List.range'_succ, ← ih (i + 1)]
      cases step.isLate with
      | true => rfl
      | false => rfl

theorem ended_endOf (late : List (Nat × CallResult)) : ended (late.map endOf) = late.map (·.1) := by
  induction late with
  | nil => rfl
  | cons call late ih => exact congrArg (call.1 :: ·) ih

/-- Each call ends once, at once or late. -/
theorem ended_startActions (steps : List (CallStep σ)) : ∀ i,
    (ended (startActions i steps) ++ (lateCalls i steps).map (·.1)).Perm (List.range' i steps.length) := by
  induction steps with
  | nil => exact fun i => List.Perm.refl _
  | cons step steps ih =>
      intro i
      rw [List.length_cons, List.range'_succ, startActions, lateCalls]
      cases step.isLate with
      | true => exact List.perm_middle.trans ((ih (i + 1)).cons i)
      | false => exact (ih (i + 1)).cons i

/-- An order in which every call that ends was made before. -/
def InOrder (actions : List Action) : Prop :=
  ∀ before i result after, actions = before ++ .finish i result :: after → .post i ∈ before

/-- Calls may be followed by others, in order, and by the ends of those that were made. -/
theorem InOrder.append {first second : List Action} (h : InOrder first)
    (hsecond : ∀ before i result after, second = before ++ .finish i result :: after → .post i ∈ first ++ before) :
    InOrder (first ++ second) := by
  intro before i result after heq
  rcases List.append_eq_append_iff.1 heq with ⟨mid, rfl, hmid⟩ | ⟨mid, hfirst, hmid⟩
  · exact hsecond mid i result after hmid
  · cases mid with
    | nil =>
        rw [List.append_nil] at hfirst
        have hmem := hsecond [] i result after hmid.symm
        rwa [List.append_nil, hfirst] at hmem
    | cons a mid =>
        obtain ⟨rfl, -⟩ := List.cons.inj hmid
        exact h before i result mid hfirst

/-- Actions that end no call are in order. -/
theorem inOrder_of_ended {actions : List Action} (h : ended actions = []) : InOrder actions := by
  intro before i result after heq
  have hmem : i ∈ ended actions := mem_ended.2 ⟨result, by simp [heq]⟩
  rw [h] at hmem
  cases hmem

theorem inOrder_startActions (steps : List (CallStep σ)) : ∀ i, InOrder (startActions i steps) := by
  induction steps with
  | nil => exact fun i => inOrder_of_ended rfl
  | cons step steps ih =>
      intro i
      -- a call that is not late ends right after it was made
      have hfirst : InOrder (.post i :: if step.isLate then [] else [.finish i step.result]) := by
        cases step.isLate with
        | true => exact inOrder_of_ended rfl
        | false =>
            have hpost : InOrder [.post i] := inOrder_of_ended rfl
            refine hpost.append fun before j result after heq => ?_
            have heq : [Action.finish i step.result] = before ++ .finish j result :: after := heq
            have hmem : Action.finish j result ∈ [Action.finish i step.result] := by simp [heq]
            cases List.mem_singleton.1 hmem
            exact List.mem_cons_self ..
      exact hfirst.append fun before j result after heq => List.mem_append_right _ (ih (i + 1) before j result after heq)

/-- **All calls of a batch over a relay** are made once and end once, after they were made. -/
theorem isSchedule_waves (steps : List (CallStep σ)) : IsSchedule steps.length (waves steps) := by
  have hmade : made (waves steps) = List.range steps.length := by
    have hlate : made ((lateCalls 0 steps).map endOf ++ [.notice]) = [] := by
      rw [made_append]
      simp [made, endOf, Action.posted?, List.filterMap_map, Function.comp_def]
    rw [waves, made_append, made_startActions, ← List.range_eq_range']
    exact (congrArg _ hlate).trans (List.append_nil _)
  have hended : ended (waves steps) = ended (startActions 0 steps) ++ (lateCalls 0 steps).map (·.1) := by
    rw [waves, ended_append]
    refine congrArg _ ?_
    show ended ((lateCalls 0 steps).map endOf ++ [.notice]) = _
    rw [ended_append, ended_endOf]
    exact List.append_nil _
  refine ⟨by rw [hmade], ?_, ?_⟩
  · rw [hended, List.range_eq_range']
    exact ended_startActions steps 0
  · -- the late calls have all been made before any of them ends
    refine InOrder.append (inOrder_startActions steps 0) fun before i result after heq => ?_
    have hi : i ∈ ended (waves steps) := mem_ended.2 ⟨result, by simp [waves, heq]⟩
    have hlt : i ∈ List.range' 0 steps.length := by
      rw [hended] at hi
      exact (ended_startActions steps 0).mem_iff.1 hi
    rw [← made_startActions] at hlt
    exact List.mem_append_left _ (mem_made.1 hlt)

/-! ## What ends -/

theorem mem_lateCalls (steps : List (CallStep σ)) : ∀ i j result, (j, result) ∈ lateCalls i steps →
    ∃ k step, j = i + k ∧ steps[k]? = some step ∧ step.result = result := by
  induction steps with
  | nil => exact fun i j result h => by cases h
  | cons step steps ih =>
      intro i j result h
      rw [lateCalls] at h
      rcases List.mem_append.1 h with h | h
      · cases hlate : step.isLate with
        | true =>
            rw [hlate] at h
            cases List.mem_singleton.1 h
            exact ⟨0, step, rfl, rfl, rfl⟩
        | false =>
            rw [hlate] at h
            cases h
      · obtain ⟨k, step', rfl, hk, hresult⟩ := ih (i + 1) j result h
        exact ⟨k + 1, step', by omega, hk, hresult⟩

theorem mem_startActions (steps : List (CallStep σ)) : ∀ i j result, .finish j result ∈ startActions i steps →
    ∃ k step, j = i + k ∧ steps[k]? = some step ∧ step.result = result := by
  induction steps with
  | nil => exact fun i j result h => by cases h
  | cons step steps ih =>
      intro i j result h
      rw [startActions] at h
      rcases List.mem_append.1 (List.mem_of_ne_of_mem (by simp) h) with h | h
      · cases hlate : step.isLate with
        | true =>
            rw [hlate] at h
            cases h
        | false =>
            rw [hlate] at h
            cases List.mem_singleton.1 h
            exact ⟨0, step, rfl, rfl, rfl⟩
      · obtain ⟨k, step', rfl, hk, hresult⟩ := ih (i + 1) j result h
        exact ⟨k + 1, step', by omega, hk, hresult⟩

/-- Every call ends with what it comes to. -/
theorem finish_mem_waves {steps : List (CallStep σ)} {i : Nat} {result : CallResult}
    (h : .finish i result ∈ waves steps) : ∃ step, steps[i]? = some step ∧ step.result = result := by
  have hfound : ∃ k step, i = 0 + k ∧ steps[k]? = some step ∧ step.result = result := by
    rw [waves] at h
    rcases List.mem_append.1 h with h | h
    · exact mem_startActions steps 0 i result h
    · rcases List.mem_append.1 (List.mem_of_ne_of_mem (by simp) h) with h | h
      · obtain ⟨⟨j, r⟩, hlate, he⟩ := List.mem_map.1 h
        cases he
        exact mem_lateCalls steps 0 _ _ hlate
      · cases List.mem_singleton.1 h
  obtain ⟨k, step, rfl, hk, hresult⟩ := hfound
  exact ⟨step, by rwa [Nat.zero_add], hresult⟩

end BatchRun

/-! ## The batch -/

theorem Relay.length_calls (relay : Relay σ) (requests : List RelayRequest) : ∀ s,
    (relay.calls s requests).length = requests.length := by
  induction requests with
  | nil => exact fun s => rfl
  | cons request rest ih => exact fun s => congrArg (· + 1) (ih _)

theorem Relay.map_calls (relay : Relay σ) (requests : List RelayRequest) : ∀ s,
    (relay.calls s requests).map (·.2) = requests := by
  induction requests with
  | nil => exact fun s => rfl
  | cons request rest ih => exact fun s => congrArg (request :: ·) (ih _)

open BatchRun

/-- What happens to a batch over a relay. -/
def Relay.waves (relay : Relay σ) (s : σ) (requests : List RelayRequest) : List Action :=
  BatchRun.waves ((relay.calls s requests).map relay.stepOf)

theorem Relay.isSchedule_waves (relay : Relay σ) (s : σ) (requests : List RelayRequest) :
    IsSchedule requests.length (relay.waves s requests) := by
  have h := BatchRun.isSchedule_waves ((relay.calls s requests).map relay.stepOf)
  rwa [List.length_map, relay.length_calls] at h

theorem Relay.finish_mem_waves {relay : Relay σ} {s : σ} {requests : List RelayRequest} {i : Nat} {result : CallResult}
    (h : .finish i result ∈ relay.waves s requests) :
    ∃ c, (relay.calls s requests)[i]? = some c ∧ (relay.stepOf c).result = result := by
  obtain ⟨step, hstep, hresult⟩ := BatchRun.finish_mem_waves h
  rw [List.getElem?_map, Option.map_eq_some_iff] at hstep
  obtain ⟨c, hc, rfl⟩ := hstep
  exact ⟨c, hc, hresult⟩

/-- The relay answers for every call that ends exactly if it answers for every call. -/
theorem Relay.relayed_waves_iff {relay : Relay σ} {s : σ} {requests : List RelayRequest} :
    (∀ i result, .finish i result ∈ relay.waves s requests → result.IsRelayed) ↔
      ∀ c ∈ relay.calls s requests, (relay.stepOf c).result.IsRelayed := by
  constructor
  · intro h c hc
    obtain ⟨i, hi, rfl⟩ := List.getElem_of_mem hc
    -- the call ends, and with what it comes to
    have hlt : i ∈ List.range requests.length := List.mem_range.2 (relay.length_calls requests s ▸ hi)
    obtain ⟨result, hfinish⟩ := mem_ended.1 ((relay.isSchedule_waves s requests).endsEach.mem_iff.2 hlt)
    obtain ⟨c, hget, hresult⟩ := finish_mem_waves hfinish
    rw [List.getElem?_eq_getElem hi] at hget
    cases hget
    rw [hresult]
    exact h i result hfinish
  · intro h i result hfinish
    obtain ⟨c, hget, rfl⟩ := finish_mem_waves hfinish
    exact h c (List.mem_of_getElem? hget)

/-- **A batch over a relay returns its entries** exactly if the relay answers for every call. -/
theorem dispatchBatch_ok_iff (relay : Relay σ) (s : σ) (requests : List RelayRequest) :
    (∃ result, (dispatchBatch relay s requests).outcome = .ok result) ↔
      ∀ c ∈ relay.calls s requests, (relay.stepOf c).result.IsRelayed := by
  rw [← Relay.relayed_waves_iff, ← (relay.isSchedule_waves s requests).clean_iff, outcome_dispatchBatch]
  constructor
  · rintro ⟨result, h⟩
    by_contra hdefects
    rw [outcome, if_neg (by simpa [Relay.waves] using hdefects)] at h
    cases h
  · intro hclean
    exact ⟨_, by rw [outcome, ← Relay.waves, hclean]; rfl⟩

theorem lastTo_eq_some {requests : List RelayRequest} {url : Text} {actions : List Action} {result : CallResult}
    (h : lastTo requests url actions = some result) :
    ∃ i request, .finish i result ∈ actions ∧ requests[i]? = some request ∧ request.url = url := by
  rw [lastTo, Option.map_eq_some_iff] at h
  obtain ⟨⟨i, r⟩, hlast, rfl⟩ := h
  obtain ⟨hmem, hto⟩ := List.mem_filter.1 (List.mem_of_getLast? hlast)
  obtain ⟨request, hrequest, hurl⟩ := isTo_iff.1 hto
  exact ⟨i, request, mem_completions.1 hmem, hrequest, hurl⟩

/-- **The answers of a batch over a relay** are those of calls to their URLs. -/
theorem mem_successes_dispatchBatch {relay : Relay σ} {s : σ} {requests : List RelayRequest} {result : BatchResult}
    (h : (dispatchBatch relay s requests).outcome = .ok result) {entry : Text × Answer} (hentry : entry ∈ result.successes) :
    ∃ c ∈ relay.calls s requests, ∃ status body, (relay.stepOf c).result = .answered status body ∧
      entry = (c.2.url, ⟨Text.ofInt status, body⟩) := by
  have hrelayed := Relay.relayed_waves_iff.2 ((dispatchBatch_ok_iff relay s requests).1 ⟨result, h⟩)
  have ht := tracks_performAll (relay.isSchedule_waves s requests) hrelayed (List.append_nil _).symm
  have hresult : ((create requests).performAll (relay.waves s requests)).result = result := by
    rw [outcome_dispatchBatch, outcome, ← Relay.waves, ht.clean] at h
    exact Except.ok.inj h
  rw [← hresult] at hentry
  have hget := Table.get?_of_mem ht.keyed.successes hentry
  -- the URL shows what the last call to it came to
  have hshown := ht.shown entry.1
  cases hlast : lastTo requests entry.1 (relay.waves s requests) with
  | none =>
      rw [hlast] at hshown
      rw [hshown.1] at hget
      cases hget
  | some r =>
      rw [hlast] at hshown
      obtain ⟨i, request, hfinish, hrequest, hurl⟩ := lastTo_eq_some hlast
      obtain ⟨c, hc, hr⟩ := Relay.finish_mem_waves hfinish
      have hc₂ : c.2.url = entry.1 := by
        have hmap := congrArg (·[i]?) (relay.map_calls requests s)
        simp only [List.getElem?_map, hc, Option.map_some, hrequest, Option.some.injEq] at hmap
        rw [hmap, hurl]
      refine ⟨c, List.mem_of_getElem? hc, ?_⟩
      cases r with
      | answered status body =>
          refine ⟨status, body, hr, ?_⟩
          rw [hshown.1] at hget
          rw [hc₂, Option.some.inj hget]
      | failed e =>
          rw [hshown.1] at hget
          cases hget
      | met defect => exact hshown.elim

end WebhookBridge
