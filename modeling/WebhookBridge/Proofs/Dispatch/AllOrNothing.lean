import WebhookBridge.Proofs.Dispatch.Progress
import WebhookBridge.Proofs.Dispatch.Waves

/-!
# All of a batch, or none of it

A batch returns its entries only if every call was recorded. Once a call has raised a defect, the calls that have not ended
are cancelled when that is noticed, and the batch returns a group of exactly the defects that its calls have raised.
Whatever a batch returns, none of its calls goes on.

## Contents

* `CallResult.raised?`: the defect that a call raises;
* `BatchRun.landed`: the calls that have ended, each with what it came to;
* `BatchRun.Step`: what an action does;
* `BatchRun.Accounts`: the invariant that ties a batch to the calls that have ended;
* `BatchRun.Follows`: a batch in an order of calls, none of which was cancelled;
* `BatchRun.all_or_nothing`: the law.
-/

namespace WebhookBridge

/-! ## Failures of calls -/

namespace CallResult

/-- The defect that a call raises. -/
def raised? : CallResult → Option Defect
  | .met defect => some defect
  | _ => none

/-- How a call stands in its batch after it has ended. -/
def leaves (result : CallResult) : CallState := if result.raised?.isNone then .recorded else .broken

variable {result : CallResult}

theorem raised?_eq_none_iff : result.raised? = none ↔ result.IsRelayed := by
  cases result with
  | answered status body => simp [raised?, IsRelayed]
  | failed e => simp [raised?, IsRelayed]
  | met defect => simp [raised?, IsRelayed]

theorem leaves_of_relayed (h : result.IsRelayed) : result.leaves = .recorded := by
  simp [leaves, raised?_eq_none_iff.2 h]

theorem leaves_of_not_relayed (h : ¬ result.IsRelayed) : result.leaves = .broken := by
  cases hraised : result.raised? with
  | none => exact absurd (raised?_eq_none_iff.1 hraised) h
  | some defect => simp [leaves, hraised]

theorem isOver_leaves (result : CallResult) : result.leaves.isOver = true := by
  unfold leaves
  split
  · rfl
  · rfl

end CallResult

namespace BatchRun

/-! ## Calls that have ended -/

/-- The call that an action ends, which it does if the call runs, with what it came to. -/
def ends? (b : BatchRun) : Action → Option (Nat × CallResult)
  | .finish i result =>
    match b.requests[i]?, b.calls[i]? with
    | some _, some .running => some (i, result)
    | _, _ => none
  | _ => none

/-- The calls that have ended in a run of a batch, in order, each with what it came to. -/
def landed : BatchRun → List Action → List (Nat × CallResult)
  | _, [] => []
  | b, a :: rest => (b.ends? a).toList ++ landed (b.perform a) rest

/-- **What an action does to a batch**: nothing; a call is made; a call that runs ends; or the calls that have not ended are
    cancelled, as there is a defect. -/
inductive Step (b : BatchRun) : Action → BatchRun → Prop
  | idle {a : Action} (hends : b.ends? a = none) : Step b a b
  | posts {i : Nat} {request : RelayRequest} (hcall : b.calls[i]? = some .created) :
    Step b (.post i) { b with calls := b.calls.set i .running, posted := b.posted ++ [request] }
  | ends {i : Nat} {result : CallResult} {entries : BatchResult} (hcall : b.calls[i]? = some .running)
    (hends : b.ends? (.finish i result) = some (i, result)) :
    Step b (.finish i result) { b with
      calls := b.calls.set i result.leaves, result := entries, defects := b.defects ++ result.raised?.toList }
  | aborts (hdefects : b.defects ≠ []) : Step b .notice b.abort

variable {requests : List RelayRequest} {actions before after : List Action} {b b' : BatchRun} {a : Action} {i : Nat}
  {request : RelayRequest} {result : CallResult} {ends : List (Nat × CallResult)}

/-- A call that runs ends, whatever it comes to. -/
theorem finish_running (hreq : b.requests[i]? = some request) (hcall : b.calls[i]? = some .running)
    (result : CallResult) : ∃ entries, (b.finish i result).1 = { b with
      calls := b.calls.set i result.leaves, result := entries, defects := b.defects ++ result.raised?.toList } := by
  by_cases hr : result.IsRelayed
  · obtain ⟨entries, heq, -⟩ := finish_relayed hreq hcall hr
    refine ⟨entries, ?_⟩
    rw [heq, CallResult.leaves_of_relayed hr, CallResult.raised?_eq_none_iff.2 hr]
    simp
  · cases result with
    | answered status body => exact absurd trivial hr
    | failed e => exact absurd trivial hr
    | met defect =>
        refine ⟨b.result, ?_⟩
        simp [finish, hreq, hcall, settleCall, CallResult.leaves, CallResult.raised?]

/-- **One action** is a step. -/
theorem step_perform (b : BatchRun) (a : Action) : b.Step a (b.perform a) := by
  cases a with
  | post i =>
      simp only [perform, post]
      split
      · rename_i request hreq hcall
        exact .posts hcall
      · exact .idle rfl
  | finish i result =>
      cases hends : b.ends? (.finish i result) with
      | none =>
          have hstays : (b.finish i result).1 = b := by
            unfold finish
            split
            · rename_i request hreq hcall
              simp [ends?, hreq, hcall] at hends
            · rfl
          rw [perform, hstays]
          exact .idle hends
      | some call =>
          have hlanded := hends
          simp only [ends?] at hends
          split at hends
          · rename_i request hreq hcall
            cases hends
            obtain ⟨entries, heq⟩ := finish_running hreq hcall result
            rw [perform, heq]
            exact .ends hcall hlanded
          · cases hends
  | notice =>
      simp only [perform, notice]
      split
      · exact .idle rfl
      · rename_i hdefects
        exact .aborts (by simpa using hdefects)

/-! ## Batches that are over -/

theorem isOver_iff : b.isOver = true ↔ ∀ c ∈ b.calls, c.isOver = true := List.all_eq_true

theorem abort_of_isOver (h : b.isOver = true) : b.abort = b := by
  have hcalls : (b.calls.map fun c => if c.isOver then c else .cancelled) = b.calls := by
    refine (List.map_congr_left fun c hc => ?_).trans (List.map_id _)
    simp [isOver_iff.1 h c hc]
  rw [abort, hcalls]

/-- **Nothing happens to a batch that is over.** -/
theorem Step.of_isOver (h : b.Step a b') (hover : b.isOver = true) : b' = b ∧ b.ends? a = none := by
  have hnot : ∀ {i : Nat} {c : CallState}, b.calls[i]? = some c → c.isOver = true := fun hcall =>
    isOver_iff.1 hover _ (List.mem_of_getElem? hcall)
  cases h with
  | idle hends => exact ⟨rfl, hends⟩
  | posts hcall => cases hnot hcall
  | ends hcall hends => cases hnot hcall
  | aborts hdefects => exact ⟨abort_of_isOver hover, rfl⟩

theorem performAll_of_isOver (hover : b.isOver = true) (actions : List Action) :
    b.performAll actions = b ∧ b.landed actions = [] := by
  induction actions with
  | nil => exact ⟨rfl, rfl⟩
  | cons a actions ih =>
      obtain ⟨hsame, hends⟩ := (step_perform b a).of_isOver hover
      refine ⟨?_, ?_⟩
      · show (b.perform a).performAll actions = b
        rw [hsame]
        exact ih.1
      · rw [landed, hends, hsame, ih.2]
        rfl

/-! ## The invariant -/

/-- **A batch accounts for the calls that have ended**: each stands as it ended, and no other call stands so; the defects are
    those that they have raised; and calls were cancelled only if there is one. -/
structure Accounts (requests : List RelayRequest) (ends : List (Nat × CallResult)) (b : BatchRun) : Prop where
  named : b.requests = requests
  sized : b.calls.length = requests.length
  once : (ends.map (·.1)).Nodup
  stands : ∀ call ∈ ends, b.calls[call.1]? = some call.2.leaves
  ended : ∀ i, b.calls[i]? = some .recorded ∨ b.calls[i]? = some .broken → ∃ result, (i, result) ∈ ends
  defects : b.defects = ends.filterMap (·.2.raised?)
  cancelled : .cancelled ∈ b.calls → b.defects ≠ []

theorem accounts_create (requests : List RelayRequest) : Accounts requests [] (create requests) where
  named := rfl
  sized := by simp [create]
  once := List.nodup_nil
  stands := by simp
  ended i h := by
    simp only [create, List.getElem?_map, Option.map_eq_some_iff] at h
    rcases h with ⟨_, _, h⟩ | ⟨_, _, h⟩
    · cases h
    · cases h
  defects := rfl
  cancelled h := by simp [create] at h

/-- A call that has ended does not run. -/
theorem Accounts.not_ended (h : Accounts requests ends b) {c : CallState} (hcall : b.calls[i]? = some c)
    (hlive : c.isOver = false) : ∀ call ∈ ends, call.1 ≠ i := by
  rintro call hmem rfl
  have hstands := h.stands call hmem
  rw [hcall, Option.some.injEq] at hstands
  rw [hstands, CallResult.isOver_leaves] at hlive
  cases hlive

/-- **A step keeps the account.** -/
theorem Accounts.step (h : Accounts requests ends b) (hstep : b.Step a b') :
    Accounts requests (ends ++ (b.ends? a).toList) b' := by
  cases hstep with
  | idle hends =>
      rw [hends]
      simpa using h
  | @posts i request hcall =>
      have hne := h.not_ended hcall rfl
      rw [show b.ends? (.post i) = none from rfl, Option.toList_none, List.append_nil]
      refine ⟨h.named, by simpa using h.sized, h.once, ?_, ?_, h.defects, ?_⟩
      · intro call hmem
        rw [List.getElem?_set_ne (hne call hmem).symm]
        exact h.stands call hmem
      · intro k hk
        by_cases hki : i = k
        · subst hki
          simp [List.getElem?_set_self', hcall] at hk
        · rw [List.getElem?_set_ne hki] at hk
          exact h.ended k hk
      · intro hmem
        rcases List.mem_or_eq_of_mem_set hmem with hmem | he
        · exact h.cancelled hmem
        · cases he
  | @ends i result entries hcall hends =>
      have hne := h.not_ended hcall rfl
      rw [hends, Option.toList_some]
      have hi : i < b.calls.length := (List.getElem?_eq_some_iff.1 hcall).1
      refine ⟨h.named, by simpa using h.sized, ?_, ?_, ?_, ?_, ?_⟩
      -- the call ran, so that it has not ended before
      · rw [List.map_append, List.nodup_append]
        refine ⟨h.once, by simp, ?_⟩
        intro k hk j hj
        obtain ⟨call, hmem, rfl⟩ := List.mem_map.1 hk
        simp only [List.map_cons, List.map_nil, List.mem_singleton] at hj
        rw [hj]
        exact hne call hmem
      · intro call hmem
        rcases List.mem_append.1 hmem with hmem | hmem
        · rw [List.getElem?_set_ne (hne call hmem).symm]
          exact h.stands call hmem
        · rw [List.mem_singleton.1 hmem, List.getElem?_set_self hi]
      · intro k hk
        by_cases hki : i = k
        · exact ⟨result, by simp [hki]⟩
        · rw [List.getElem?_set_ne hki] at hk
          obtain ⟨r, hmem⟩ := h.ended k hk
          exact ⟨r, List.mem_append_left _ hmem⟩
      · rw [List.filterMap_append, ← h.defects]
        cases hraised : result.raised? with
        | none => simp [hraised]
        | some defect => simp [hraised]
      · intro hmem
        rcases List.mem_or_eq_of_mem_set hmem with hmem | he
        · simp [h.cancelled hmem]
        · have hover := CallResult.isOver_leaves result
          unfold CallResult.leaves at he
          split at he
          · cases he
          · cases he
  | aborts hdefects =>
      rw [show b.ends? .notice = none from rfl, Option.toList_none, List.append_nil]
      refine ⟨h.named, by simpa [abort] using h.sized, h.once, ?_, ?_, h.defects, fun _ => hdefects⟩
      · intro call hmem
        simp [abort, h.stands call hmem, CallResult.isOver_leaves]
      · intro k hk
        apply h.ended k
        simp only [abort, List.getElem?_map, Option.map_eq_some_iff] at hk
        rcases hk with ⟨c, hc, he⟩ | ⟨c, hc, he⟩
        · split at he
          · exact .inl (he ▸ hc)
          · cases he
        · split at he
          · exact .inr (he ▸ hc)
          · cases he

/-- **A whole run** keeps the account. -/
theorem Accounts.performAll (actions : List Action) : ∀ {ends : List (Nat × CallResult)} {b : BatchRun},
    Accounts requests ends b → Accounts requests (ends ++ b.landed actions) (b.performAll actions) := by
  induction actions with
  | nil =>
      intro ends b h
      rwa [landed, List.append_nil]
  | cons a actions ih =>
      intro ends b h
      have hrest := ih (h.step (step_perform b a))
      rwa [List.append_assoc] at hrest

/-- Every batch accounts for its calls. -/
theorem accounts_performAll (requests : List RelayRequest) (actions : List Action) :
    Accounts requests ((create requests).landed actions) ((create requests).performAll actions) :=
  (accounts_create requests).performAll actions

/-- A batch that has met no defect and is over has recorded every call. -/
theorem Accounts.recorded (h : Accounts requests ends b) (hover : b.isOver = true) (hclean : b.defects = [])
    (hi : i < requests.length) : b.calls[i]? = some .recorded ∧ ∃ result, (i, result) ∈ ends ∧ result.IsRelayed := by
  obtain ⟨c, hcall⟩ : ∃ c, b.calls[i]? = some c := ⟨_, List.getElem?_eq_getElem (h.sized ▸ hi)⟩
  have hmem := List.mem_of_getElem? hcall
  have hrelayed : ∀ result, (i, result) ∈ ends → result.IsRelayed := by
    intro result hresult
    have hnone := List.filterMap_eq_nil_iff.1 (h.defects ▸ hclean) _ hresult
    exact CallResult.raised?_eq_none_iff.1 hnone
  cases c with
  | created => cases isOver_iff.1 hover _ hmem
  | running => cases isOver_iff.1 hover _ hmem
  | recorded =>
      obtain ⟨result, hresult⟩ := h.ended i (.inl hcall)
      exact ⟨hcall, result, hresult, hrelayed result hresult⟩
  | broken =>
      obtain ⟨result, hresult⟩ := h.ended i (.inr hcall)
      have hstands := h.stands _ hresult
      rw [CallResult.leaves_of_relayed (hrelayed result hresult), hcall] at hstands
      cases hstands
  | cancelled => exact absurd hclean (h.cancelled hmem)

/-! ## Orders of calls -/

/-- A batch follows an order of calls as long as none was cancelled: each call stands as the order says, unless it has ended
    and is broken. -/
def Follows (n : Nat) (actions : List Action) (b : BatchRun) : Prop :=
  ∀ i < n, b.calls[i]? = some (callState actions i) ∨ i ∈ ended actions ∧ b.calls[i]? = some .broken

theorem follows_create (requests : List RelayRequest) : Follows requests.length [] (create requests) := by
  intro i hi
  exact .inl (by simp [create, hi, callState, ended, completions, made])

/-- A call that has not ended stands as the order says. -/
theorem Follows.stands {n : Nat} (h : Follows n actions b) (hi : i < n) (hnew : i ∉ ended actions) :
    b.calls[i]? = some (callState actions i) := by
  rcases h i hi with hcall | ⟨hmem, -⟩
  · exact hcall
  · exact absurd hmem hnew

/-- A call takes another state, and the others keep theirs. -/
theorem Follows.set {n : Nat} {c : CallState} (h : Follows n before b) (hcalls : b'.calls = b.calls.set i c)
    (hi : i < b.calls.length)
    (hself : c = callState (before ++ [a]) i ∨ i ∈ ended (before ++ [a]) ∧ c = .broken)
    (hother : ∀ k ≠ i, callState (before ++ [a]) k = callState before k) : Follows n (before ++ [a]) b' := by
  intro k hk
  rw [hcalls]
  by_cases hki : i = k
  · subst hki
    rw [List.getElem?_set_self hi]
    rcases hself with rfl | ⟨hmem, rfl⟩
    · exact .inl rfl
    · exact .inr ⟨hmem, rfl⟩
  · rw [List.getElem?_set_ne hki, hother k (Ne.symm hki)]
    rcases h k hk with hcall | ⟨hmem, hcall⟩
    · exact .inl hcall
    · exact .inr ⟨by rw [ended_append]; exact List.mem_append_left _ hmem, hcall⟩

/-- **One action** of an order of calls leaves the batch over, or following the order. -/
theorem IsSchedule.follows_perform (h : IsSchedule requests.length actions) (heq : actions = before ++ a :: after)
    (hnamed : b.requests = requests) (hfollows : Follows requests.length before b) :
    (b.perform a).isOver = true ∨ Follows requests.length (before ++ [a]) (b.perform a) := by
  cases a with
  | post i =>
      obtain ⟨hlt, hmade, hended⟩ := h.fits heq fun i result ha => by cases ha
      have hreq : b.requests[i]? = some requests[i] := by rw [hnamed, List.getElem?_eq_getElem hlt]
      have hcall : b.calls[i]? = some .created := by
        rw [hfollows.stands hlt hended, callState, if_neg hended, if_neg hmade]
      have hmade' : made (before ++ [.post i]) = made before ++ [i] := made_append _ _
      have hended' : ended (before ++ [.post i]) = ended before := by rw [ended_append]; exact List.append_nil _
      refine .inr (hfollows.set (calls_post hreq hcall).1 (List.getElem?_eq_some_iff.1 hcall).1 (.inl ?_) ?_)
      · simp [callState, hended', hmade', hended]
      · intro k hne
        simp [callState, hended', hmade', hne]
  | finish i result =>
      obtain ⟨hlt, hmade, hended⟩ := h.finish_running heq
      have hreq : b.requests[i]? = some requests[i] := by rw [hnamed, List.getElem?_eq_getElem hlt]
      have hcall : b.calls[i]? = some .running := by
        rw [hfollows.stands hlt hended, callState, if_neg hended, if_pos hmade]
      have hmade' : made (before ++ [.finish i result]) = made before := by
        rw [made_append]; exact List.append_nil _
      have hended' : ended (before ++ [.finish i result]) = ended before ++ [i] := ended_append _ _
      obtain ⟨entries, hfinish⟩ := BatchRun.finish_running hreq hcall result
      refine .inr (hfollows.set (by rw [perform, hfinish]) (List.getElem?_eq_some_iff.1 hcall).1 ?_ ?_)
      · have hmem : i ∈ ended (before ++ [.finish i result]) := by simp [hended']
        by_cases hr : result.IsRelayed
        · exact .inl (by rw [CallResult.leaves_of_relayed hr, callState, if_pos hmem])
        · exact .inr ⟨hmem, CallResult.leaves_of_not_relayed hr⟩
      · intro k hne
        simp [callState, hended', hmade', hne]
  | notice =>
      -- either nothing is noticed, or all calls are cancelled that have not ended
      by_cases hclean : b.defects = []
      · refine .inr fun k hk => ?_
        have hmade' : made (before ++ [.notice]) = made before := by rw [made_append]; exact List.append_nil _
        have hended' : ended (before ++ [.notice]) = ended before := by rw [ended_append]; exact List.append_nil _
        have hstate : callState (before ++ [.notice]) = callState before := by
          funext k
          simp [callState, hended', hmade']
        rw [hstate, hended', perform, notice, if_pos (by simp [hclean])]
        exact hfollows k hk
      · refine .inl ?_
        rw [perform, notice, if_neg (by simpa using hclean)]
        exact isOver_abort b

/-- **Every point of an order of calls**: the batch is over, or follows the order. -/
theorem IsSchedule.follows (h : IsSchedule requests.length actions) (heq : actions = before ++ after) :
    ((create requests).performAll before).isOver = true ∨
      Follows requests.length before ((create requests).performAll before) := by
  -- from the end, as for a batch of which every call is answered for
  induction before using List.reverseRecOn generalizing after with
  | nil => exact .inr (follows_create requests)
  | append_singleton before a ih =>
      have heq' : actions = before ++ a :: after := by rw [heq, List.append_assoc]; rfl
      rw [performAll_append]
      rcases ih heq' with hover | hfollows
      · rw [(performAll_of_isOver hover [a]).1]
        exact .inl hover
      · exact h.follows_perform heq' (accounts_performAll requests before).named hfollows

/-- **A batch is over** when every call was made and has ended, whatever the calls have come to. -/
theorem IsSchedule.isOver (h : IsSchedule requests.length actions) :
    ((create requests).performAll actions).isOver = true := by
  rcases h.follows (List.append_nil actions).symm with hover | hfollows
  · exact hover
  · rw [isOver_iff]
    intro c hc
    obtain ⟨i, hi, rfl⟩ := List.getElem_of_mem hc
    have hlt : i < requests.length := (accounts_performAll requests actions).sized ▸ hi
    have hended : i ∈ ended actions := h.endsEach.mem_iff.2 (List.mem_range.2 hlt)
    have hget := List.getElem?_eq_getElem hi
    rcases hfollows i hlt with hcall | ⟨-, hcall⟩
    · rw [hget, callState, if_pos hended] at hcall
      rw [Option.some.inj hcall]
      rfl
    · rw [hget] at hcall
      rw [Option.some.inj hcall]
      rfl

/-! ## The law -/

/-- What is returned is what the batch comes to, when it is over. -/
theorem returned?_eq_some {outcome : Except Defect BatchResult} (h : b.returned? = some outcome) :
    b.isOver = true ∧ outcome = b.outcome := by
  rw [returned?] at h
  split at h
  · rename_i hover
    exact ⟨hover, (Option.some.inj h).symm⟩
  · cases h

theorem returned?_of_isOver (h : b.isOver = true) : b.returned? = some b.outcome := if_pos h

/-- A batch accounts for its calls in what it comes to. -/
theorem Accounts.outcome_eq (h : Accounts requests ends b) : b.outcome =
    if ends.filterMap (·.2.raised?) = [] then .ok b.result else .error (.group (ends.filterMap (·.2.raised?))) := by
  rw [outcome, h.defects]
  simp only [List.isEmpty_iff]

/-- **What is cut off**: once a call has raised a defect that is noticed, everything stays as it is then, with the calls
    cancelled that have not ended. -/
theorem Accounts.cut (h : Accounts requests ends b) (hfailed : ∃ call ∈ ends, ¬ call.2.IsRelayed) (after : List Action) :
    b.performAll (.notice :: after) = b.abort ∧ b.landed (.notice :: after) = [] ∧
      b.abort.returned? = some (.error (.group (ends.filterMap (·.2.raised?)))) := by
  have hdefects : ends.filterMap (·.2.raised?) ≠ [] := by
    obtain ⟨call, hmem, hcall⟩ := hfailed
    intro hnil
    exact hcall (CallResult.raised?_eq_none_iff.1 (List.filterMap_eq_nil_iff.1 hnil call hmem))
  have hnotice : b.perform .notice = b.abort := by
    rw [perform, notice, if_neg (by simpa [h.defects] using hdefects)]
  obtain ⟨hstays, hends⟩ := performAll_of_isOver (isOver_abort b) after
  refine ⟨?_, ?_, ?_⟩
  · show (b.perform .notice).performAll after = b.abort
    rw [hnotice, hstays]
  · rw [landed, hnotice, hends]
    rfl
  · rw [returned?_of_isOver (isOver_abort b), outcome_abort, h.outcome_eq, if_neg hdefects]

/-- Of three calls one is answered, one raises a defect and one is still under way when that is noticed. -/
example : ((create [⟨"a", .null⟩, ⟨"b", .null⟩, ⟨"c", .null⟩]).performAll
    [.post 0, .post 1, .post 2, .finish 2 (.answered 200 .null), .finish 0 (.met (.other "x")), .notice]).calls =
    [.broken, .cancelled, .recorded] := rfl

end BatchRun

end WebhookBridge
