import Mathlib.Data.List.Dedup
import Mathlib.Data.List.Induction
import WebhookBridge.Proofs.Dispatch.Recording

/-!
# What a batch comes to

The calls of a batch are made and end in any order. Whatever the order, every request is posted once, the batch returns
when the last call has ended, and the entry of each URL is what the last call to it came to.

## Contents

* `BatchRun.IsSchedule`: an order in which every call is made once and then ends once;
* `BatchRun.lastTo`: what the last call to a URL came to;
* `BatchRun.Tracks`: the invariant that ties a batch to what has happened to it, `tracks_perform` its step and
  `tracks_performAll` the whole run;
* `BatchRun.IsSchedule.returns_iff`: when a batch returns its entries;
* `BatchRun.batch_keeps_last_completion`: the law of a whole batch.
-/

namespace WebhookBridge.BatchRun

/-! ## Orders of calls -/

/-- The positions of the calls that were made, in order. -/
def made (actions : List Action) : List Nat := actions.filterMap Action.posted?

/-- The calls that have ended, in order, each with what it came to. -/
def completions (actions : List Action) : List (Nat × CallResult) := actions.filterMap Action.finished?

/-- The positions of the calls that have ended, in order. -/
def ended (actions : List Action) : List Nat := (completions actions).map (·.1)

/-- An order in which each of `n` calls is made once and ends once, and ends after it was made. Defects may be looked
    for at any time. -/
structure IsSchedule (n : Nat) (actions : List Action) : Prop where
  makesEach : (made actions).Perm (List.range n)
  endsEach : (ended actions).Perm (List.range n)
  inOrder : ∀ before i result after, actions = before ++ .finish i result :: after → .post i ∈ before

/-- Whether a completion is one of a call to a URL. -/
def isTo (requests : List RelayRequest) (url : Text) (completion : Nat × CallResult) : Bool :=
  requests[completion.1]?.any fun request => request.url = url

/-- The completions of calls to a URL, in order. -/
def completionsTo (requests : List RelayRequest) (url : Text) (actions : List Action) : List (Nat × CallResult) :=
  (completions actions).filter (isTo requests url)

/-- What the last call to a URL came to that has ended. -/
def lastTo (requests : List RelayRequest) (url : Text) (actions : List Action) : Option CallResult :=
  (completionsTo requests url actions).getLast?.map (·.2)

/-! ### One action more -/

variable {requests : List RelayRequest} {actions : List Action}

theorem mem_made {i : Nat} : i ∈ made actions ↔ .post i ∈ actions := by
  simp only [made, List.mem_filterMap]
  constructor
  · rintro ⟨a, ha, he⟩
    cases a with
    | post j => cases he; exact ha
    | finish j result => cases he
    | notice => cases he
  · intro h
    exact ⟨_, h, rfl⟩

theorem mem_completions {i : Nat} {result : CallResult} :
    (i, result) ∈ completions actions ↔ .finish i result ∈ actions := by
  simp only [completions, List.mem_filterMap]
  constructor
  · rintro ⟨a, ha, he⟩
    cases a with
    | post j => cases he
    | finish j r => cases he; exact ha
    | notice => cases he
  · intro h
    exact ⟨_, h, rfl⟩

theorem mem_ended {i : Nat} : i ∈ ended actions ↔ ∃ result, .finish i result ∈ actions := by
  simp only [ended, List.mem_map]
  constructor
  · rintro ⟨⟨j, result⟩, hmem, rfl⟩
    exact ⟨result, mem_completions.1 hmem⟩
  · rintro ⟨result, h⟩
    exact ⟨(i, result), mem_completions.2 h, rfl⟩

theorem made_append (l m : List Action) : made (l ++ m) = made l ++ made m := List.filterMap_append

theorem completions_append (l m : List Action) : completions (l ++ m) = completions l ++ completions m :=
  List.filterMap_append

theorem ended_append (l m : List Action) : ended (l ++ m) = ended l ++ ended m := by
  rw [ended, completions_append, List.map_append]
  rfl

theorem lastTo_append_of_no_completion {m : List Action} (h : completions m = []) (url : Text) :
    lastTo requests url (actions ++ m) = lastTo requests url actions := by
  rw [lastTo, completionsTo, completions_append, h, List.append_nil]
  rfl

theorem lastTo_finish_self {i : Nat} {request : RelayRequest} (hreq : requests[i]? = some request)
    (result : CallResult) : lastTo requests request.url (actions ++ [.finish i result]) = some result := by
  have hto : isTo requests request.url (i, result) = true := by simp [isTo, hreq]
  rw [lastTo, completionsTo, completions_append, List.filter_append]
  simp [completions, Action.finished?, hto]

theorem lastTo_finish_ne {i : Nat} {request : RelayRequest} (hreq : requests[i]? = some request)
    {url : Text} (hne : url ≠ request.url) (result : CallResult) :
    lastTo requests url (actions ++ [.finish i result]) = lastTo requests url actions := by
  have hto : isTo requests url (i, result) = false := by simp [isTo, hreq, Ne.symm hne]
  rw [lastTo, completionsTo, completions_append, List.filter_append]
  simp [completions, Action.finished?, hto, lastTo, completionsTo]

theorem isTo_iff {url : Text} {i : Nat} {result : CallResult} :
    isTo requests url (i, result) = true ↔ ∃ request, requests[i]? = some request ∧ request.url = url := by
  cases hreq : requests[i]? with
  | none => simp [isTo, hreq]
  | some request => simp [isTo, hreq]

/-- Something is the last completion of a call to a URL exactly if some call to it has ended. -/
theorem lastTo_ne_none_iff {url : Text} :
    lastTo requests url actions ≠ none ↔
      ∃ i ∈ ended actions, ∃ request, requests[i]? = some request ∧ request.url = url := by
  rw [lastTo, Ne, Option.map_eq_none_iff, List.getLast?_eq_none_iff, completionsTo, List.filter_eq_nil_iff]
  push Not
  constructor
  · rintro ⟨⟨i, result⟩, hmem, hto⟩
    exact ⟨i, mem_ended.2 ⟨result, mem_completions.1 hmem⟩, isTo_iff.1 hto⟩
  · rintro ⟨i, hmem, hto⟩
    obtain ⟨result, hres⟩ := mem_ended.1 hmem
    exact ⟨(i, result), mem_completions.2 hres, isTo_iff.2 hto⟩

/-! ## The invariant -/

/-- How a call stands after some actions. -/
def callState (actions : List Action) (i : Nat) : CallState :=
  if i ∈ ended actions then .recorded else if i ∈ made actions then .running else .created

/-- **A batch tracks the actions that have led to it**: the calls stand as the actions left them, what was posted are the
    requests of the calls made, no defect was met, and each URL shows what the last call to it came to. -/
structure Tracks (requests : List RelayRequest) (actions : List Action) (b : BatchRun) : Prop where
  same : b.requests = requests
  calls : b.calls = (List.range requests.length).map (callState actions)
  posted : b.posted = (made actions).filterMap (requests[·]?)
  clean : b.defects = []
  keyed : b.result.Keyed
  shown : ∀ url, b.result.Shows url (lastTo requests url actions)

theorem tracks_create (requests : List RelayRequest) : Tracks requests [] (create requests) where
  same := rfl
  calls := by
    apply List.ext_getElem
    · simp [create]
    · intro i _ _
      simp [create, callState, ended, completions, made]
  posted := rfl
  clean := rfl
  keyed := BatchResult.keyed_empty
  shown url := BatchResult.shows_empty url

theorem Tracks.call {b : BatchRun} (h : Tracks requests actions b) {i : Nat} (hi : i < requests.length) :
    b.calls[i]? = some (callState actions i) := by
  rw [h.calls, List.getElem?_map, List.getElem?_range hi]
  rfl

/-- The states of the calls after an action that concerns one of them. -/
theorem calls_set {b : BatchRun} (h : Tracks requests actions b) {i : Nat} {a : Action} {c : CallState}
    (hself : callState (actions ++ [a]) i = c)
    (hother : ∀ j ≠ i, callState (actions ++ [a]) j = callState actions j) :
    b.calls.set i c = (List.range requests.length).map (callState (actions ++ [a])) := by
  rw [h.calls]
  apply List.ext_getElem
  · simp
  · intro j hj _
    rw [List.getElem_set]
    split
    · rename_i he
      subst he
      simp [hself]
    · rename_i hne
      simp [hother j (Ne.symm hne)]

/-- Whether an action may come next: a call is made once, and ends once, after it was made. -/
def Fits (n : Nat) (actions : List Action) : Action → Prop
  | .post i => i < n ∧ i ∉ made actions ∧ i ∉ ended actions
  | .finish i result => i < n ∧ i ∈ made actions ∧ i ∉ ended actions ∧ result.IsRelayed
  | .notice => True

theorem tracks_post {b : BatchRun} (h : Tracks requests actions b) {i : Nat}
    (hfit : Fits requests.length actions (.post i)) : Tracks requests (actions ++ [.post i]) (b.post i) := by
  obtain ⟨hlt, hmade, hended⟩ := hfit
  have hreq : b.requests[i]? = some requests[i] := by rw [h.same, List.getElem?_eq_getElem hlt]
  -- the call has not been made, so that posting it takes effect
  have hcall : b.calls[i]? = some .created := by rw [h.call hlt, callState, if_neg hended, if_neg hmade]
  have hmade' : made (actions ++ [.post i]) = made actions ++ [i] := made_append _ _
  have hended' : ended (actions ++ [.post i]) = ended actions := by rw [ended_append]; exact List.append_nil _
  have heq : b.post i = { b with calls := b.calls.set i .running, posted := b.posted ++ [requests[i]] } := by
    simp only [post, hreq, hcall]
  rw [heq]
  refine ⟨h.same, calls_set h ?_ ?_, ?_, h.clean, h.keyed, ?_⟩
  · simp [callState, hended', hmade', hended]
  · intro j hne
    simp [callState, hended', hmade', hne]
  · rw [hmade', List.filterMap_append, h.posted]
    simp [hlt]
  · intro url
    rw [lastTo_append_of_no_completion rfl]
    exact h.shown url

theorem tracks_finish {b : BatchRun} (h : Tracks requests actions b) {i : Nat} {result : CallResult}
    (hfit : Fits requests.length actions (.finish i result)) :
    Tracks requests (actions ++ [.finish i result]) (b.finish i result).1 := by
  obtain ⟨hlt, hmade, hended, hrelayed⟩ := hfit
  have hreq' : requests[i]? = some requests[i] := List.getElem?_eq_getElem hlt
  have hreq : b.requests[i]? = some requests[i] := by rw [h.same, hreq']
  -- the call runs, so that its end is recorded: `finish_relayed` says which entry that makes
  have hcall : b.calls[i]? = some .running := by rw [h.call hlt, callState, if_neg hended, if_pos hmade]
  have hmade' : made (actions ++ [.finish i result]) = made actions := by
    rw [made_append]; exact List.append_nil _
  have hended' : ended (actions ++ [.finish i result]) = ended actions ++ [i] := ended_append _ _
  obtain ⟨entries, heq, hshows, hkeyed, hothers⟩ := finish_relayed hreq hcall hrelayed
  rw [heq]
  refine ⟨h.same, calls_set h ?_ ?_, ?_, h.clean, hkeyed h.keyed, ?_⟩
  · simp [callState, hended']
  · intro j hne
    simp [callState, hended', hmade', hne]
  · rw [hmade', h.posted]
  · intro url
    -- the URL of the call shows this end now, every other URL what it showed before
    by_cases hurl : url = requests[i].url
    · rw [hurl, lastTo_finish_self hreq']
      exact hshows
    · rw [lastTo_finish_ne hreq' hurl]
      exact (h.shown url).congr (hothers url hurl).1 (hothers url hurl).2

theorem tracks_notice {b : BatchRun} (h : Tracks requests actions b) :
    Tracks requests (actions ++ [.notice]) b.notice := by
  have heq : b.notice = b := by simp [notice, h.clean]
  have hmade' : made (actions ++ [.notice]) = made actions := by rw [made_append]; exact List.append_nil _
  have hended' : ended (actions ++ [.notice]) = ended actions := by rw [ended_append]; exact List.append_nil _
  have hstate : callState (actions ++ [.notice]) = callState actions := by
    funext i
    simp [callState, hended', hmade']
  rw [heq]
  refine ⟨h.same, ?_, ?_, h.clean, h.keyed, ?_⟩
  · rw [hstate, h.calls]
  · rw [hmade', h.posted]
  · intro url
    rw [lastTo_append_of_no_completion rfl]
    exact h.shown url

/-- **One action** that fits keeps the batch on track. -/
theorem tracks_perform {b : BatchRun} (h : Tracks requests actions b) {a : Action}
    (hfit : Fits requests.length actions a) : Tracks requests (actions ++ [a]) (b.perform a) := by
  cases a with
  | post i => exact tracks_post h hfit
  | finish i result => exact tracks_finish h hfit
  | notice => exact tracks_notice h

/-! ## Whole runs -/

/-- In an order of calls a call that ends was made before, and has not ended before. -/
theorem IsSchedule.finish_running {n : Nat} (h : IsSchedule n actions) {before after : List Action} {i : Nat}
    {result : CallResult} (heq : actions = before ++ .finish i result :: after) :
    i < n ∧ i ∈ made before ∧ i ∉ ended before := by
  have hended := h.endsEach.nodup_iff.2 List.nodup_range
  rw [heq, ended_append] at hended
  -- no call ends twice: what ends here has not ended before
  have hnew : i ∉ ended before := fun hmem =>
    (List.nodup_append.1 hended).2.2 i hmem i (List.mem_cons_self ..) rfl
  have hlt : i ∈ List.range n := h.endsEach.mem_iff.1 (mem_ended.2 ⟨result, by simp [heq]⟩)
  exact ⟨List.mem_range.1 hlt, mem_made.2 (h.inOrder before i result after heq), hnew⟩

/-- In an order of calls every action fits what came before it, where the relay answers for it. -/
theorem IsSchedule.fits (h : IsSchedule requests.length actions)
    {before after : List Action} {a : Action} (heq : actions = before ++ a :: after)
    (hr : ∀ i result, a = .finish i result → result.IsRelayed) :
    Fits requests.length before a := by
  have hmade := h.makesEach.nodup_iff.2 List.nodup_range
  rw [heq, made_append] at hmade
  cases a with
  | post i =>
      have hnew : i ∉ made before := fun hmem =>
        (List.nodup_append.1 hmade).2.2 i hmem i (List.mem_cons_self ..) rfl
      have hlt : i ∈ List.range requests.length := h.makesEach.mem_iff.1 (mem_made.2 (by simp [heq]))
      refine ⟨List.mem_range.1 hlt, hnew, ?_⟩
      -- a call that had ended before would have been made before
      intro hmem
      obtain ⟨result, hres⟩ := mem_ended.1 hmem
      obtain ⟨first, second, rfl⟩ := List.append_of_mem hres
      have hfirst := h.inOrder first i result (second ++ .post i :: after) (by simp [heq])
      exact hnew (mem_made.2 (List.mem_append_left _ hfirst))
  | finish i result =>
      obtain ⟨hlt, hdone, hnew⟩ := h.finish_running heq
      exact ⟨hlt, hdone, hnew, hr i result rfl⟩
  | notice => trivial

/-- **A whole run**: at every point of an order of calls the batch is on track, as long as the relay has answered for every
    call that has ended. -/
theorem tracks_performAll (h : IsSchedule requests.length actions) {before after : List Action}
    (hr : ∀ i result, .finish i result ∈ before → result.IsRelayed) (heq : actions = before ++ after) :
    Tracks requests before ((create requests).performAll before) := by
  -- from the end: the last action fits what the others have led to
  induction before using List.reverseRecOn generalizing after with
  | nil => exact tracks_create requests
  | append_singleton before a ih =>
      have heq' : actions = before ++ a :: after := by rw [heq, List.append_assoc]; rfl
      have hfit := h.fits heq' fun i result ha => hr i result (by simp [ha])
      have hstep := tracks_perform (ih (fun i result hmem => hr i result (List.mem_append_left _ hmem)) heq') hfit
      rwa [performAll, List.foldl_append]

/-- A batch on track is over exactly when every call has ended. -/
theorem Tracks.isOver_iff {b : BatchRun} (h : Tracks requests actions b) :
    b.isOver = true ↔ ∀ i < requests.length, i ∈ ended actions := by
  rw [isOver, h.calls, List.all_map, List.all_eq_true]
  constructor
  · intro hall i hi
    by_contra hnot
    have hover := hall i (List.mem_range.2 hi)
    by_cases hmade : i ∈ made actions
    · simp [callState, hnot, hmade, CallState.isOver] at hover
    · simp [callState, hnot, hmade, CallState.isOver] at hover
  · intro hall i hi
    simp [callState, hall i (List.mem_range.1 hi), CallState.isOver]

theorem filterMap_range_getElem? {α : Type} (l : List α) : (List.range l.length).filterMap (l[·]?) = l := by
  induction l with
  | nil => rfl
  | cons x l ih =>
    rw [List.length_cons, List.range_succ_eq_map, List.filterMap_cons, List.filterMap_map]
    simp only [List.getElem?_cons_zero]
    exact congrArg (x :: ·) ih

/-- The URLs with an entry, where every call has ended, are those that were requested. -/
theorem Tracks.mem_keys_iff {b : BatchRun} (h : Tracks requests actions b)
    (hall : ∀ i < requests.length, i ∈ ended actions) (url : Text) :
    (url ∈ b.result.successes.keys ∨ url ∈ b.result.errors.keys) ↔ url ∈ requests.map (·.url) := by
  rw [(h.shown url).mem_iff, lastTo_ne_none_iff, List.mem_map]
  constructor
  · rintro ⟨i, -, request, hreq, hurl⟩
    exact ⟨request, List.mem_of_getElem? hreq, hurl⟩
  · rintro ⟨request, hmem, hurl⟩
    obtain ⟨i, hi, rfl⟩ := List.getElem_of_mem hmem
    exact ⟨i, hall i hi, requests[i], List.getElem?_eq_getElem hi, hurl⟩

/-- The number of entries, where every call has ended, is the number of different URLs. -/
theorem Tracks.size_eq {b : BatchRun} (h : Tracks requests actions b)
    (hall : ∀ i < requests.length, i ∈ ended actions) :
    b.result.size = (requests.map (·.url)).dedup.length := by
  -- the keys of both tables together are the requested URLs, in some order and without repetition
  have hdisjoint : List.Disjoint b.result.successes.keys b.result.errors.keys :=
    fun url hs he => (h.shown url).not_both ⟨hs, he⟩
  have hnodup : (b.result.successes.keys ++ b.result.errors.keys).Nodup :=
    List.Nodup.append h.keyed.successes h.keyed.errors hdisjoint
  have hperm : (b.result.successes.keys ++ b.result.errors.keys).Perm (requests.map (·.url)).dedup := by
    rw [List.perm_ext_iff_of_nodup hnodup (List.nodup_dedup _)]
    intro url
    rw [List.mem_append, List.mem_dedup]
    exact h.mem_keys_iff hall url
  rw [← hperm.length_eq, List.length_append, Table.keys, Table.keys, List.length_map, List.length_map]
  rfl

/-! ## Defects -/

/-- Defects are never forgotten. -/
theorem defects_perform (b : BatchRun) (a : Action) (h : b.defects ≠ []) : (b.perform a).defects ≠ [] := by
  cases a with
  | post i =>
      simp only [perform, post]
      split
      · exact h
      · exact h
  | finish i result =>
      simp only [perform, finish]
      repeat' split
      all_goals simp [h]
  | notice =>
      simp only [perform, notice, abort]
      split
      · exact h
      · exact h

theorem defects_performAll (actions : List Action) :
    ∀ b : BatchRun, b.defects ≠ [] → (b.performAll actions).defects ≠ [] := by
  induction actions with
  | nil => exact fun _ h => h
  | cons a actions ih => exact fun b h => ih (b.perform a) (defects_perform b a h)

/-- A call that runs and ends with what the relay does not answer for leaves a defect. -/
theorem defects_finish {b : BatchRun} {i : Nat} {request : RelayRequest} {result : CallResult}
    (hreq : b.requests[i]? = some request) (hcall : b.calls[i]? = some .running) (hr : ¬ result.IsRelayed) :
    (b.finish i result).1.defects ≠ [] := by
  simp only [finish, hreq, hcall]
  cases result with
  | answered status body => exact absurd trivial hr
  | failed e => exact absurd trivial hr
  | met defect => simp [settleCall]

/-- Where some call ends with what the relay does not answer for, there is a first one. -/
theorem exists_first_unrelayed {i : Nat} {result : CallResult} (hmem : .finish i result ∈ actions)
    (hbad : ¬ result.IsRelayed) :
    ∃ before i result after, actions = before ++ .finish i result :: after ∧ ¬ result.IsRelayed ∧
      ∀ i result, .finish i result ∈ before → result.IsRelayed := by
  induction actions with
  | nil => cases hmem
  | cons a actions ih =>
      -- either the first action is such an end, or the first such end is one of the later actions
      by_cases ha : ∃ j r, a = .finish j r ∧ ¬ r.IsRelayed
      · obtain ⟨j, r, rfl, hr⟩ := ha
        exact ⟨[], j, r, actions, rfl, hr, by simp⟩
      · push Not at ha
        have hlater : .finish i result ∈ actions := by
          rcases List.mem_cons.1 hmem with rfl | hlater
          · exact absurd (ha i result rfl) hbad
          · exact hlater
        obtain ⟨before, j, r, after, heq, hr, hgood⟩ := ih hlater
        refine ⟨a :: before, j, r, after, by rw [heq]; rfl, hr, fun k s hk => ?_⟩
        rcases List.mem_cons.1 hk with rfl | hk
        · exact ha k s rfl
        · exact hgood k s hk

/-- **A batch meets no defect** exactly if the relay answers for every call. -/
theorem IsSchedule.clean_iff (h : IsSchedule requests.length actions) :
    ((create requests).performAll actions).defects = [] ↔ ∀ i result, .finish i result ∈ actions → result.IsRelayed := by
  constructor
  · intro hclean
    -- the first call that the relay does not answer for leaves a defect
    by_contra hnot
    push Not at hnot
    obtain ⟨i, result, hmem, hbad⟩ := hnot
    obtain ⟨before, i, result, after, heq, hbad, hgood⟩ := exists_first_unrelayed hmem hbad
    obtain ⟨hlt, hmade, hnew⟩ := h.finish_running heq
    have ht := tracks_performAll h hgood heq
    have hreq : ((create requests).performAll before).requests[i]? = some requests[i] := by
      rw [ht.same, List.getElem?_eq_getElem hlt]
    have hcall : ((create requests).performAll before).calls[i]? = some .running := by
      rw [ht.call hlt, callState, if_neg hnew, if_pos hmade]
    rw [heq, performAll, List.foldl_append] at hclean
    exact defects_performAll after _ (defects_finish hreq hcall hbad) hclean
  · exact fun hr => (tracks_performAll h hr (List.append_nil actions).symm).clean

/-- **Every request is posted once.** -/
theorem IsSchedule.posted_perm (h : IsSchedule requests.length actions)
    (hr : ∀ i result, .finish i result ∈ actions → result.IsRelayed) :
    ((create requests).performAll actions).posted.Perm requests := by
  rw [(tracks_performAll h hr (List.append_nil actions).symm).posted]
  have hposted := h.makesEach.filterMap (requests[·]?)
  rwa [filterMap_range_getElem?] at hposted

/-- **The entries are returned**, as every call has ended and none has left a defect. -/
theorem IsSchedule.returned?_eq (h : IsSchedule requests.length actions)
    (hr : ∀ i result, .finish i result ∈ actions → result.IsRelayed) :
    ((create requests).performAll actions).returned? = some (.ok ((create requests).performAll actions).result) := by
  have ht := tracks_performAll h hr (List.append_nil actions).symm
  have hall : ∀ i < requests.length, i ∈ ended actions := fun i hi =>
    h.endsEach.mem_iff.2 (List.mem_range.2 hi)
  rw [returned?, if_pos (ht.isOver_iff.2 hall), outcome, ht.clean]
  rfl

/-- **A batch returns its entries** exactly if the relay answers for every call. -/
theorem IsSchedule.returns_iff (h : IsSchedule requests.length actions) :
    (∃ entries, ((create requests).performAll actions).returned? = some (.ok entries)) ↔
      ∀ i result, .finish i result ∈ actions → result.IsRelayed := by
  rw [← h.clean_iff]
  constructor
  · rintro ⟨entries, hreturned⟩
    rw [returned?] at hreturned
    split at hreturned
    · by_contra hdefects
      rw [outcome, if_neg (by simpa using hdefects)] at hreturned
      cases hreturned
    · cases hreturned
  · exact fun hclean => ⟨_, h.returned?_eq (h.clean_iff.1 hclean)⟩

/-- **The law of a batch.** Where the relay answers for every call, then in whatever order the calls are made and end,
    every request is posted once, the batch returns its entries, and it does so only when every call has ended. Each
    requested URL has its entry in one of the two tables, and no other URL has any; the entry is what the last call to
    the URL came to. So two orders in which the calls to each URL end alike come to the same entries. -/
theorem batch_keeps_last_completion (requests : List RelayRequest) (actions : List Action)
    (h : IsSchedule requests.length actions)
    (hr : ∀ i result, .finish i result ∈ actions → result.IsRelayed) :
    let b := (create requests).performAll actions
    b.posted.Perm requests ∧
    b.returned? = some (.ok b.result) ∧
    (∀ before after, actions = before ++ after → ((create requests).performAll before).returned?.isSome →
      ∀ i < requests.length, i ∈ ended before) ∧
    List.Disjoint b.result.successes.keys b.result.errors.keys ∧
    (∀ url, (url ∈ b.result.successes.keys ∨ url ∈ b.result.errors.keys) ↔ url ∈ requests.map (·.url)) ∧
    b.result.size = (requests.map (·.url)).dedup.length ∧
    (∀ url, b.result.Shows url (lastTo requests url actions)) ∧
    ∀ others, IsSchedule requests.length others → (∀ i result, .finish i result ∈ others → result.IsRelayed) →
      (∀ url, completionsTo requests url others = completionsTo requests url actions) →
      ∀ url, ((create requests).performAll others).result.successes.get? url = b.result.successes.get? url ∧
        ((create requests).performAll others).result.errors.get? url = b.result.errors.get? url := by
  intro b
  have ht : Tracks requests actions b := tracks_performAll h hr (List.append_nil actions).symm
  have hall : ∀ i < requests.length, i ∈ ended actions := fun i hi =>
    h.endsEach.mem_iff.2 (List.mem_range.2 hi)
  refine ⟨h.posted_perm hr, h.returned?_eq hr, ?_, ?_, ht.mem_keys_iff hall, ht.size_eq hall, ht.shown, ?_⟩
  -- a batch that has returned is over, and then all calls have ended
  · intro before after heq hreturned
    have hover : ((create requests).performAll before).isOver = true := by
      by_contra hnot
      simp [returned?, hnot] at hreturned
    have hprefix : ∀ i result, .finish i result ∈ before → result.IsRelayed := fun i result hmem =>
      hr i result (by simp [heq, hmem])
    exact (tracks_performAll h hprefix heq).isOver_iff.1 hover
  · intro url hs he
    exact (ht.shown url).not_both ⟨hs, he⟩
  -- both orders show what the last call to the URL came to, and that is the same call
  · intro others h' hr' hsame url
    have ht' := tracks_performAll h' hr' (List.append_nil others).symm
    have hshown := ht'.shown url
    rw [lastTo, hsame url] at hshown
    exact hshown.unique (ht.shown url)

/-- Three requests, two of them to one URL. -/
def threeRequests : List RelayRequest := [⟨"a", .int 1⟩, ⟨"b", .null⟩, ⟨"a", .int 2⟩]

/-- The second call ends before the third is made, and the first call ends last. -/
def crossedOrder : List Action :=
  [.post 0, .post 1, .finish 1 (.answered 500 .null), .post 2, .notice, .finish 2 (.answered 200 (.int 7)),
    .finish 0 (.failed ⟨.transport, "refused"⟩)]

theorem batch_keeps_last_completion_crossed :
    IsSchedule 3 crossedOrder ∧ (∀ i result, .finish i result ∈ crossedOrder → result.IsRelayed) ∧
    ((create threeRequests).performAll crossedOrder).posted.Perm threeRequests ∧
    ((create threeRequests).performAll crossedOrder).result.size = 2 ∧
    ((create threeRequests).performAll crossedOrder).result.Shows "a" (some (.failed ⟨.transport, "refused"⟩)) := by
  have horder : IsSchedule threeRequests.length crossedOrder := by
    refine ⟨by decide, by decide, ?_⟩
    intro before i result after heq
    -- the call that ends is known from how many actions stand before it
    rcases before with _ | ⟨_, _ | ⟨_, _ | ⟨_, _ | ⟨_, _ | ⟨_, _ | ⟨_, _ | ⟨_, before⟩⟩⟩⟩⟩⟩⟩ <;>
      simp [crossedOrder] at heq <;> grind
  have hrelayed : ∀ i result, .finish i result ∈ crossedOrder → result.IsRelayed := by
    intro i result hmem
    simp only [crossedOrder, List.mem_cons, reduceCtorEq, Action.finish.injEq, List.not_mem_nil, false_or, or_false] at hmem
    rcases hmem with ⟨-, rfl⟩ | ⟨-, rfl⟩ | ⟨-, rfl⟩
    · trivial
    · trivial
    · trivial
  obtain ⟨hposted, -, -, -, -, hsize, hshown, -⟩ := batch_keeps_last_completion threeRequests crossedOrder horder hrelayed
  exact ⟨horder, hrelayed, hposted, hsize.trans (by decide), hshown "a"⟩

end WebhookBridge.BatchRun
