import WebhookBridge.Proofs.Server.Stages

/-!
# What the calls of the server come to

A call that has ended stays so. One that waits for the end of the embedded server learns how it ended, and is given a
verdict on it at that moment: what the server is doing then says whether the end was asked for.

## Contents

* `WebhookServer.start_stays_ended`: calls to start that have ended;
* `WebhookServer.Learns`, `WebhookServer.wait_learns`: what a call that waits may come to.
-/

namespace WebhookBridge.WebhookServer

variable {s : WebhookServer}

/-! ## Calls to start -/

/-- Opening brings sockets and embedded servers, and touches nothing else. -/
theorem openServing_keeps (s : WebhookServer) (bind : Binder) :
    ∃ sockets servings, (s.openServing bind).1 = { s with sockets := sockets, servings := servings } := by
  unfold openServing
  cases Address.parse s.listenAddress with
  | error error => exact ⟨_, _, rfl⟩
  | ok a =>
      dsimp only
      cases bind a with
      | refused reason => exact ⟨_, _, rfl⟩
      | failed defect => exact ⟨_, _, rfl⟩
      | bound b =>
          dsimp only
          split
          · exact ⟨_, _, rfl⟩
          · exact ⟨_, _, rfl⟩

/-- A call to start comes behind all others, and nobody waits for anything else on its account. -/
theorem start_keeps (s : WebhookServer) (bind : Binder) :
    (∃ call, (s.start bind).starts = s.starts ++ [call]) ∧ (s.start bind).waits = s.waits := by
  obtain ⟨sockets, servings, hopened⟩ := s.openServing_keeps bind
  unfold start
  split
  · exact ⟨⟨_, rfl⟩, rfl⟩
  · cases hopen : s.openServing bind with
    | mk opened result =>
        rw [hopen] at hopened
        subst hopened
        cases result with
        | ok n => exact ⟨⟨_, rfl⟩, rfl⟩
        | error fault => exact ⟨⟨_, rfl⟩, rfl⟩

/-- **A call to start that has ended** does not change any more, whatever happens. -/
theorem start_stays_ended {k : Nat} {result : Except ServerFault Unit} (h : s.starts[k]? = some (.ended result))
    (a : Action) : (s.perform a).starts[k]? = some (.ended result) := by
  cases a with
  | start bind =>
      obtain ⟨⟨call, hcalls⟩, -⟩ := s.start_keeps bind
      show (s.start bind).starts[k]? = _
      rw [hcalls, List.getElem?_append_left (List.getElem?_eq_some_iff.1 h).1]
      exact h
  | shutdown grace => exact (congrArg (·[k]?) (starts_shutdown s grace)).trans h
  | wait =>
      have hsame : s.wait.starts = s.starts := congrArg ServerCore.starts s.core_wait
      exact (congrArg (·[k]?) hsame).trans h
  | resumeStart i =>
      -- the call that goes on is polling, so that it is another one
      have hset : ∀ {n call}, s.starts[i]? = some (.polling n) → (s.starts.set i call)[k]? = some (.ended result) := by
        intro n call hpolling
        have hne : i ≠ k := by
          rintro rfl
          rw [h] at hpolling
          cases hpolling
        rw [List.getElem?_set_ne hne]
        exact h
      show (s.resumeStart i).starts[k]? = _
      unfold resumeStart
      split
      · rename_i n hpolling
        split
        · exact h
        · split
          · exact hset hpolling
          · split
            · exact h
            · exact hset hpolling
            · exact hset hpolling
      · exact h
  | resumeShutdown i =>
      have hsame : (s.resumeShutdown i).starts = s.starts := by
        unfold resumeShutdown
        split
        · split
          · rfl
          · exact starts_finishShutdown s _
        · rfl
      exact (congrArg (·[k]?) hsame).trans h
  | resumeWait i =>
      have hsame : (s.resumeWait i).starts = s.starts := congrArg ServerCore.starts (s.core_resumeWait i)
      exact (congrArg (·[k]?) hsame).trans h
  | beginServing n => exact h
  | endServing n ending => exact h

/-! ## Calls that wait -/

/-- **What a call that waits learns now**: nothing if there is nothing to wait for, or the verdict on an embedded server that
    has ended. -/
inductive Learns (s : WebhookServer) : Except ServerFault Unit → Prop
  | idle (hserving : s.serving = none) : Learns s (.ok ())
  | ended (n : Nat) (ending : Except Defect Unit) (hending : s.endingOf? n = some ending) : Learns s (s.verdict ending)

theorem wait_learns_wait {k : Nat} {result : Except ServerFault Unit} (h : s.wait.waits[k]? = some (.ended result)) :
    s.waits[k]? = some (.ended result) ∨ s.Learns result := by
  have happend : ∀ w : WaitCall, (s.addWait w).waits[k]? = some (.ended result) →
      s.waits[k]? = some (.ended result) ∨ w = .ended result := by
    intro w hw
    have hcalls : (s.waits ++ [w])[k]? = some (.ended result) := hw
    rw [List.getElem?_append, List.getElem?_singleton] at hcalls
    split at hcalls
    · exact Or.inl hcalls
    · split at hcalls
      · exact Or.inr (Option.some.inj hcalls)
      · cases hcalls
  unfold wait at h
  split at h
  · rename_i hserving
    rcases happend _ h with hbefore | hnow
    · exact Or.inl hbefore
    · cases hnow
      exact Or.inr (.idle hserving)
  · rename_i n _
    split at h
    · rename_i ending hending
      rcases happend _ h with hbefore | hnow
      · exact Or.inl hbefore
      · cases hnow
        exact Or.inr (.ended n ending hending)
    · rcases happend _ h with hbefore | hnow
      · exact Or.inl hbefore
      · cases hnow

theorem wait_learns_resumeWait {i k : Nat} {result : Except ServerFault Unit}
    (h : (s.resumeWait i).waits[k]? = some (.ended result)) :
    s.waits[k]? = some (.ended result) ∨ s.Learns result := by
  unfold resumeWait at h
  split at h
  · rename_i n _
    split at h
    · exact Or.inl h
    · rename_i ending hending
      have hset : (s.waits.set i (.ended (s.verdict ending)))[k]? = some (.ended result) := h
      rw [List.getElem?_set] at hset
      split at hset
      · split at hset
        · cases hset
          exact Or.inr (.ended n ending hending)
        · cases hset
      · exact Or.inl hset
  · exact Or.inl h

/-- **A call that waits** and has ended had ended before, or has just learnt what it came to. -/
theorem wait_learns {k : Nat} {result : Except ServerFault Unit} {a : Action}
    (h : (s.perform a).waits[k]? = some (.ended result)) : s.waits[k]? = some (.ended result) ∨ s.Learns result := by
  cases a with
  | wait => exact wait_learns_wait h
  | resumeWait i => exact wait_learns_resumeWait h
  | start bind => exact Or.inl ((congrArg (·[k]?) (s.start_keeps bind).2).symm.trans h)
  | shutdown grace => exact Or.inl ((congrArg (·[k]?) (s.waits_shutdown grace)).symm.trans h)
  | resumeStart i =>
      have hsame : (s.resumeStart i).waits = s.waits := by
        unfold resumeStart
        repeat' split
        all_goals rfl
      exact Or.inl ((congrArg (·[k]?) hsame).symm.trans h)
  | resumeShutdown i =>
      have hsame : (s.resumeShutdown i).waits = s.waits := by
        unfold resumeShutdown
        split
        · split
          · rfl
          · exact waits_finishShutdown s _
        · rfl
      exact Or.inl ((congrArg (·[k]?) hsame).symm.trans h)
  | beginServing n => exact Or.inl h
  | endServing n ending => exact Or.inl h

end WebhookBridge.WebhookServer
