import WebhookBridge.TaskRuntime.Turn

/-!
# What lasts in a task runtime

A listener that has ended does not come back, whatever happens to its runtime. The relay's state is changed by calls
alone, so that whatever calls keep of it lasts as well. Events come and go on their own: nothing that happens to tasks
touches them.

## Contents

* `TaskRuntime.HasEnded`: listeners that have ended;
* `TaskRuntime.Lasts`: a later runtime with the same events, in which ended listeners have ended, and the relay keeps a
  property;
* one lemma for each operation.
-/

namespace WebhookBridge

/-- Whether a listener has ended. -/
def ListenerState.IsOver (state : ListenerState) : Prop := state = .done ∨ state = .cancelled

namespace TaskRuntime

variable {σ : Type} {P : σ → Prop}

/-- A listener has ended. -/
def HasEnded (r : TaskRuntime σ) (n : Nat) : Prop := ∃ l, r.listeners[n]? = some l ∧ l.state.IsOver

/-- A later runtime: listeners that have ended are over there, the relay keeps a property if it had it, and the events are
    the same. -/
structure Lasts (P : σ → Prop) (r r' : TaskRuntime σ) : Prop where
  listeners : ∀ n, r.HasEnded n → r'.HasEnded n
  relay : P r.relay → P r'.relay
  events : r'.events = r.events

theorem Lasts.trans {r r' r'' : TaskRuntime σ} (h : Lasts P r r') (h' : Lasts P r' r'') : Lasts P r r'' :=
  ⟨fun n hn => h'.listeners n (h.listeners n hn), fun hP => h'.relay (h.relay hP), h'.events.trans h.events⟩

theorem Lasts.of_same {r r' : TaskRuntime σ} (hlisteners : r'.listeners = r.listeners) (hrelay : r'.relay = r.relay)
    (hevents : r'.events = r.events) : Lasts P r r' := by
  refine ⟨fun n hn => ?_, fun hP => ?_, hevents⟩
  · rw [HasEnded, hlisteners]
    exact hn
  · rw [hrelay]
    exact hP

theorem Lasts.refl (r : TaskRuntime σ) : Lasts P r r := .of_same rfl rfl rfl

/-- What lasts from a runtime with the same listeners, relay and events lasts from this one. -/
theorem Lasts.after {r same r' : TaskRuntime σ} (h : Lasts P same r') (hlisteners : same.listeners = r.listeners)
    (hrelay : same.relay = r.relay) (hevents : same.events = r.events) : Lasts P r r' :=
  (Lasts.of_same hlisteners hrelay hevents).trans h

/-! ## Listeners -/

theorem lasts_map (r : TaskRuntime σ) {f : Listener → Listener} (hf : ∀ l, l.state.IsOver → (f l).state.IsOver) :
    Lasts P r { r with listeners := r.listeners.map f } := by
  refine ⟨fun n ⟨l, hl, hover⟩ => ⟨f l, ?_, hf l hover⟩, id, rfl⟩
  show (r.listeners.map f)[n]? = some (f l)
  rw [List.getElem?_map, hl]
  rfl

theorem lasts_modify (r : TaskRuntime σ) (n : Nat) {f : Listener → Listener}
    (hf : ∀ l, r.listeners[n]? = some l → l.state.IsOver → (f l).state.IsOver) :
    Lasts P r { r with listeners := r.listeners.modify n f } := by
  refine ⟨fun m ⟨l, hl, hover⟩ => ?_, id, rfl⟩
  by_cases hm : n = m
  · subst hm
    refine ⟨f l, ?_, hf l hl hover⟩
    show (r.listeners.modify n f)[n]? = some (f l)
    rw [List.getElem?_modify_eq, hl]
    rfl
  · refine ⟨l, ?_, hover⟩
    show (r.listeners.modify n f)[m]? = some l
    simp [hm, hl]

/-- A listener that has not ended goes on in some state. -/
theorem lasts_setListener {r : TaskRuntime σ} {n : Nat} (h : ¬ r.HasEnded n) (state : ListenerState) :
    Lasts P r (r.setListener n state) :=
  lasts_modify r n fun l hl hover => absurd ⟨l, hl, hover⟩ h

/-- Any listener may be cancelled. -/
theorem lasts_cancelled (r : TaskRuntime σ) (n : Nat) : Lasts P r (r.setListener n .cancelled) :=
  lasts_modify r n fun _ _ _ => Or.inr rfl

theorem lasts_callListener (r : TaskRuntime σ) : Lasts P r r.callListener := by
  unfold callListener
  split
  · exact .refl r
  · rename_i n rest hwaiting
    have hwake : Lasts P r { r with listeners := r.listeners.modify n fun l =>
        if l.state = .waiting then { l with state := .looking } else l } := by
      refine lasts_modify r n fun l _ hover => ?_
      split
      · rename_i hstate
        rw [hstate] at hover
        rcases hover with hover | hover
        · cases hover
        · cases hover
      · exact hover
    exact hwake.trans (.of_same rfl rfl rfl)

theorem lasts_listen (r : TaskRuntime σ) (handlers : Handlers) : Lasts P r (r.listen handlers) := by
  refine ⟨fun n ⟨l, hl, hover⟩ => ⟨l, ?_, hover⟩, id, rfl⟩
  show (r.listeners ++ [Listener.mk handlers .looking])[n]? = some l
  rw [List.getElem?_append_left (List.getElem?_eq_some_iff.1 hl).1, hl]

/-! ## Jobs -/

theorem lasts_endJob (r : TaskRuntime σ) (n : Nat) : Lasts P r (r.endJob n) := by
  have hset : Lasts P r (r.setJob n .over) := .of_same rfl rfl rfl
  refine hset.trans (lasts_map _ fun l hover => ?_)
  split
  · split
    · exact hover
    · exact Or.inl rfl
  · exact hover

theorem lasts_reply (r : TaskRuntime σ) (t : Nat) (payload : Payload) : Lasts P r (r.reply t payload).1 := by
  unfold reply
  split
  · exact .refl r
  · exact .of_same rfl rfl rfl

theorem lasts_failJob (r : TaskRuntime σ) (n t : Nat) : Lasts P r (r.failJob n t) := by
  unfold failJob
  split
  · exact lasts_endJob r n
  · refine Lasts.trans ?_ (lasts_endJob _ n)
    split
    · exact .of_same rfl rfl rfl
    · refine Lasts.trans ?_ (lasts_reply _ t _)
      exact .of_same rfl rfl rfl

variable {relay : Relay σ}

/-- **A job up to the next point where it waits.** -/
theorem lasts_advance (hP : ∀ s request, P s → P (relay.call s request).state) (n t : Nat) (a : Activity) :
    ∀ r : TaskRuntime σ, Lasts P r (advance relay n t a r) := by
  induction a with
  | done => exact fun r => lasts_endJob r n
  | fail defect => exact fun r => lasts_failJob r n t
  | reply payload next ih => exact fun r => (lasts_reply r t payload).trans (ih _ _)
  | call request next ih =>
      intro r
      rw [advance]
      have hcall : Lasts P r ({ r with relay := (relay.call r.relay request).state }.report
          (relay.call r.relay request).log) := ⟨fun _ hn => hn, hP r.relay request, rfl⟩
      refine hcall.trans ?_
      split
      · exact .of_same rfl rfl rfl
      · exact ih _ _
  | dispatch requests next ih =>
      intro r
      rw [advance]
      split
      · exact ih _ r
      · exact .of_same rfl rfl rfl
  | wait next ih =>
      intro r
      rw [advance]
      split
      · exact ih r
      · exact .of_same rfl rfl rfl
  | report events next ih =>
      intro r
      rw [advance]
      exact Lasts.after (ih (r.report events)) rfl rfl rfl

theorem lasts_startJob (hP : ∀ s request, P s → P (relay.call s request).state) (r : TaskRuntime σ) (n : Nat) (job : Job) :
    Lasts P r (r.startJob relay n job) := by
  unfold startJob
  split
  · split
    · exact lasts_advance hP n _ _ r
    · refine Lasts.trans ?_ (lasts_endJob _ n)
      refine Lasts.trans ?_ (lasts_reply _ _ _)
      exact .of_same rfl rfl rfl
  · exact lasts_endJob r n

theorem lasts_makeCall (hP : ∀ s request, P s → P (relay.call s request).state) (r : TaskRuntime σ) (n i : Nat) :
    Lasts P r (r.makeCall relay n i) := by
  unfold makeCall
  split
  · split
    · rename_i request _ _
      have hcall : Lasts P r ({ r with relay := (relay.call r.relay request).state }.report
          (relay.call r.relay request).log) := ⟨fun _ hn => hn, hP r.relay request, rfl⟩
      refine hcall.trans ?_
      dsimp only
      split
      · exact .of_same rfl rfl rfl
      · exact .of_same rfl rfl rfl
    · exact .refl r
  · exact .refl r

theorem lasts_settleCallOf (r : TaskRuntime σ) (n i : Nat) : Lasts P r (r.settleCallOf n i) := by
  unfold settleCallOf
  split
  · dsimp only
    split
    · exact .of_same rfl rfl rfl
    · exact .of_same rfl rfl rfl
  · exact .refl r

/-! ## Turns -/

theorem lasts_drain {n : Nat} (queue : List Queued) : ∀ r : TaskRuntime σ, ¬ r.HasEnded n → Lasts P r (drain n queue r) := by
  induction queue with
  | nil =>
      intro r h
      rw [drain]
      refine Lasts.after (lasts_setListener ?_ .waiting) rfl rfl rfl
      exact h
  | cons q rest ih =>
      intro r h
      cases q with
      | task t =>
          rw [drain]
          refine Lasts.after (ih _ ?_) rfl rfl rfl
          exact h
      | stop =>
          rw [drain]
          refine Lasts.after (lasts_setListener ?_ _) rfl rfl rfl
          exact h

/-- **One turn.** -/
theorem lasts_perform (hP : ∀ s request, P s → P (relay.call s request).state) (r : TaskRuntime σ) (turn : Turn) :
    Lasts P r (r.perform relay turn) := by
  cases turn with
  | listener n =>
      rw [perform]
      split
      · rename_i handlers hlistener
        -- a listener that looks into the queue has not ended
        refine lasts_drain r.queue r ?_
        rintro ⟨l, hl, hover⟩
        rw [hlistener] at hl
        cases hl
        rcases hover with hover | hover
        · cases hover
        · cases hover
      · exact .refl r
  | job n =>
      rw [perform]
      split
      · split
        · exact lasts_startJob hP r n _
        · exact lasts_advance hP n _ _ r
        · exact .refl r
      · exact .refl r
  | call n i => exact lasts_makeCall hP r n i
  | settled n i => exact lasts_settleCallOf r n i

theorem lasts_take? (hP : ∀ s request, P s → P (relay.call s request).state) (r : TaskRuntime σ) (position : Nat) :
    Lasts P r ((r.take? relay position).getD r) := by
  rw [take?]
  cases r.turns[position]? with
  | none => exact .refl r
  | some turn => exact Lasts.after (lasts_perform hP { r with turns := r.turns.eraseIdx position } turn) rfl rfl rfl

/-! ## Operations -/

theorem lasts_submit {r r' : TaskRuntime σ} {info : TaskInfo} (h : r.submit info = .ok r') : Lasts P r r' := by
  unfold submit at h
  split at h
  · cases h
  · cases h
    exact Lasts.after (lasts_callListener _) rfl rfl rfl

theorem lasts_close (r : TaskRuntime σ) : Lasts P r r.close := by
  unfold close
  split
  · exact .refl r
  · exact Lasts.after (lasts_callListener _) rfl rfl rfl

theorem lasts_expireCalls (n : Nat) (calls : List (Nat × CallResult)) :
    ∀ r : TaskRuntime σ, Lasts P r (expireCalls n calls r) := by
  induction calls with
  | nil => exact fun r => .refl r
  | cons call calls ih =>
      obtain ⟨i, result⟩ := call
      intro r
      rw [expireCalls]
      split
      · split
        · exact Lasts.after (ih _) rfl rfl rfl
        · exact ih r
      · exact .refl r

theorem lasts_expireJob (r : TaskRuntime σ) (n : Nat) : Lasts P r (r.expireJob n) := by
  unfold expireJob
  split
  · exact .of_same rfl rfl rfl
  · exact Lasts.after (lasts_expireCalls n _ _) rfl rfl rfl
  · exact .refl r

theorem lasts_endCall (r : TaskRuntime σ) (n i : Nat) : Lasts P r (r.endCall n i) := by
  unfold endCall
  split
  · split
    · exact Lasts.after (lasts_expireCalls n _ _) rfl rfl rfl
    · exact .refl r
  · exact .refl r

theorem lasts_resume (r : TaskRuntime σ) (n : Nat) : Lasts P r (r.resume n) := by
  unfold resume
  split
  · exact .of_same rfl rfl rfl
  · exact .refl r

theorem lasts_foldl {f : TaskRuntime σ → Nat → TaskRuntime σ} (hf : ∀ r n, Lasts P r (f r n)) (jobs : List Nat) :
    ∀ r, Lasts P r (jobs.foldl f r) := by
  induction jobs with
  | nil => exact fun r => .refl r
  | cons n jobs ih => exact fun r => (hf r n).trans (ih (f r n))

theorem lasts_expire (r : TaskRuntime σ) : Lasts P r r.expire := lasts_foldl lasts_expireJob _ r

theorem lasts_release (r : TaskRuntime σ) : Lasts P r r.release :=
  Lasts.after (lasts_foldl lasts_resume r.held { r with released := true, held := [] }) rfl rfl rfl

/-- **A listener that is cancelled** has ended. -/
theorem lasts_cancelListener (r : TaskRuntime σ) (n : Nat) : Lasts P r (r.cancelListener n) := by
  unfold cancelListener
  split
  · exact (lasts_cancelled r n).trans (lasts_foldl lasts_endJob _ _)
  · exact .refl r
  · exact Lasts.after (lasts_cancelled { r with waiting := r.waiting.filter (· != n) } n) rfl rfl rfl
  · exact .refl r

end TaskRuntime

end WebhookBridge
