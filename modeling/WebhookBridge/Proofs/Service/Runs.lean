import WebhookBridge.Proofs.Service.Closing
import WebhookBridge.Proofs.TaskRuntime.Lasting

/-!
# How far a run has come

A run waits for the server to start, serves, waits for the closing, and lingers until its sides have ended. Each of these
points says something about the server's one start and about the closing, which everything that happens in between
leaves true.

## Contents

* `Service.SidesEnded`, `Service.Onward`: sides that have ended, and what everything but a run keeps of them;
* `Service.RunsFit`: how far a run has come;
* `Service.Sound`: the invariant, of the closing and of the run;
* `Service.sound_resumeRun`: the run goes on.
-/

namespace WebhookBridge.Service

variable {s s' : Service}

/-! ## Sides -/

/-- Both sides of a run have ended. -/
def SidesEnded (s : Service) (sides : Sides) : Prop :=
  (s.listenEnding? sides.listen).isSome = true ∧ (s.waitEnding? sides.wait).isSome = true

theorem isSome_listenEnding?_listening {n : Nat} :
    (s.listenEnding? (.listening n)).isSome = true ↔ s.runtime.HasEnded n := by
  rw [listenEnding?, TaskRuntime.HasEnded]
  cases s.runtime.listeners[n]? with
  | none => simp
  | some l =>
      by_cases hover : l.state = .done ∨ l.state = .cancelled
      · simp [hover, ListenerState.IsOver]
      · simp [hover, ListenerState.IsOver]

theorem isSome_waitEnding?_waiting {call : Nat} :
    (s.waitEnding? (.waiting call)).isSome = true ↔ s.server.WaitEnded call := by
  rw [waitEnding?, WebhookServer.WaitEnded]
  cases hcall : s.server.waits[call]? with
  | none => simp
  | some w =>
      cases w with
      | waiting n => simp
      | ended result => simp

/-- A later service: what had ended has ended there, and the one start has not changed. -/
structure Onward (s s' : Service) : Prop where
  listeners : ∀ n, s.runtime.HasEnded n → s'.runtime.HasEnded n
  waits : ∀ call, s.server.WaitEnded call → s'.server.WaitEnded call
  length : s'.server.starts.length = s.server.starts.length
  starts : ∀ result, s.server.starts = [.ended result] → s'.server.starts = [.ended result]
  closing : ∀ result, s.closing = some (.ended result) → s'.closing = some (.ended result)

/-- What changes neither the listeners nor the server, and keeps a closing that has ended. -/
theorem Onward.of_same (hlisteners : s'.runtime.listeners = s.runtime.listeners) (hserver : s'.server = s.server)
    (hclosing : ∀ result, s.closing = some (.ended result) → s'.closing = some (.ended result)) : Onward s s' where
  listeners n hn := by
    rw [TaskRuntime.HasEnded, hlisteners]
    exact hn
  waits call hcall := by
    rw [hserver]
    exact hcall
  length := by rw [hserver]
  starts result hresult := by
    rw [hserver]
    exact hresult
  closing := hclosing

theorem Onward.refl (s : Service) : Onward s s := .of_same rfl rfl fun _ h => h

theorem Onward.trans {t : Service} (h : Onward s s') (h' : Onward s' t) : Onward s t where
  listeners n hn := h'.listeners n (h.listeners n hn)
  waits call hcall := h'.waits call (h.waits call hcall)
  length := h'.length.trans h.length
  starts result hresult := h'.starts result (h.starts result hresult)
  closing result hresult := h'.closing result (h.closing result hresult)

/-- A closing that has not ended may come to any state. -/
theorem Onward.setClosing (h : Onward s s') (hopen : ∀ result, s.closing ≠ some (.ended result)) (state : ClosingState) :
    Onward s (s'.setClosing state) :=
  ⟨h.listeners, h.waits, h.length, h.starts, fun result hended => absurd hended (hopen result)⟩

/-- Sides that have ended have ended for good. -/
theorem Onward.sidesEnded (h : Onward s s') {sides : Sides} (hsides : s.SidesEnded sides) : s'.SidesEnded sides := by
  obtain ⟨listen, wait⟩ := sides
  refine ⟨?_, ?_⟩
  · have hlisten := hsides.1
    cases listen with
    | fresh => exact hlisten
    | returned => rfl
    | failed defect => rfl
    | cancelled => rfl
    | listening n =>
        rw [isSome_listenEnding?_listening] at hlisten ⊢
        exact h.listeners n hlisten
  · have hwait := hsides.2
    cases wait with
    | fresh => exact hwait
    | cancelled => rfl
    | waiting call =>
        rw [isSome_waitEnding?_waiting] at hwait ⊢
        exact h.waits call hwait

/-! ## How far a run has come -/

/-- **A run by its state**: whether its start has ended, and when it lingers or has ended, what its closing came to. A run
    that has ended after a closing that did not fail has no side left. -/
inductive RunsFit (s : Service) : List RunCall → Prop
  | none (hstarts : s.server.starts = []) : RunsFit s []
  | starting (hstarts : s.server.starts.length = 1) : RunsFit s [.starting 0]
  | serving (sides : Sides) (hstarts : ∃ result, s.server.starts = [.ended result]) : RunsFit s [.serving sides]
  | closing (outcome : Except ServiceFault Unit) (sides : Option Sides)
      (hstarts : ∃ result, s.server.starts = [.ended result]) : RunsFit s [.closing outcome sides]
  | lingering (outcome : Except ServiceFault Unit) (sides : Sides)
      (hstarts : ∃ result, s.server.starts = [.ended result]) (hclosing : s.closing = some (.ended (.ok ()))) :
      RunsFit s [.lingering outcome sides]
  | failed (outcome : Except ServiceFault Unit) (sides : Option Sides) (fault : ServiceFault)
      (hstarts : ∃ result, s.server.starts = [.ended result]) (hclosing : s.closing = some (.ended (.error fault))) :
      RunsFit s [.ended outcome sides]
  | done (outcome : Except ServiceFault Unit) (sides : Option Sides)
      (hstarts : ∃ result, s.server.starts = [.ended result]) (hclosing : s.closing = some (.ended (.ok ())))
      (hsides : ∀ both, sides = some both → s.SidesEnded both) : RunsFit s [.ended outcome sides]

theorem RunsFit.onward {runs : List RunCall} (h : RunsFit s runs) (hon : Onward s s') : RunsFit s' runs := by
  have hkept : (∃ result, s.server.starts = [.ended result]) → ∃ result, s'.server.starts = [.ended result] :=
    fun ⟨result, hresult⟩ => ⟨result, hon.starts result hresult⟩
  cases h with
  | none hstarts =>
      refine .none (List.eq_nil_of_length_eq_zero ?_)
      rw [hon.length, hstarts]
      rfl
  | starting hstarts => exact .starting (hon.length.trans hstarts)
  | serving sides hstarts => exact .serving sides (hkept hstarts)
  | closing outcome sides hstarts => exact .closing outcome sides (hkept hstarts)
  | lingering outcome sides hstarts hclosing => exact .lingering outcome sides (hkept hstarts) (hon.closing _ hclosing)
  | failed outcome sides fault hstarts hclosing =>
      exact .failed outcome sides fault (hkept hstarts) (hon.closing _ hclosing)
  | done outcome sides hstarts hclosing hsides =>
      exact .done outcome sides (hkept hstarts) (hon.closing _ hclosing) fun both hboth => hon.sidesEnded (hsides both hboth)

/-- There is one run. -/
theorem RunsFit.singleton (h : RunsFit s s.runs) {i : Nat} {call : RunCall} (hcall : s.runs[i]? = some call) :
    s.runs = [call] ∧ i = 0 := by
  generalize s.runs = runs at h hcall
  cases h with
  | none _ => cases hcall
  | _ =>
      rw [List.getElem?_singleton] at hcall
      split at hcall
      · rename_i hi
        cases hcall
        exact ⟨rfl, hi⟩
      · cases hcall

/-- The invariant of a service with at most one run. -/
structure Sound (early : Prop) (s : Service) : Prop where
  closing : ClosingSound early s
  runs : RunsFit s s.runs

variable {early : Prop}

/-- What leaves the runs as they are keeps the invariant if it keeps the closing's. -/
theorem Sound.onward (h : Sound early s) {early' : Prop} (hclosing : ClosingSound early' s') (hon : Onward s s')
    (hruns : s'.runs = s.runs) : Sound early' s' := by
  refine ⟨hclosing, ?_⟩
  rw [hruns]
  exact h.runs.onward hon

/-- The run goes on. -/
theorem Sound.setRun (h : Sound early s) {call call' : RunCall} (hruns : s.runs = [call]) (hfits : RunsFit s [call']) :
    Sound early (s.setRun 0 call') := by
  refine ⟨h.closing, ?_⟩
  have hset : (s.setRun 0 call').runs = [call'] := by
    show s.runs.set 0 call' = [call']
    rw [hruns]
    rfl
  rw [hset]
  exact hfits.onward (.of_same rfl rfl fun _ hended => hended)

/-! ## The run goes on -/

theorem closing_of_result {result : Except ServiceFault Unit} (h : s.closingResult? = some result) :
    s.closing = some (.ended result) := by
  unfold closingResult? at h
  split at h
  · rename_i hclosing
    cases h
    exact hclosing
  · cases h

/-- Where a run goes when the closing has ended. -/
theorem runsFit_afterClosing (hstarts : ∃ result, s.server.starts = [.ended result])
    {result : Except ServiceFault Unit} (hclosing : s.closing = some (.ended result)) (outcome : Except ServiceFault Unit)
    (sides : Option Sides) : RunsFit s [afterClosing outcome sides result] := by
  cases result with
  | error fault => exact .failed (.error fault) sides fault hstarts hclosing
  | ok u =>
      cases sides with
      | none => exact .done outcome none hstarts hclosing fun both hboth => by cases hboth
      | some both => exact .lingering outcome both hstarts hclosing

theorem onward_requestClosing (s : Service) : Onward s s.requestClosing := by
  unfold requestClosing
  split
  · rename_i hnone
    exact (Onward.refl s).setClosing (fun result hended => by rw [hnone] at hended; cases hended) .requested
  · exact Onward.refl s

theorem runs_requestClosing (s : Service) : s.requestClosing.runs = s.runs := by
  unfold requestClosing
  split
  · rfl
  · rfl

/-- The closing is asked for. -/
theorem Sound.requestClosing (h : Sound early s) : Sound early s.requestClosing :=
  h.onward (closingSound_requestClosing h.closing) (onward_requestClosing s) (runs_requestClosing s)

/-- A run has its outcome. -/
theorem Sound.settleRun (h : Sound early s) {call : RunCall} (hruns : s.runs = [call])
    (hstarts : ∃ result, s.server.starts = [.ended result]) (outcome : Except ServiceFault Unit) (sides : Option Sides) :
    Sound early (s.settleRun 0 outcome sides) := by
  unfold Service.settleRun
  split
  · rename_i result hresult
    exact h.setRun hruns (runsFit_afterClosing hstarts (closing_of_result hresult) outcome sides)
  · obtain ⟨result, hone⟩ := hstarts
    refine h.requestClosing.setRun ((runs_requestClosing s).trans hruns) ?_
    exact .closing outcome sides ⟨result, (onward_requestClosing s).starts result hone⟩

/-- **A run goes on.** -/
theorem sound_resumeRun (h : Sound early s) (i : Nat) (listenFirst : Bool) : Sound early (s.resumeRun i listenFirst) := by
  unfold resumeRun
  split
  · rename_i call hcall
    obtain ⟨hruns, rfl⟩ := h.runs.singleton hcall
    have hfits := h.runs
    rw [hruns] at hfits
    cases hfits with
    | starting hlength =>
        -- the server has come to listen, was refused, or is still to start
        obtain ⟨first, hstarts⟩ := List.length_eq_one_iff.1 hlength
        rw [hstarts]
        split
        · rename_i hfirst
          have hended : first = .ended (.ok ()) := Option.some.inj hfirst
          exact h.setRun hruns (.serving ⟨.fresh, .fresh⟩ ⟨_, hstarts.trans (congrArg ([·]) hended)⟩)
        · rename_i fault hfirst
          have hended : first = .ended (.error fault) := Option.some.inj hfirst
          exact h.settleRun hruns ⟨_, hstarts.trans (congrArg ([·]) hended)⟩ _ none
        · exact h
  · rename_i sides hcall
    obtain ⟨hruns, rfl⟩ := h.runs.singleton hcall
    have hfits := h.runs
    rw [hruns] at hfits
    cases hfits with
    -- the run serves until one of its sides has ended
    | serving _ hstarts =>
        split
        · exact h
        · exact h.settleRun hruns hstarts _ (some sides)
  · rename_i outcome sides hcall
    obtain ⟨hruns, rfl⟩ := h.runs.singleton hcall
    have hfits := h.runs
    rw [hruns] at hfits
    cases hfits with
    | closing _ _ hstarts =>
        split
        · rename_i result hresult
          exact h.setRun hruns (runsFit_afterClosing hstarts (closing_of_result hresult) outcome sides)
        · exact h
  · rename_i outcome sides hcall
    obtain ⟨hruns, rfl⟩ := h.runs.singleton hcall
    have hfits := h.runs
    rw [hruns] at hfits
    cases hfits with
    | lingering _ _ hstarts hclosing =>
        split
        · rename_i listenEnd waitEnd hlisten hwait
          -- both sides have ended, and so does the run
          refine h.setRun hruns (.done outcome (some sides) hstarts hclosing fun both hboth => ?_)
          cases hboth
          exact ⟨by rw [hlisten]; rfl, by rw [hwait]; rfl⟩
        · exact h
  · exact h

/-- A run whose sides have not both ended may come to have other sides. -/
theorem RunsFit.withSides {call : RunCall} (h : RunsFit s [call]) {sides : Sides} (hsides : sidesOf? call = some sides)
    (hopen : ¬ s.SidesEnded sides) (other : Sides) : RunsFit s [Service.withSides other call] := by
  cases h with
  | starting _ => cases hsides
  | serving _ hstarts => exact .serving other hstarts
  | closing outcome _ hstarts => exact .closing outcome (some other) hstarts
  | lingering outcome _ hstarts hclosing => exact .lingering outcome other hstarts hclosing
  | failed outcome _ fault hstarts hclosing => exact .failed outcome (some other) fault hstarts hclosing
  -- a run that has ended properly has no side that has not
  | done outcome both hstarts hclosing hended =>
      cases both with
      | none => cases hsides
      | some both =>
          cases hsides
          exact absurd (hended _ rfl) hopen

end WebhookBridge.Service
