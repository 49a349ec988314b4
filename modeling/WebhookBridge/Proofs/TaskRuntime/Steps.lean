import Mathlib.Logic.Relation
import WebhookBridge.Proofs.TaskRuntime.Frame
import WebhookBridge.TaskRuntime.Runs

/-!
# Moves in small steps

A move submits a task, closes the runtime or lets a listener start; or it is one of a few kinds of steps that the runtime
takes by itself, or several of one kind after another. What all of these keep is kept by every run.

## Contents

* `TaskRuntime.Step`, `TaskRuntime.step_take?`: a step, and turns as steps;
* `TaskRuntime.accepts?`, `TaskRuntime.accepted`: the tasks that a runtime accepts, by one move and in a run;
* `TaskRuntime.Moved`, `TaskRuntime.moved_move`: what a move comes to.
-/

namespace WebhookBridge.TaskRuntime

variable {σ : Type} {relay : Relay σ} {r r' : TaskRuntime σ}

/-! ## Steps -/

/-- The runtime without the turn at a position. -/
def spend (r : TaskRuntime σ) (position : Nat) : TaskRuntime σ := { r with turns := r.turns.eraseIdx position }

/-- **One step** of a runtime: a turn of somebody who has something to do or of somebody who has nothing to do, the end of
    something that a job waits for, or what is of no concern to tasks at all. -/
inductive Step (relay : Relay σ) (r : TaskRuntime σ) : TaskRuntime σ → Prop
  | look (position n : Nat) (handlers : Handlers) (hturn : r.turns[position]? = some (.listener n))
      (hlooking : r.listeners[n]? = some ⟨handlers, .looking⟩) : Step relay r (drain n r.queue (r.spend position))
  | start (position n : Nat) (job : Job) (hturn : r.turns[position]? = some (.job n)) (hjob : r.jobs[n]? = some job)
      (hstate : job.state = .starting) : Step relay r ((r.spend position).startJob relay n job)
  | goOn (position n : Nat) (job : Job) (activity : Activity) (hturn : r.turns[position]? = some (.job n))
      (hjob : r.jobs[n]? = some job) (hstate : job.state = .resuming activity) :
      Step relay r (advance relay n job.task activity (r.spend position))
  | call (position n i : Nat) (hturn : r.turns[position]? = some (.call n i)) :
      Step relay r ((r.spend position).makeCall relay n i)
  | settled (position n i : Nat) (hturn : r.turns[position]? = some (.settled n i)) :
      Step relay r ((r.spend position).settleCallOf n i)
  | idle (position : Nat) (turn : Turn) (hturn : r.turns[position]? = some turn)
      (hlistener : ∀ n handlers, turn = .listener n → r.listeners[n]? ≠ some ⟨handlers, .looking⟩) :
      Step relay r (r.spend position)
  | resume (n : Nat) : Step relay r (r.resume n)
  | endCall (n i : Nat) : Step relay r (r.endCall n i)
  | endCalls (n : Nat) : Step relay r (r.expireJob n)
  | aside (r' : TaskRuntime σ) (hsame : SameWork r r') (hclosed : r'.closed = r.closed) (hwaiting : r'.waiting = r.waiting)
      (hlisteners : r'.listeners = r.listeners) (hturns : r'.turns = r.turns) : Step relay r r'

/-- **A turn is one step.** -/
theorem step_take? {position : Nat} (htake : r.take? relay position = some r') : Step relay r r' := by
  obtain ⟨turn, hturn, rfl⟩ := Option.map_eq_some_iff.1 htake
  cases turn with
  | listener n =>
      rw [perform]
      split
      · rename_i handlers hlooking
        exact .look position n handlers hturn hlooking
      · rename_i hnot
        refine .idle position _ hturn ?_
        intro m handlers hm hlooking
        cases hm
        exact hnot handlers hlooking
  | job n =>
      have hidle : Step relay r (r.spend position) := .idle position _ hturn (by simp)
      rw [perform]
      split
      · rename_i job hjob
        split
        · rename_i hstate
          exact .start position n job hturn hjob hstate
        · rename_i activity hstate
          exact .goOn position n job activity hturn hjob hstate
        · exact hidle
      · exact hidle
  | call n i => exact .call position n i hturn
  | settled n i => exact .settled position n i hturn

/-- **Several steps.** -/
abbrev Steps (relay : Relay σ) : TaskRuntime σ → TaskRuntime σ → Prop := Relation.ReflTransGen (Step relay)

/-- What every step keeps is kept by several. -/
theorem Steps.invariant {P : TaskRuntime σ → Prop} (hstep : ∀ r r', P r → Step relay r r' → P r') (h : Steps relay r r')
    (hr : P r) : P r' := by
  induction h with
  | refl => exact hr
  | tail _ hlast ih => exact hstep _ _ ih hlast

theorem steps_foldl {f : TaskRuntime σ → Nat → TaskRuntime σ} (hf : ∀ r n, Step relay r (f r n)) (jobs : List Nat) :
    ∀ r, Steps relay r (jobs.foldl f r) := by
  induction jobs with
  | nil => exact fun _ => .refl
  | cons n jobs ih => exact fun r => (ih (f r n)).head (hf r n)

theorem steps_expire (r : TaskRuntime σ) : Steps relay r r.expire := steps_foldl (fun _ n => .endCalls n) _ r

/-! ## Moves -/

/-- Whether a move submits a task. -/
def Move.submits : Move → Bool
  | .act (.submit _) => true
  | .act (.submitOctets _ _ _) => true
  | _ => false

/-- The task that a move submits, if its input can be read. -/
def Move.submitted? : Move → Option TaskInfo
  | .act (.submit info) => some info
  | .act (.submitOctets key executionId input) => match Utf8.read false input with
    | .error _ => none
    | .ok t => some ⟨key, executionId, t⟩
  | _ => none

/-- The task that the runtime accepts by a move: none when it is closed. -/
def accepts? (r : TaskRuntime σ) (m : Move) : Option TaskInfo := if r.closed then none else m.submitted?

theorem open_of_accepts? {m : Move} {info : TaskInfo} (h : r.accepts? m = some info) :
    r.closed = false ∧ m.submits = true := by
  cases hclosed : r.closed with
  | true => simp [accepts?, hclosed] at h
  | false =>
      simp only [accepts?, hclosed, Bool.false_eq_true, if_false] at h
      refine ⟨rfl, ?_⟩
      cases m with
      | listen handlers => cases h
      | act a =>
          cases a with
          | submit info => rfl
          | submitOctets key executionId input => rfl
          | _ => cases h

/-- The tasks that are accepted in a run, in order. -/
def accepted (relay : Relay σ) : List Move → TaskRuntime σ → List TaskInfo
  | [], _ => []
  | m :: ms, r => (r.accepts? m).toList ++ accepted relay ms (r.move relay m)

/-- **What a move comes to.** -/
inductive Moved (relay : Relay σ) (r : TaskRuntime σ) (m : Move) : TaskRuntime σ → Prop
  | accepted (info : TaskInfo) (haccepts : r.accepts? m = some info) (hopen : r.closed = false) :
      Moved relay r m ((r.addTask info).enqueue (.task r.tasks.length)).callListener
  | refused (hsubmits : m.submits = true) (hrefused : r.accepts? m = none) : Moved relay r m r
  | closed (hclose : m = .act .close) (hopen : r.closed = false) :
      Moved relay r m ({ r with closed := true }.enqueue .stop).callListener
  | again (hclose : m = .act .close) (hclosed : r.closed = true) : Moved relay r m r
  | listened (handlers : Handlers) (hquiet : m.submits = false) : Moved relay r m (r.listen handlers)
  | steps (r' : TaskRuntime σ) (hquiet : m.submits = false) (hsteps : Steps relay r r') : Moved relay r m r'

theorem accepts?_of_quiet {m : Move} (hquiet : m.submits = false) : r.accepts? m = none := by
  cases haccepts : r.accepts? m with
  | none => rfl
  | some info =>
      have hsubmits := (open_of_accepts? haccepts).2
      rw [hquiet] at hsubmits
      cases hsubmits

theorem moved_act (r : TaskRuntime σ) (a : Action) : Moved relay r (.act a) (r.act relay a) := by
  cases a with
  | submit info =>
      rw [act, submit]
      split
      · rename_i hclosed
        exact .refused rfl (if_pos hclosed)
      · rename_i hopen
        exact .accepted info (if_neg hopen) (Bool.eq_false_iff.2 hopen)
  | submitOctets key executionId input =>
      rw [act, submitOctets]
      split
      · rename_i hclosed
        exact .refused rfl (if_pos hclosed)
      · rename_i hopen
        have haccepts : r.accepts? (.act (.submitOctets key executionId input))
            = Move.submitted? (.act (.submitOctets key executionId input)) := if_neg hopen
        rw [Move.submitted?] at haccepts
        cases hread : Utf8.read false input with
        | error fault =>
            rw [hread] at haccepts
            exact .refused rfl haccepts
        | ok t =>
            rw [hread] at haccepts
            simp only [submit, if_neg hopen]
            exact .accepted _ haccepts (Bool.eq_false_iff.2 hopen)
  | close =>
      rw [act, close]
      split
      · rename_i hclosed
        exact .again rfl hclosed
      · rename_i hopen
        exact .closed rfl (Bool.eq_false_iff.2 hopen)
  | listen others => exact .listened _ rfl
  | turn position =>
      rw [act]
      cases htake : r.take? relay position with
      | none => exact .steps _ rfl .refl
      | some r' => exact .steps _ rfl (.single (step_take? htake))
  | release =>
      have hreleased : Step relay r { r with released := true, held := [] } :=
        .aside _ ⟨rfl, rfl, rfl, rfl, rfl⟩ rfl rfl rfl rfl
      exact .steps _ rfl ((steps_foldl (fun _ n => .resume n) r.held _).head hreleased)
  | emit name dumped =>
      have hemit : Steps relay r (r.orSame (r.emit name dumped)) := by
        unfold emit
        split
        · exact .refl
        · cases dumped with
          | error fault => exact .refl
          | ok data => exact .single (.aside _ ⟨rfl, rfl, rfl, rfl, rfl⟩ rfl rfl rfl rfl)
      exact .steps _ rfl hemit
  | nextEvent =>
      rw [act, nextEvent?]
      cases r.events.next? with
      | none => exact .steps _ rfl .refl
      | some found => exact .steps _ rfl (.single (.aside _ ⟨rfl, rfl, rfl, rfl, rfl⟩ rfl rfl rfl rfl))
  | endCall n i => exact .steps _ rfl (.single (.endCall n i))
  | endCalls n => exact .steps _ rfl (.single (.endCalls n))
  | expire => exact .steps _ rfl (steps_expire r)

/-- **Every move** is of one of these kinds. -/
theorem moved_move (r : TaskRuntime σ) (m : Move) : Moved relay r m (r.move relay m) := by
  cases m with
  | act a => exact moved_act r a
  | listen handlers => exact .listened handlers rfl

/-- What every move keeps is kept by every run. -/
theorem moves_invariant {P : TaskRuntime σ → Prop} (hmove : ∀ r m r', P r → Moved relay r m r' → P r') (ms : List Move) :
    ∀ r : TaskRuntime σ, P r → P (r.moves relay ms) := by
  induction ms with
  | nil => exact fun _ h => h
  | cons m ms ih => exact fun r h => ih (r.move relay m) (hmove r m _ h (moved_move r m))

end WebhookBridge.TaskRuntime
