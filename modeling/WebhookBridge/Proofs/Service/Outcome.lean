import WebhookBridge.Proofs.Server.Calls
import WebhookBridge.Proofs.Service.Steps

/-!
# What a run comes to

A run is settled at one point: when its start has failed, or when it looks and finds that a side of it has ended. From then
on its outcome is fixed. Whatever ends later, how the runtime takes the closing, and who has to be cancelled make no
difference to it; only a closing that fails puts its own fault in its place.

## Contents

* `Service.OwnStart`, `Service.OwnSides`, `Service.SideFault`: where a run's start, its sides and their faults come from;
* `Service.SettledAs`: what settles a run, and as what;
* `Service.firstFault_eq_ok_iff`, `Service.mem_endings_of_firstFault`: the outcome among the endings of the sides;
* `Service.IsSettled`, `Service.isSettled_performAll`: outcomes stay;
* `Service.run_outcome`: the outcome of a run.
-/

namespace WebhookBridge.Service

variable {env : Surroundings} {s s₀ : Service} {actions : List Action} {i : Nat}

/-! ## What is a run's own -/

/-- The run began with its own call to start, at this position. -/
def OwnStart (env : Surroundings) (s₀ : Service) (actions : List Action) (i k : Nat) : Prop :=
  Occurs env s₀ actions fun s a => s.RunBegins a i (.starting k)

/-- The side of a run that listens fails of its own. -/
def ListenerFails (i : Nat) (defect : Defect) (s : Service) (a : Action) : Prop :=
  a = .endListening i (.error defect) ∨ a = .beginListening i ∧ s.conduct.listenFault = some defect

/-- **The sides are the run's own**: what it listens with and waits with has been begun for it, and if the former has failed
    it has failed of its own. -/
structure OwnSides (env : Surroundings) (s₀ : Service) (actions : List Action) (i : Nat) (sides : Sides) : Prop where
  listening : ∀ n, sides.listen = .listening n →
    Occurs env s₀ actions fun s a => a = .beginListening i ∧ s.runtime.listeners.length = n
  failed : ∀ defect, sides.listen = .failed defect → Occurs env s₀ actions (ListenerFails i defect)
  waiting : ∀ n, sides.wait = .waiting n →
    Occurs env s₀ actions fun s a => a = .beginWaiting i ∧ s.server.waits.length = n

/-- An embedded server has ended without being asked to: the server still listens. -/
def StopsUnasked (s : Service) (_ : Action) : Prop :=
  s.server.state = .listening ∧ ∃ n, s.server.endingOf? n = some (.ok ())

/-- An embedded server has failed. -/
def ServingFails (defect : Defect) (s : Service) (_ : Action) : Prop := ∃ n, s.server.endingOf? n = some (.error defect)

/-- **What a side of a run fails with**: the defect that ended its listener, or what the server says of an end that nobody
    asked for; a defect of the embedded server is passed on. -/
inductive SideFault (env : Surroundings) (s₀ : Service) (actions : List Action) (i : Nat) : ServiceFault → Prop
  | listener (defect : Defect) (h : Occurs env s₀ actions (ListenerFails i defect)) :
      SideFault env s₀ actions i (.listening defect)
  | unasked (h : Occurs env s₀ actions StopsUnasked) : SideFault env s₀ actions i (.server .stoppedUnexpectedly)
  | passedOn (defect : Defect) (h : Occurs env s₀ actions (ServingFails defect)) :
      SideFault env s₀ actions i (.server (.broken defect))

theorem ownSides_fresh (env : Surroundings) (s₀ : Service) (actions : List Action) (i : Nat) :
    OwnSides env s₀ actions i ⟨.fresh, .fresh⟩ := ⟨nofun, nofun, nofun⟩

theorem OwnSides.append {sides : Sides} (h : OwnSides env s₀ actions i sides) (a : Action) :
    OwnSides env s₀ (actions ++ [a]) i sides :=
  ⟨fun n hn => (h.listening n hn).append a, fun defect hd => (h.failed defect hd).append a,
    fun n hn => (h.waiting n hn).append a⟩

theorem SideFault.append {fault : ServiceFault} (h : SideFault env s₀ actions i fault) (a : Action) :
    SideFault env s₀ (actions ++ [a]) i fault := by
  cases h with
  | listener defect h => exact .listener defect (h.append a)
  | unasked h => exact .unasked (h.append a)
  | passedOn defect h => exact .passedOn defect (h.append a)

/-! ## Calls of the server -/

/-- Whatever happens, a start that has ended stays so. -/
theorem start_stays (env : Surroundings) {k : Nat} {result : Except ServerFault Unit}
    (h : s.server.starts[k]? = some (.ended result)) (a : Action) :
    (s.perform env a).server.starts[k]? = some (.ended result) := by
  rcases server_goes env s a with ⟨-, log, hserver⟩ | ⟨b, log, -, -, hserver⟩
  · rw [hserver]
    exact h
  · rw [hserver]
    exact WebhookServer.start_stays_ended h b

/-- The verdict on an end tells of that end. -/
theorem sideFault_verdict {ending : Except Defect Unit} {n : Nat} {fault : ServerFault} {a : Action}
    (hending : (s₀.performAll env actions).server.endingOf? n = some ending)
    (hverdict : (s₀.performAll env actions).server.verdict ending = .error fault) :
    SideFault env s₀ (actions ++ [a]) i (.server fault) := by
  cases ending with
  | error defect =>
      cases hverdict
      exact .passedOn defect (.last ⟨n, hending⟩)
  | ok u =>
      unfold WebhookServer.verdict at hverdict
      dsimp only at hverdict
      split at hverdict
      · rename_i hlistening
        cases hverdict
        exact .unasked (.last ⟨hlistening, n, hending⟩)
      · cases hverdict

/-- **A call that waited for the server's end and failed** did so for one of two reasons. -/
theorem sideFault_of_wait (hwaits : s₀.server.waits = []) (i : Nat) (actions : List Action) {k : Nat} {fault : ServerFault}
    (h : (s₀.performAll env actions).server.waits[k]? = some (.ended (.error fault))) :
    SideFault env s₀ actions i (.server fault) := by
  induction actions using List.reverseRecOn with
  | nil =>
      have hnone : s₀.server.waits[k]? = some (.ended (.error fault)) := h
      rw [hwaits] at hnone
      cases hnone
  | append_singleton actions a ih =>
      rw [performAll_append] at h
      rcases server_goes env (s₀.performAll env actions) a with ⟨-, log, hserver⟩ | ⟨b, log, -, -, hserver⟩
      · have hsame : (s₀.performAll env actions).server.waits[k]? = some (.ended (.error fault)) := by
          have hnext : ((s₀.performAll env actions).perform env a).server.waits[k]? = _ := h
          rw [hserver] at hnext
          exact hnext
        exact (ih hsame).append a
      · have hnext : ((s₀.performAll env actions).perform env a).server.waits[k]? = _ := h
        rw [hserver] at hnext
        rcases WebhookServer.wait_learns hnext with hbefore | hlearns
        · exact (ih hbefore).append a
        · generalize hresult : (Except.error fault : Except ServerFault Unit) = result at hlearns
          cases hlearns with
          | idle hserving => cases hresult
          | ended n ending hending => exact sideFault_verdict hending hresult.symm

/-! ## The endings of the sides -/

/-- The side that is looked at second might as well be looked at first, with the roles exchanged. -/
theorem firstFault_swap (listen wait : Option (Except ServiceFault Unit)) :
    firstFault false listen wait = firstFault true wait listen := rfl

theorem firstFault_true_eq_ok_iff (first second : Option (Except ServiceFault Unit)) :
    firstFault true first second = .ok () ↔ ∀ ending ∈ first.toList ++ second.toList, ending = .ok () := by
  match first, second with
  | some (.error fault), second => simp [firstFault]
  | some (.ok ()), some (.error fault) => simp [firstFault]
  | none, some (.error fault) => simp [firstFault]
  | some (.ok ()), some (.ok ()) => simp [firstFault]
  | some (.ok ()), none => simp [firstFault]
  | none, some (.ok ()) => simp [firstFault]
  | none, none => simp [firstFault]

theorem mem_of_firstFault_true {first second : Option (Except ServiceFault Unit)} {fault : ServiceFault}
    (h : firstFault true first second = .error fault) : .error fault ∈ first.toList ++ second.toList := by
  match first, second with
  | some (.error cause), second =>
      cases h
      simp
  | some (.ok ()), some (.error cause) =>
      cases h
      simp
  | none, some (.error cause) =>
      cases h
      simp
  | some (.ok ()), some (.ok ()) => cases h
  | some (.ok ()), none => cases h
  | none, some (.ok ()) => cases h
  | none, none => cases h

/-- Of the sides that have ended, a run returns exactly if all have ended well. -/
theorem firstFault_eq_ok_iff (listenFirst : Bool) (listen wait : Option (Except ServiceFault Unit)) :
    firstFault listenFirst listen wait = .ok () ↔ ∀ ending ∈ listen.toList ++ wait.toList, ending = .ok () := by
  cases listenFirst with
  | true => exact firstFault_true_eq_ok_iff listen wait
  | false =>
      rw [firstFault_swap, firstFault_true_eq_ok_iff]
      simp only [List.mem_append, or_comm]

/-- A fault that a run ends with is that of one of its sides. -/
theorem mem_endings_of_firstFault {listenFirst : Bool} {listen wait : Option (Except ServiceFault Unit)}
    {fault : ServiceFault} (h : firstFault listenFirst listen wait = .error fault) :
    .error fault ∈ listen.toList ++ wait.toList := by
  cases listenFirst with
  | true => exact mem_of_firstFault_true h
  | false =>
      rw [firstFault_swap] at h
      exact List.mem_append.2 (List.mem_append.1 (mem_of_firstFault_true h)).symm

theorem listener_of_fault {side : ListenSide} {fault : ServiceFault} (h : s.listenEnding? side = some (.error fault)) :
    ∃ defect, side = .failed defect ∧ fault = .listening defect := by
  unfold listenEnding? at h
  split at h
  · cases h
  · cases h
  · rename_i defect
    cases h
    exact ⟨defect, rfl, rfl⟩
  · cases h
  · split at h
    · split at h
      · cases h
      · cases h
    · cases h

theorem wait_of_fault {side : WaitSide} {fault : ServiceFault} (h : s.waitEnding? side = some (.error fault)) :
    ∃ (k : Nat) (cause : ServerFault), s.server.waits[k]? = some (.ended (.error cause)) ∧ fault = .server cause := by
  cases side with
  | fresh => cases h
  | cancelled => cases h
  | waiting k =>
      unfold waitEnding? at h
      dsimp only at h
      split at h
      · rename_i result hended
        cases result with
        | ok u => cases h
        | error cause =>
            cases h
            exact ⟨k, cause, hended, rfl⟩
      · cases h

/-- **A fault among the endings of a run's sides** is what one of them fails with. -/
theorem sideFault_of_mem (hwaits : s₀.server.waits = []) {sides : Sides} (hown : OwnSides env s₀ actions i sides)
    {fault : ServiceFault} (h : .error fault ∈ (s₀.performAll env actions).endings sides) :
    SideFault env s₀ actions i fault := by
  rcases List.mem_append.1 h with hlisten | hwait
  · obtain ⟨defect, hside, rfl⟩ := listener_of_fault (Option.mem_toList.1 hlisten)
    exact .listener defect (hown.failed defect hside)
  · obtain ⟨k, cause, hended, rfl⟩ := wait_of_fault (Option.mem_toList.1 hwait)
    exact sideFault_of_wait hwaits i actions hended

/-! ## Settling -/

/-- **What settles a run, and as what**: its own start has failed, and it ends with that fault; or its start has not failed
    and a side of it has ended, and it ends well if all sides have that have ended, and otherwise with what one of them
    fails with. -/
inductive SettledAs (env : Surroundings) (s₀ : Service) (actions : List Action) (i : Nat)
    (outcome : Except ServiceFault Unit) : Prop
  | startFailed (k : Nat) (fault : ServerFault) (hrun : (s₀.performAll env actions).runs[i]? = some (.starting k))
      (hown : OwnStart env s₀ actions i k)
      (hstart : (s₀.performAll env actions).server.starts[k]? = some (.ended (.error fault)))
      (houtcome : outcome = .error (.server fault))
  | sidesOver (k : Nat) (sides : Sides) (hrun : (s₀.performAll env actions).runs[i]? = some (.serving sides))
      (hown : OwnStart env s₀ actions i k)
      (hstart : (s₀.performAll env actions).server.starts[k]? = some (.ended (.ok ())))
      (hsides : OwnSides env s₀ actions i sides) (hover : (s₀.performAll env actions).endings sides ≠ [])
      (hok : outcome = .ok () ↔ ∀ ending ∈ (s₀.performAll env actions).endings sides, ending = .ok ())
      (hfault : ∀ fault, outcome = .error fault →
        .error fault ∈ (s₀.performAll env actions).endings sides ∧ SideFault env s₀ actions i fault)

/-- What is a run's own before it is settled. -/
def Owns (env : Surroundings) (s₀ : Service) (actions : List Action) (i : Nat) : RunCall → Prop
  | .starting k => OwnStart env s₀ actions i k
  | .serving sides => OwnSides env s₀ actions i sides ∧ ∃ k, OwnStart env s₀ actions i k ∧
      (s₀.performAll env actions).server.starts[k]? = some (.ended (.ok ()))
  | _ => True

theorem Owns.append {call : RunCall} (h : Owns env s₀ actions i call) (a : Action) :
    Owns env s₀ (actions ++ [a]) i call := by
  cases call with
  | starting k => exact Occurs.append h a
  | serving sides =>
      obtain ⟨hsides, k, hown, hstart⟩ := h
      refine ⟨hsides.append a, k, hown.append a, ?_⟩
      rw [performAll_append]
      exact start_stays env hstart a
  | closing outcome sides => trivial
  | lingering outcome sides => trivial
  | ended outcome sides => trivial

/-- Sides that have just begun are the run's own if those are that it had. -/
theorem Owns.withSides {call : RunCall} (h : Owns env s₀ actions i call) {sides other : Sides}
    (hsides : sidesOf? call = some sides)
    (hown : OwnSides env s₀ actions i sides → OwnSides env s₀ actions i other) :
    Owns env s₀ actions i (withSides other call) := by
  cases call with
  | starting k => cases hsides
  | serving both =>
      cases hsides
      exact ⟨hown h.1, h.2⟩
  | closing outcome both => trivial
  | lingering outcome both => trivial
  | ended outcome both => trivial

theorem owns_afterClosing (outcome : Except ServiceFault Unit) (sides : Option Sides) (result : Except ServiceFault Unit) :
    Owns env s₀ actions i (afterClosing outcome sides result) := by
  cases result with
  | error fault => trivial
  | ok u =>
      cases sides with
      | none => trivial
      | some both => trivial

/-- **One action** leaves a run what is its own. -/
theorem RunGoes.owns {a : Action} {call next : RunCall} (h : RunGoes (s₀.performAll env actions) i a call next)
    (hcall : Owns env s₀ actions i call) : Owns env s₀ (actions ++ [a]) i next := by
  have hlater := hcall.append a
  cases h with
  | stays => exact hlater
  | serves k listenFirst hstart =>
      refine ⟨ownSides_fresh env s₀ _ i, k, hlater, ?_⟩
      rw [performAll_append]
      exact start_stays env hstart (.resumeRun i listenFirst)
  | settles _ listenFirst outcome sides hsettles =>
      unfold settled
      split
      · exact owns_afterClosing outcome sides _
      · trivial
  | released listenFirst outcome sides result hclosing => exact owns_afterClosing outcome sides result
  | rests listenFirst outcome sides hsides => trivial
  | graceOver outcome sides sides' => trivial
  | listens _ wait hsides =>
      refine hlater.withSides hsides fun hown => ⟨fun n hn => ?_, nofun, hown.waiting⟩
      cases hn
      exact .last ⟨rfl, rfl⟩
  | refuses _ wait defect hsides hfault =>
      refine hlater.withSides hsides fun hown => ⟨nofun, fun defect hd => ?_, hown.waiting⟩
      cases hd
      exact .last (Or.inr ⟨rfl, hfault⟩)
  | waits _ listen hsides =>
      refine hlater.withSides hsides fun hown => ⟨hown.listening, hown.failed, fun n hn => ?_⟩
      cases hn
      exact .last ⟨rfl, rfl⟩
  | stopsListening _ n wait ending hsides =>
      refine hlater.withSides hsides fun hown => ⟨fun n hn => ?_, fun defect hd => ?_, hown.waiting⟩
      · cases ending with
        | ok u => cases hn
        | error defect => cases hn
      · cases ending with
        | ok u => cases hd
        | error defect =>
            cases hd
            exact .last (Or.inl rfl)

/-- **Any actions**: whatever a run has before it is settled is its own. -/
theorem owns_performAll (hruns : s₀.runs = []) (actions : List Action) {i : Nat} {call : RunCall}
    (h : (s₀.performAll env actions).runs[i]? = some call) : Owns env s₀ actions i call := by
  induction actions using List.reverseRecOn generalizing i call with
  | nil =>
      have hnone : s₀.runs[i]? = some call := h
      rw [hruns] at hnone
      cases hnone
  | append_singleton actions a ih =>
      rw [performAll_append] at h
      rcases run_goes a h with ⟨before, hbefore, hgoes⟩ | ⟨rfl, hlength, rfl⟩
      · exact hgoes.owns (ih hbefore)
      · exact Occurs.last ⟨rfl, hlength, rfl⟩

/-- **A run that is settled** has been settled in one of the two ways. -/
theorem settledAs_of_settles (hwaits : s₀.server.waits = []) {call : RunCall}
    (hrun : (s₀.performAll env actions).runs[i]? = some call) (hown : Owns env s₀ actions i call) {listenFirst : Bool}
    {outcome : Except ServiceFault Unit} {sides : Option Sides}
    (h : (s₀.performAll env actions).Settles listenFirst call outcome sides) : SettledAs env s₀ actions i outcome := by
  cases h with
  | startFailed k fault hstart => exact .startFailed k fault hrun hown hstart rfl
  | sidesOver sides hover =>
      obtain ⟨hsides, k, hstarted, hstart⟩ := hown
      refine .sidesOver k sides hrun hstarted hstart hsides hover (firstFault_eq_ok_iff listenFirst _ _) fun fault hfault => ?_
      have hmem := mem_endings_of_firstFault hfault
      exact ⟨hmem, sideFault_of_mem hwaits hsides hmem⟩

/-! ## Outcomes stay -/

/-- The outcome of a run that is settled. -/
def outcomeOf? : RunCall → Option (Except ServiceFault Unit)
  | .starting _ => none
  | .serving _ => none
  | .closing outcome _ => some outcome
  | .lingering outcome _ => some outcome
  | .ended outcome _ => some outcome

/-- At some point a run went on and was settled. -/
def IsSettled (env : Surroundings) (s₀ : Service) (actions : List Action) (i : Nat) (outcome : Except ServiceFault Unit) :
    Prop :=
  ∃ before listenFirst after, actions = before ++ .resumeRun i listenFirst :: after ∧ SettledAs env s₀ before i outcome

/-- The closing has failed. -/
def ClosingFailed (s : Service) : Prop := ∃ fault, s.closing = some (.ended (.error fault))

theorem IsSettled.append {outcome : Except ServiceFault Unit} (h : IsSettled env s₀ actions i outcome) (a : Action) :
    IsSettled env s₀ (actions ++ [a]) i outcome := by
  obtain ⟨before, listenFirst, after, rfl, hsettled⟩ := h
  exact ⟨before, listenFirst, after ++ [a], by simp, hsettled⟩

theorem outcomeOf?_withSides (call : RunCall) (sides : Sides) : outcomeOf? (withSides sides call) = outcomeOf? call := by
  cases call with
  | starting k => rfl
  | serving both => rfl
  | closing outcome both => rfl
  | lingering outcome both => rfl
  | ended outcome both => rfl

/-- A closing that has ended well leaves a run its outcome. -/
theorem outcomeOf?_afterClosing {outcome result : Except ServiceFault Unit} {sides : Option Sides}
    {final : Except ServiceFault Unit} (h : outcomeOf? (afterClosing outcome sides result) = some final)
    (hclosing : s.closing = some (.ended result)) : final = outcome ∨ s.ClosingFailed := by
  cases result with
  | error fault => exact Or.inr ⟨fault, hclosing⟩
  | ok u =>
      cases sides with
      | none => exact Or.inl (Option.some.inj h).symm
      | some both => exact Or.inl (Option.some.inj h).symm

/-- **One action** leaves the outcome of a run, unless it settles it now or the closing has failed. -/
theorem RunGoes.outcome {a : Action} {call next : RunCall} (h : RunGoes s i a call next)
    {final : Except ServiceFault Unit} (hfinal : outcomeOf? next = some final) :
    outcomeOf? call = some final ∨ s.ClosingFailed ∨
      ∃ listenFirst sides, a = .resumeRun i listenFirst ∧ s.Settles listenFirst call final sides := by
  cases h with
  | stays => exact Or.inl hfinal
  | serves k listenFirst hstart => cases hfinal
  | settles _ listenFirst outcome sides hsettles =>
      unfold settled at hfinal
      split at hfinal
      · rename_i result hresult
        rcases outcomeOf?_afterClosing hfinal (closing_of_result hresult) with rfl | hfailed
        · exact Or.inr (Or.inr ⟨listenFirst, sides, rfl, hsettles⟩)
        · exact Or.inr (Or.inl hfailed)
      · cases hfinal
        exact Or.inr (Or.inr ⟨listenFirst, sides, rfl, hsettles⟩)
  | released listenFirst outcome sides result hclosing =>
      rcases outcomeOf?_afterClosing hfinal hclosing with rfl | hfailed
      · exact Or.inl rfl
      · exact Or.inr (Or.inl hfailed)
  | rests listenFirst outcome sides hsides => exact Or.inl hfinal
  | graceOver outcome sides sides' => exact Or.inl hfinal
  | listens _ wait hsides => exact Or.inl (outcomeOf?_withSides call _ ▸ hfinal)
  | refuses _ wait defect hsides hfault => exact Or.inl (outcomeOf?_withSides call _ ▸ hfinal)
  | waits _ listen hsides => exact Or.inl (outcomeOf?_withSides call _ ▸ hfinal)
  | stopsListening _ n wait ending hsides => exact Or.inl (outcomeOf?_withSides call _ ▸ hfinal)

theorem ClosingFailed.perform (h : s.ClosingFailed) (a : Action) : (s.perform env a).ClosingFailed := by
  obtain ⟨fault, hfailed⟩ := h
  exact ⟨fault, (forward_perform env s a).ended hfailed⟩

/-- **Any actions**: a run that has an outcome was settled with it, unless the closing has failed. -/
theorem isSettled_performAll (hruns : s₀.runs = []) (hwaits : s₀.server.waits = []) (actions : List Action) {i : Nat}
    {call : RunCall} (h : (s₀.performAll env actions).runs[i]? = some call) {outcome : Except ServiceFault Unit}
    (houtcome : outcomeOf? call = some outcome) :
    IsSettled env s₀ actions i outcome ∨ (s₀.performAll env actions).ClosingFailed := by
  induction actions using List.reverseRecOn generalizing i call with
  | nil =>
      have hnone : s₀.runs[i]? = some call := h
      rw [hruns] at hnone
      cases hnone
  | append_singleton actions a ih =>
      rw [performAll_append] at h ⊢
      rcases run_goes a h with ⟨before, hbefore, hgoes⟩ | ⟨rfl, -, rfl⟩
      · rcases hgoes.outcome houtcome with hsame | hfailed | ⟨listenFirst, sides, rfl, hsettles⟩
        · rcases ih hbefore hsame with hsettled | hfailed
          · exact Or.inl (hsettled.append a)
          · exact Or.inr (hfailed.perform a)
        · exact Or.inr (hfailed.perform a)
        · have hown := owns_performAll hruns actions hbefore
          exact Or.inl ⟨actions, listenFirst, [], rfl, settledAs_of_settles hwaits hbefore hown hsettles⟩
      · cases houtcome

/-- **The outcome of a run.** When a run has ended, and the closing has not failed, then at some point it went on and was
    settled as what it has come to: by the fault of its own start, or by the sides that had ended at that point. -/
theorem run_outcome {settings : Settings} {conduct : RuntimeConduct} {capacity : Nat} {given : Option HttpSession}
    {s₀ : Service} (hcreate : create settings conduct capacity given = .ok s₀) (env : Surroundings) (actions : List Action) {i : Nat}
    {outcome : Except ServiceFault Unit} {sides : Option Sides}
    (hended : (s₀.performAll env actions).runs[i]? = some (.ended outcome sides))
    (hclosing : ¬ (s₀.performAll env actions).ClosingFailed) : IsSettled env s₀ actions i outcome := by
  have hfresh := fresh_create hcreate
  have hwaits : s₀.server.waits = [] := by
    rw [hfresh.server]
    rfl
  exact (isSettled_performAll hfresh.runs hwaits actions hended rfl).resolve_right hclosing

/-- The embedded server of a run stops by itself; the listener fails while the run closes everything. -/
def stoppedRun : List Action :=
  startUp ++ [.server (.endServing 0 (.ok ())), .server (.resumeWait 0), .resumeRun 0 true, .beginClosing,
    .endListening 0 (.error .tooDeep), .resumeClosing, .resumeRun 0 true, .resumeRun 0 true]

theorem run_outcome_stopped :
    create .default .sound 1 none = .ok usual ∧
      (usual.performAll silentPeer stoppedRun).runs
        = [.ended (.error (.server .stoppedUnexpectedly)) (some ⟨.failed .tooDeep, .waiting 0⟩)] ∧
      ¬ (usual.performAll silentPeer stoppedRun).ClosingFailed ∧
      IsSettled silentPeer usual stoppedRun 0 (.error (.server .stoppedUnexpectedly)) := by
  have hended : (usual.performAll silentPeer stoppedRun).runs
      = [.ended (.error (.server .stoppedUnexpectedly)) (some ⟨.failed .tooDeep, .waiting 0⟩)] := rfl
  have hclosing : ¬ (usual.performAll silentPeer stoppedRun).ClosingFailed := by
    rintro ⟨fault, hfailed⟩
    have hended : (usual.performAll silentPeer stoppedRun).closing = some (.ended (.ok ())) := rfl
    rw [hended] at hfailed
    cases hfailed
  refine ⟨create_usual, hended, hclosing, ?_⟩
  exact run_outcome create_usual silentPeer stoppedRun (congrArg (·[0]?) hended) hclosing

end WebhookBridge.Service
