import WebhookBridge.Proofs.Server.Calls
import WebhookBridge.Proofs.Server.Coherence

/-!
# What those who wait are told

Whoever waits for the embedded server is told of its end when they go on, by what the server is doing at that moment. This
tells an end that was asked for from one that was not, whatever happens in between: the server is out of the listening
state from the moment that it is asked to stop, and comes back to it only with another embedded server. It takes that
nobody is still to be told of an end when it comes back.

## Contents

* `WebhookServer.Asked`: the embedded servers that were asked to end;
* `WebhookServer.Prompt`: whoever waits is told before the server listens again;
* `WebhookServer.Vetted`, `Vetted.perform`, `vetted_run`: what the state says of who was asked;
* `WebhookServer.WaitsGo`, `waits_go`: what one action does to the calls that wait;
* `WebhookServer.Told`, `WebhookServer.Fate`, `waiters_told`: what becomes of a call that waits.
-/

namespace WebhookBridge.WebhookServer

variable {s : WebhookServer}

theorem run_append (s : WebhookServer) (actions others : List Action) :
    s.run (actions ++ others) = (s.run actions).run others := List.foldl_append

/-! ## Who was asked to end -/

/-- In the course of some actions an embedded server was asked to end: a call to stop was made while the server held it. -/
def Asked (s : WebhookServer) (actions : List Action) (n : Nat) : Prop :=
  ∃ before grace after, actions = before ++ .shutdown grace :: after ∧ (s.run before).serving = some n

/-- Whether an action asks an embedded server to end. -/
def Asks (s : WebhookServer) : Action → Nat → Prop
  | .shutdown _, n => s.serving = some n
  | _, _ => False

theorem not_asked_nil (n : Nat) : ¬ s.Asked [] n := by
  rintro ⟨before, grace, after, h, -⟩
  cases before with
  | nil => cases h
  | cons a before => cases h

theorem asked_concat_iff (actions : List Action) (a : Action) (n : Nat) :
    s.Asked (actions ++ [a]) n ↔ s.Asked actions n ∨ (s.run actions).Asks a n := by
  constructor
  · rintro ⟨before, grace, after, h, hserving⟩
    -- the call to stop is the last action, or stands before it
    rcases List.eq_nil_or_concat after with rfl | ⟨after, b, rfl⟩
    · obtain ⟨rfl, hlast⟩ := List.append_inj' h rfl
      cases hlast
      exact Or.inr hserving
    · refine Or.inl ⟨before, grace, after, ?_, hserving⟩
      rw [List.concat_eq_append, ← List.cons_append, ← List.append_assoc] at h
      exact (List.append_inj' h rfl).1
  · rintro (⟨before, grace, after, rfl, hserving⟩ | hasks)
    · exact ⟨before, grace, after ++ [a], by simp, hserving⟩
    · cases a with
      | shutdown grace => exact ⟨actions, grace, [], rfl, hasks⟩
      | _ => exact absurd hasks id

/-! ## Telling in time -/

/-- **Whoever waits is told in time**: when the server comes to listen, nobody waits any more for an embedded server that
    has ended. -/
def Prompt (s : WebhookServer) : List Action → Prop
  | [] => True
  | a :: actions =>
    (s.state ≠ .listening → (s.perform a).state = .listening → ∀ n, .waiting n ∈ s.waits → s.endingOf? n = none) ∧
      (s.perform a).Prompt actions

theorem prompt_append {s : WebhookServer} {actions others : List Action} :
    s.Prompt (actions ++ others) ↔ s.Prompt actions ∧ (s.run actions).Prompt others := by
  induction actions generalizing s with
  | nil => simp [Prompt, run]
  | cons a actions ih =>
      rw [List.cons_append, Prompt, Prompt, ih, and_assoc]
      rfl

/-! ## Embedded servers that have ended -/

/-- What an embedded server has ended with does not change. -/
theorem ending_modify {servings : List Serving} (n : Nat) {f : Serving → Serving}
    (hf : ∀ serving, serving.ending.isSome → (f serving).ending = serving.ending) {m : Nat}
    (h : servings[m]?.bind (·.ending) ≠ none) : (servings.modify n f)[m]?.bind (·.ending) ≠ none := by
  obtain ⟨ending, hending⟩ := Option.ne_none_iff_exists'.1 h
  obtain ⟨serving, hserving, hover⟩ := Option.bind_eq_some_iff.1 hending
  rw [List.getElem?_modify, hserving, Option.map_eq_map, Option.map_some, Option.bind_some]
  split
  · rw [hf serving (by rw [hover]; rfl), hover]
    simp
  · simp [hover]

/-- A server that holds an embedded server listens, or waits for it to stop. -/
theorem Coherent.state_of_held (h : s.Coherent) {n : Nat} (hheld : s.serving = some n) :
    s.state = .listening ∨ s.state = .stopping := by
  have hnot : ¬ (s.state = .stopped ∨ s.state = .starting) := by
    intro hstate
    rw [(h.clear hstate).2.1] at hheld
    cases hheld
  cases hstate : s.state with
  | stopped => exact absurd (Or.inl hstate) hnot
  | starting => exact absurd (Or.inr hstate) hnot
  | listening => exact Or.inl rfl
  | stopping => exact Or.inr rfl

/-! ## What the state says of who was asked -/

/-- **What the state says of who was asked**: the embedded server that is listened on was not, the one that is waited for to
    stop was. Whoever waits does so for the one that is held, or is still to be told of one that was asked to. -/
structure Vetted (asked : Nat → Prop) (s : WebhookServer) : Prop where
  listening : s.state = .listening → ∀ n, s.serving = some n → ¬ asked n
  stopping : s.state = .stopping → ∀ n, s.serving = some n → asked n
  waits : ∀ n, .waiting n ∈ s.waits → s.serving = some n ∨ s.state ≠ .listening ∧ asked n ∧ s.endingOf? n ≠ none
  polls : ∀ n, .polling n ∈ s.starts → ¬ asked n
  known : ∀ n, asked n → n < s.servings.length

variable {asked : Nat → Prop}

theorem vetted_new (listenAddress logLevel : Text) : (new listenAddress logLevel).Vetted fun _ => False where
  listening h := by cases h
  stopping h := by cases h
  waits _ h := by cases h
  polls _ h := by cases h
  known _ h := absurd h id

/-- What is vetted does not depend on anything else. -/
theorem Vetted.of_same (h : s.Vetted asked) {t : WebhookServer} (hstate : t.state = s.state)
    (hserving : t.serving = s.serving) (hwaits : t.waits = s.waits) (hstarts : t.starts = s.starts)
    (hservings : s.servings.length ≤ t.servings.length) (hended : ∀ n, s.endingOf? n ≠ none → t.endingOf? n ≠ none) :
    t.Vetted asked where
  listening := by rw [hstate, hserving]; exact h.listening
  stopping := by rw [hstate, hserving]; exact h.stopping
  waits n hwaiting := by
    rw [hwaits] at hwaiting
    rw [hstate, hserving]
    rcases h.waits n hwaiting with hheld | ⟨hout, hasked, hover⟩
    · exact Or.inl hheld
    · exact Or.inr ⟨hout, hasked, hended n hover⟩
  polls := by rw [hstarts]; exact h.polls
  known n hasked := Nat.lt_of_lt_of_le (h.known n hasked) hservings

theorem Vetted.withWaits (h : s.Vetted asked) {waits : List WaitCall}
    (hwaits : ∀ n, .waiting n ∈ waits → .waiting n ∈ s.waits ∨ s.serving = some n) :
    { s with waits := waits }.Vetted asked where
  listening := h.listening
  stopping := h.stopping
  waits n hwaiting := by
    rcases hwaits n hwaiting with hold | hheld
    · exact h.waits n hold
    · exact Or.inl hheld
  polls := h.polls
  known := h.known

/-- A call to start that has ended does not matter. -/
theorem Vetted.addStart (h : s.Vetted asked) (result : Except ServerFault Unit) :
    (s.addStart (.ended result)).Vetted asked where
  listening := h.listening
  stopping := h.stopping
  waits := h.waits
  polls n hpolling := by
    rcases List.mem_append.1 hpolling with hold | hnew
    · exact h.polls n hold
    · cases List.mem_singleton.1 hnew
  known := h.known

/-- An embedded server that has come up was not asked to end. -/
theorem Vetted.beginPolling (h : s.Vetted asked) (hc : s.Coherent) (hstopped : s.state = .stopped) (b : Address) :
    ((((s.addSocket (some b) true).addServing s.sockets.length).withState .starting).addStart
      (.polling s.servings.length)).Vetted asked where
  listening hstate := by cases hstate
  stopping hstate := by cases hstate
  waits n hwaiting := by
    rcases h.waits n hwaiting with hheld | ⟨-, hasked, hover⟩
    · rw [(hc.clear (Or.inl hstopped)).2.1] at hheld
      cases hheld
    · refine Or.inr ⟨nofun, hasked, ?_⟩
      show (s.servings ++ [_])[n]?.bind _ ≠ none
      rw [List.getElem?_append_left (h.known n hasked)]
      exact hover
  polls n hpolling hasked := by
    rcases List.mem_append.1 hpolling with hold | hnew
    · exact h.polls n hold hasked
    · cases List.mem_singleton.1 hnew
      exact Nat.lt_irrefl _ (h.known _ hasked)
  known n hasked := by
    have hlength : (s.servings ++ [(⟨s.sockets.length, false, none, none⟩ : Serving)]).length = s.servings.length + 1 := by simp
    exact Nat.lt_of_lt_of_le (h.known n hasked) (hlength ▸ Nat.le_succ _)

theorem Vetted.start (h : s.Vetted asked) (hc : s.Coherent) (bind : Binder) : (s.start bind).Vetted asked := by
  have hopened : ∀ bound isOpen, (s.addSocket bound isOpen).Vetted asked := fun _ _ =>
    h.of_same rfl rfl rfl rfl (Nat.le_refl _) fun _ hover => hover
  unfold WebhookServer.start
  split
  · exact h.addStart _
  · rename_i hstopped
    rw [Classical.not_not] at hstopped
    unfold openServing
    cases Address.parse s.listenAddress with
    | error error => exact h.addStart _
    | ok a =>
        dsimp only
        cases bind a with
        | refused reason => exact (hopened _ _).addStart _
        | failed defect => exact (hopened _ _).addStart _
        | bound b =>
            dsimp only
            cases embeddedLogLevels.contains s.logLevel with
            | false => exact (hopened _ _).addStart _
            | true => exact h.beginPolling hc hstopped b

/-- The calls to start are the others once one of them has ended. -/
theorem Vetted.polls_set (h : s.Vetted asked) (i : Nat) (result : Except ServerFault Unit) {n : Nat}
    (hpolling : .polling n ∈ s.starts.set i (.ended result)) : ¬ asked n := by
  rcases List.mem_or_eq_of_mem_set hpolling with hold | he
  · exact h.polls n hold
  · cases he

/-- A start that fails leads back to the stopped state. -/
theorem Vetted.failStart (h : s.Vetted asked) (i socket : Nat) (fault : ServerFault) :
    (s.failStart i socket fault).Vetted asked where
  listening hstate := by cases hstate
  stopping hstate := by cases hstate
  waits n hwaiting := by
    rcases h.waits n hwaiting with hheld | ⟨-, hasked, hover⟩
    · exact Or.inl hheld
    · exact Or.inr ⟨nofun, hasked, hover⟩
  polls _ hpolling := h.polls_set i _ hpolling
  known := h.known

/-- A server comes to listen with an embedded server that was not asked to end, and nobody waits for another one. -/
theorem Vetted.completeStart (h : s.Vetted asked) (hc : s.Coherent) {i n : Nat}
    (hcall : s.starts[i]? = some (.polling n)) (hprompt : ∀ m, .waiting m ∈ s.waits → s.endingOf? m = none)
    (socket : Nat) : (s.completeStart i n socket).Vetted asked where
  listening _ m hheld := by
    cases hheld
    exact h.polls n (List.mem_of_getElem? hcall)
  stopping hstate := by cases hstate
  waits m hwaiting := by
    rcases h.waits m hwaiting with hheld | ⟨-, -, hover⟩
    · rw [(hc.clear (Or.inr (hc.state_of_polling hcall))).2.1] at hheld
      cases hheld
    · exact absurd (hprompt m hwaiting) hover
  polls _ hpolling := h.polls_set i _ hpolling
  known := h.known

theorem Vetted.resumeStart (h : s.Vetted asked) (hc : s.Coherent) (i : Nat)
    (hprompt : s.state ≠ .listening → (s.resumeStart i).state = .listening →
      ∀ n, .waiting n ∈ s.waits → s.endingOf? n = none) : (s.resumeStart i).Vetted asked := by
  unfold WebhookServer.resumeStart at hprompt ⊢
  split
  · rename_i n hcall
    simp only [hcall] at hprompt
    have hstarting := hc.state_of_polling hcall
    split
    · exact h
    · rename_i serving hserving
      simp only [hserving] at hprompt
      split
      · rename_i hstarted
        rw [if_pos hstarted] at hprompt
        exact h.completeStart hc hcall (hprompt (by simp [hstarting]) rfl) _
      · split
        · exact h
        · exact h.failStart i _ _
        · exact h.failStart i _ _
  · exact h

/-- A server that lets go of an embedded server that was asked to end, and has. -/
theorem Vetted.letGo (h : s.Vetted asked) (hstopping : s.state = .stopping) {n : Nat} (hserving : s.serving = some n)
    (hover : s.endingOf? n ≠ none) (socket : Option Nat) : (s.finishShutdown socket).Vetted asked := by
  have hdropped : s.drop.Vetted asked := {
    listening := fun hstate => by cases hstate
    stopping := fun hstate => by cases hstate
    waits := fun m hwaiting => by
      refine Or.inr ⟨nofun, ?_⟩
      rcases h.waits m hwaiting with hheld | ⟨-, hasked, hended⟩
      · rw [hserving] at hheld
        cases hheld
        exact ⟨h.stopping hstopping n hserving, hover⟩
      · exact ⟨hasked, hended⟩
    polls := h.polls
    known := h.known }
  cases socket with
  | none => exact hdropped.of_same rfl rfl rfl rfl (Nat.le_refl _) fun _ hended => hended
  | some k => exact hdropped.of_same rfl rfl rfl rfl (Nat.le_refl _) fun _ hended => hended

theorem Vetted.resumeShutdown (h : s.Vetted asked) (hc : s.Coherent) (i : Nat) : (s.resumeShutdown i).Vetted asked := by
  unfold WebhookServer.resumeShutdown
  split
  · rename_i n socket hcall
    have hmem := List.mem_of_getElem? hcall
    split
    · exact h
    · rename_i ending hending
      have hgone := h.letGo (hc.state_of_waiting hmem) (hc.waits n socket hmem).1 (by simp [hending]) socket
      exact hgone.of_same rfl rfl rfl rfl (Nat.le_refl _) fun _ hended => hended
  · exact h

/-- A server that listens is asked to stop: so is the embedded server that it holds. -/
theorem Vetted.enterShutdown (h : s.Vetted asked) (hc : s.Coherent) (hlistening : s.state = .listening)
    (grace : Binary64) : (s.enterShutdown grace).Vetted fun n => asked n ∨ s.serving = some n := by
  obtain ⟨n, held, hfound, hserver, hserving, -, -⟩ := hc.holds (Or.inl hlistening)
  have hnew : ∀ m, s.serving = some m → m = n := fun m hm => Option.some.inj (hm.symm.trans hserving)
  have hstopping : (s.withState .stopping).Vetted fun n => asked n ∨ s.serving = some n := {
    listening := fun hstate => by cases hstate
    stopping := fun _ m hheld => Or.inr hheld
    waits := fun m hwaiting => by
      rcases h.waits m hwaiting with hheld | ⟨hout, -, -⟩
      · exact Or.inl hheld
      · exact absurd hlistening hout
    -- nobody polls while the server listens
    polls := fun m hpolling => by
      have hnone := List.countP_eq_zero.1 (hc.starts_eq (by simp [hlistening])) _ hpolling
      exact absurd rfl hnone
    known := fun m hasked => by
      rcases hasked with hasked | hheld
      · exact h.known m hasked
      · rw [hnew m hheld]
        exact (List.getElem?_eq_some_iff.1 hfound).1 }
  have henter : s.enterShutdown grace = ((s.withState .stopping).requestEnd n grace).addShutdown (.waiting n s.socket) := by
    rw [WebhookServer.enterShutdown, hserver, hserving]
  rw [henter]
  exact hstopping.of_same rfl rfl rfl rfl (by simp [requestEnd, addShutdown])
    fun m hended =>
      ending_modify n (f := fun serving => { serving with grace := some grace.atLeastZero }) (fun _ _ => rfl) hended

theorem Vetted.shutdown (h : s.Vetted asked) (hc : s.Coherent) (grace : Binary64) :
    (s.shutdown grace).Vetted fun n => asked n ∨ s.serving = some n := by
  by_cases hlistening : s.state = .listening
  · rw [shutdown_eq hlistening]
    exact (h.enterShutdown hc hlistening grace).resumeShutdown (hc.enterShutdown hlistening grace) _
  · -- whoever is held here was asked before
    have hsame : (fun n => asked n ∨ s.serving = some n) = asked := by
      funext n
      refine propext ⟨fun hasked => hasked.elim id fun hheld => ?_, Or.inl⟩
      exact h.stopping ((hc.state_of_held hheld).resolve_left hlistening) n hheld
    rw [WebhookServer.shutdown, if_pos hlistening, hsame]
    exact h.of_same rfl rfl rfl rfl (Nat.le_refl _) fun _ hended => hended

/-- **Whatever happens**, what the state says of who was asked stays true. -/
theorem Vetted.perform (h : s.Vetted asked) (hc : s.Coherent) {a : Action}
    (hprompt : s.state ≠ .listening → (s.perform a).state = .listening → ∀ n, .waiting n ∈ s.waits → s.endingOf? n = none) :
    (s.perform a).Vetted fun n => asked n ∨ s.Asks a n := by
  -- all actions but one ask nobody
  have hnone : (∀ n, ¬ s.Asks a n) → (s.perform a).Vetted asked → (s.perform a).Vetted fun n => asked n ∨ s.Asks a n := by
    intro hasks hvetted
    have hsame : (fun n => asked n ∨ s.Asks a n) = asked := by
      funext n
      exact propext ⟨fun hasked => hasked.resolve_right (hasks n), Or.inl⟩
    rw [hsame]
    exact hvetted
  cases a with
  | shutdown grace => exact h.shutdown hc grace
  | start bind => exact hnone (fun _ => id) (h.start hc bind)
  | resumeStart i => exact hnone (fun _ => id) (h.resumeStart hc i hprompt)
  | resumeShutdown i => exact hnone (fun _ => id) (h.resumeShutdown hc i)
  | wait =>
      refine hnone (fun _ => id) ?_
      have hlast : ∀ {call : WaitCall} {n : Nat}, .waiting n ∈ s.waits ++ [call] →
          .waiting n ∈ s.waits ∨ call = .waiting n := by
        intro call n hmem
        rcases List.mem_append.1 hmem with hold | hnew
        · exact Or.inl hold
        · exact Or.inr (List.mem_singleton.1 hnew).symm
      show s.wait.Vetted asked
      unfold WebhookServer.wait
      split
      · exact h.withWaits fun n hmem => (hlast hmem).imp_right fun he => by cases he
      · rename_i m hheld
        split
        · exact h.withWaits fun n hmem => (hlast hmem).imp_right fun he => by cases he
        · exact h.withWaits fun n hmem => (hlast hmem).imp_right fun he => by cases he; exact hheld
  | resumeWait i =>
      refine hnone (fun _ => id) ?_
      show (s.resumeWait i).Vetted asked
      unfold WebhookServer.resumeWait
      split
      · split
        · exact h
        · refine h.withWaits fun n hmem => ?_
          rcases List.mem_or_eq_of_mem_set hmem with hold | he
          · exact Or.inl hold
          · cases he
      · exact h
  | beginServing n =>
      refine hnone (fun _ => id) (h.of_same rfl rfl rfl rfl (by simp [WebhookServer.perform, WebhookServer.beginServing]) ?_)
      refine fun m hended => ending_modify n (fun serving hover => ?_) hended
      rw [if_pos (show serving.isOver = true from hover)]
  | endServing n ending =>
      refine hnone (fun _ => id) (h.of_same rfl rfl rfl rfl (by simp [WebhookServer.perform, WebhookServer.endServing]) ?_)
      refine fun m hended => ending_modify n (fun serving hover => ?_) hended
      rw [if_pos (show serving.isOver = true from hover)]

/-- **In a run in which whoever waits is told in time**, the state says at every moment who was asked. -/
theorem vetted_run {listenAddress logLevel : Text} {actions : List Action}
    (hprompt : (new listenAddress logLevel).Prompt actions) :
    ((new listenAddress logLevel).run actions).Vetted ((new listenAddress logLevel).Asked actions) := by
  induction actions using List.reverseRecOn with
  | nil =>
      have hnobody : (new listenAddress logLevel).Asked [] = fun _ => False := by
        funext n
        exact eq_false (not_asked_nil n)
      rw [hnobody]
      exact vetted_new listenAddress logLevel
  | append_singleton actions a ih =>
      obtain ⟨hbefore, hlast⟩ := prompt_append.1 hprompt
      have hcoherent := coherent_run (coherent_new listenAddress logLevel) actions
      have hsame : (new listenAddress logLevel).Asked (actions ++ [a])
          = fun n => (new listenAddress logLevel).Asked actions n ∨ ((new listenAddress logLevel).run actions).Asks a n := by
        funext n
        exact propext (asked_concat_iff actions a n)
      rw [run_append, hsame]
      exact (ih hbefore).perform hcoherent hlast.1

/-! ## Calls that wait -/

/-- **What one action does to the calls that wait**: nothing; or one more comes, which is told at once if there is nothing to
    wait for or the embedded server has ended; or one goes on and is told. -/
inductive WaitsGo (s : WebhookServer) : Action → List WaitCall → Prop
  | stays (a : Action) (hno : a ≠ .wait) : WaitsGo s a s.waits
  | idle (hserving : s.serving = none) : WaitsGo s .wait (s.waits ++ [.ended (.ok ())])
  | begins (n : Nat) (hserving : s.serving = some n) (hending : s.endingOf? n = none) :
      WaitsGo s .wait (s.waits ++ [.waiting n])
  | late (n : Nat) (ending : Except Defect Unit) (hserving : s.serving = some n) (hending : s.endingOf? n = some ending) :
      WaitsGo s .wait (s.waits ++ [.ended (s.verdict ending)])
  | goesOn (i n : Nat) (ending : Except Defect Unit) (hcall : s.waits[i]? = some (.waiting n))
      (hending : s.endingOf? n = some ending) : WaitsGo s (.resumeWait i) (s.waits.set i (.ended (s.verdict ending)))

theorem waits_resumeStart (s : WebhookServer) (i : Nat) : (s.resumeStart i).waits = s.waits := by
  unfold resumeStart
  repeat' split
  all_goals rfl

theorem waits_resumeShutdown (s : WebhookServer) (i : Nat) : (s.resumeShutdown i).waits = s.waits := by
  unfold resumeShutdown
  split
  · split
    · rfl
    · exact waits_finishShutdown s _
  · rfl

theorem waits_go (s : WebhookServer) (a : Action) : s.WaitsGo a (s.perform a).waits := by
  have hstays : a ≠ .wait → (s.perform a).waits = s.waits → s.WaitsGo a (s.perform a).waits := by
    intro hno hsame
    rw [hsame]
    exact .stays a hno
  cases a with
  | start bind => exact hstays nofun (s.start_keeps bind).2
  | shutdown grace => exact hstays nofun (s.waits_shutdown grace)
  | resumeStart i => exact hstays nofun (s.waits_resumeStart i)
  | resumeShutdown i => exact hstays nofun (s.waits_resumeShutdown i)
  | beginServing n => exact hstays nofun rfl
  | endServing n ending => exact hstays nofun rfl
  | wait =>
      show s.WaitsGo .wait s.wait.waits
      unfold wait
      split
      · rename_i hserving
        exact .idle hserving
      · rename_i n hserving
        split
        · rename_i ending hending
          exact .late n ending hserving hending
        · rename_i hending
          exact .begins n hserving hending
  | resumeWait i =>
      show s.WaitsGo (.resumeWait i) (s.resumeWait i).waits
      unfold resumeWait
      split
      · rename_i n hcall
        split
        · exact .stays _ nofun
        · rename_i ending hending
          exact .goesOn i n ending hcall hending
      · exact .stays _ nofun

/-- A call that waits and has been told is not told again. -/
theorem wait_stays_ended {k : Nat} {result : Except ServerFault Unit} (h : s.waits[k]? = some (.ended result))
    (a : Action) : (s.perform a).waits[k]? = some (.ended result) := by
  have hlt := (List.getElem?_eq_some_iff.1 h).1
  generalize hwaits : (s.perform a).waits = waits
  cases hwaits ▸ s.waits_go a with
  | stays => exact h
  | idle => rw [List.getElem?_append_left hlt, h]
  | begins => rw [List.getElem?_append_left hlt, h]
  | late => rw [List.getElem?_append_left hlt, h]
  | goesOn i n ending hcall =>
      have hne : i ≠ k := by
        rintro rfl
        rw [h] at hcall
        cases hcall
      rw [List.getElem?_set_ne hne, h]

/-- A call that waits does so still, or was told of the end of the embedded server that it waited for. -/
theorem waiting_goes {k n : Nat} (h : s.waits[k]? = some (.waiting n)) (a : Action) :
    (s.perform a).waits[k]? = some (.waiting n) ∨
      ∃ ending, s.endingOf? n = some ending ∧ (s.perform a).waits[k]? = some (.ended (s.verdict ending)) := by
  have hlt := (List.getElem?_eq_some_iff.1 h).1
  generalize hwaits : (s.perform a).waits = waits
  cases hwaits ▸ s.waits_go a with
  | stays => exact Or.inl h
  | idle => exact Or.inl (by rw [List.getElem?_append_left hlt, h])
  | begins => exact Or.inl (by rw [List.getElem?_append_left hlt, h])
  | late => exact Or.inl (by rw [List.getElem?_append_left hlt, h])
  | goesOn i m ending hcall hending =>
      by_cases hi : i = k
      · subst hi
        rw [h] at hcall
        cases hcall
        exact Or.inr ⟨ending, hending, List.getElem?_set_self hlt⟩
      · exact Or.inl (by rw [List.getElem?_set_ne hi, h])

/-! ## What they are told -/

/-- **What is told of an end**: what has failed failed; otherwise it depends on whether the end was asked for. -/
inductive Told (asked : Prop) : Except Defect Unit → Except ServerFault Unit → Prop
  | failed (defect : Defect) : Told asked (.error defect) (.error (.broken defect))
  | expected (h : asked) : Told asked (.ok ()) (.ok ())
  | unexpected (h : ¬ asked) : Told asked (.ok ()) (.error .stoppedUnexpectedly)

/-- **The verdict tells** whether the end was asked for. -/
theorem Vetted.told (h : s.Vetted asked) (hc : s.Coherent) {n : Nat} (hwaits : s.serving = some n ∨ .waiting n ∈ s.waits)
    (ending : Except Defect Unit) : Told (asked n) ending (s.verdict ending) := by
  cases ending with
  | error defect => exact .failed defect
  | ok _ =>
      have hplace : s.serving = some n ∨ s.state ≠ .listening ∧ asked n := by
        rcases hwaits with hheld | hwaiting
        · exact Or.inl hheld
        · exact (h.waits n hwaiting).imp_right fun hgone => ⟨hgone.1, hgone.2.1⟩
      show Told (asked n) (.ok ()) (if s.state = .listening then _ else _)
      split
      · rename_i hlistening
        rcases hplace with hheld | ⟨hout, -⟩
        · exact .unexpected (h.listening hlistening n hheld)
        · exact absurd hlistening hout
      · rename_i hlistening
        refine .expected ?_
        rcases hplace with hheld | ⟨-, hasked⟩
        · exact h.stopping ((hc.state_of_held hheld).resolve_left hlistening) n hheld
        · exact hasked

/-- **What has become of a call that waits for an embedded server**: it waits still, and is told when it goes on once that
    server has ended; or it was told at some moment, after the end, and that is what it comes to. -/
inductive Fate (s : WebhookServer) (actions : List Action) (k n : Nat) : Prop where
  | waits (hcall : (s.run actions).waits[k]? = some (.waiting n))
      (hnext : ∀ ending, (s.run actions).endingOf? n = some ending → ∃ result,
        Told (s.Asked actions n) ending result ∧ ((s.run actions).resumeWait k).waits[k]? = some (.ended result))
  | told (before : List Action) (a : Action) (after : List Action) (ending : Except Defect Unit)
      (result : Except ServerFault Unit) (hsplit : actions = before ++ a :: after)
      (hbefore : ∀ result, (s.run before).waits[k]? ≠ some (.ended result))
      (hending : (s.run before).endingOf? n = some ending) (htold : Told (s.Asked before n) ending result)
      (hafter : (s.run (before ++ [a])).waits[k]? = some (.ended result))
      (hstays : (s.run actions).waits[k]? = some (.ended result))

/-- A call that waits, and goes on once the embedded server has ended, is told of it. -/
theorem resumeWait_told {k n : Nat} {ending : Except Defect Unit} (hcall : s.waits[k]? = some (.waiting n))
    (hending : s.endingOf? n = some ending) : (s.resumeWait k).waits[k]? = some (.ended (s.verdict ending)) := by
  have hlt := (List.getElem?_eq_some_iff.1 hcall).1
  unfold resumeWait
  simp only [hcall, hending]
  exact List.getElem?_set_self hlt

section

variable {listenAddress logLevel : Text} {actions : List Action} {k n : Nat}

/-- A call that still waits will be told. -/
theorem fate_of_waiting (hprompt : (new listenAddress logLevel).Prompt actions)
    (hcall : ((new listenAddress logLevel).run actions).waits[k]? = some (.waiting n)) :
    (new listenAddress logLevel).Fate actions k n := by
  refine .waits hcall fun ending hending => ⟨_, ?_, resumeWait_told hcall hending⟩
  exact (vetted_run hprompt).told (coherent_run (coherent_new _ _) actions) (Or.inr (List.mem_of_getElem? hcall)) ending

/-- A call is told by the last of some actions. -/
theorem fate_of_told (hprompt : (new listenAddress logLevel).Prompt actions) {a : Action} {ending : Except Defect Unit}
    (hwaits : ((new listenAddress logLevel).run actions).serving = some n ∨
      .waiting n ∈ ((new listenAddress logLevel).run actions).waits)
    (hbefore : ∀ result, ((new listenAddress logLevel).run actions).waits[k]? ≠ some (.ended result))
    (hending : ((new listenAddress logLevel).run actions).endingOf? n = some ending)
    (hafter : (((new listenAddress logLevel).run actions).perform a).waits[k]?
      = some (.ended (((new listenAddress logLevel).run actions).verdict ending))) :
    (new listenAddress logLevel).Fate (actions ++ [a]) k n := by
  have htold := (vetted_run hprompt).told (coherent_run (coherent_new _ _) actions) hwaits ending
  have hlast : ((new listenAddress logLevel).run (actions ++ [a])).waits[k]? = _ := (congrArg (·.waits[k]?) (run_append _ _ _)).trans hafter
  exact .told actions a [] ending _ rfl hbefore hending htold hlast hlast

/-- **One action more**: whoever was told stays told, and whoever waits does so still or is told. -/
theorem Fate.concat (h : (new listenAddress logLevel).Fate actions k n) {a : Action}
    (hprompt : (new listenAddress logLevel).Prompt (actions ++ [a])) :
    (new listenAddress logLevel).Fate (actions ++ [a]) k n := by
  have hrun : (new listenAddress logLevel).run (actions ++ [a]) = ((new listenAddress logLevel).run actions).perform a :=
    run_append _ _ _
  cases h with
  | waits hcall _ =>
      rcases waiting_goes hcall a with hstill | ⟨ending, hending, htold⟩
      · exact fate_of_waiting hprompt (hrun ▸ hstill)
      · refine fate_of_told (prompt_append.1 hprompt).1 (Or.inr (List.mem_of_getElem? hcall)) ?_ hending htold
        intro result hended
        rw [hcall] at hended
        cases hended
  | told before b after ending result hsplit hbefore hending htold hafter hstays =>
      refine .told before b (after ++ [a]) ending result (by simp [hsplit]) hbefore hending htold hafter ?_
      rw [hrun]
      exact wait_stays_ended hstays a

end

/-- **What those who wait are told.** A call that waits where no embedded server is held returns at once. Any other ends
    only after the embedded server that it found has; it fails as that has failed, and where it ended without a fault the
    call fails exactly if nobody had asked it to end by the moment at which the call goes on. It takes that whoever waits is
    told before the server comes to listen again. -/
theorem waiters_told (listenAddress logLevel : Text) (before after : List Action)
    (hprompt : (new listenAddress logLevel).Prompt (before ++ .wait :: after)) :
    let s := new listenAddress logLevel
    let k := (s.run before).waits.length
    ((s.run before).serving = none → (s.run (before ++ .wait :: after)).waits[k]? = some (.ended (.ok ()))) ∧
      ∀ n, (s.run before).serving = some n → s.Fate (before ++ .wait :: after) k n := by
  intro s k
  have hrun : s.run (before ++ [.wait]) = (s.run before).wait := run_append _ _ _
  have hlast : ∀ call : WaitCall, ((s.run before).waits ++ [call])[k]? = some call := fun call => by simp [k]
  have hnew : ∀ result, (s.run before).waits[k]? ≠ some (.ended result) := by simp [k]
  induction after using List.reverseRecOn with
  | nil =>
      rw [hrun]
      refine ⟨fun hnone => ?_, fun n hheld => ?_⟩
      · rw [wait, hnone]
        exact hlast _
      · cases hending : (s.run before).endingOf? n with
        | none =>
            refine fate_of_waiting hprompt ?_
            rw [hrun, wait, hheld]
            simp only [hending]
            exact hlast _
        | some ending =>
            refine fate_of_told (prompt_append.1 hprompt).1 (Or.inl hheld) hnew hending ?_
            show (s.run before).wait.waits[k]? = _
            rw [wait, hheld]
            simp only [hending]
            exact hlast _
  | append_singleton after a ih =>
      rw [← List.cons_append, ← List.append_assoc] at hprompt ⊢
      obtain ⟨hidle, hwaiting⟩ := ih (prompt_append.1 hprompt).1
      refine ⟨fun hnone => ?_, fun n hheld => (hwaiting n hheld).concat hprompt⟩
      rw [run_append]
      exact wait_stays_ended (hidle hnone) a

/-- A server that comes to listen, -/
def comesUp : List Action := [.start .bound, .beginServing 0, .resumeStart 0]

/-- and whose embedded server ends by itself just before it is asked to. It comes to listen again when whoever waits was
    told. -/
def goesDownAndUp : List Action :=
  [.endServing 0 (.ok ()), .shutdown (.zero false), .resumeWait 0, .start .bound, .beginServing 1, .resumeStart 1]

/-- That server before anything happened. -/
def anyPort : WebhookServer := new ":0" "warning"

theorem prompt_goesDownAndUp : anyPort.Prompt (comesUp ++ .wait :: goesDownAndUp) := by
  have hout : ∀ {t : WebhookServer} {P : Prop}, t.state ≠ .listening → t.state = .listening → P :=
    fun hne h => absurd h hne
  -- the server comes to listen twice: before anybody waits, and after the one who waited was told
  refine ⟨fun _ => hout (by decide), fun _ => hout (by decide), fun _ _ n h => ?_, fun h => absurd rfl h,
    fun h => absurd rfl h, fun h => absurd rfl h, fun _ => hout (by decide), fun _ => hout (by decide),
    fun _ => hout (by decide), fun _ _ n h => ?_, trivial⟩
  · cases h
  · cases List.mem_singleton.1 h

theorem waiters_told_restart :
    anyPort.Prompt (comesUp ++ .wait :: goesDownAndUp) ∧ (anyPort.run comesUp).serving = some 0 ∧
      anyPort.Fate (comesUp ++ .wait :: goesDownAndUp) 0 0 ∧
      (anyPort.run (comesUp ++ .wait :: goesDownAndUp)).waits[0]? = some (.ended (.ok ())) := by
  have hserving : (anyPort.run comesUp).serving = some 0 := rfl
  have htold := waiters_told ":0" "warning" comesUp goesDownAndUp prompt_goesDownAndUp
  exact ⟨prompt_goesDownAndUp, hserving, htold.2 0 hserving, rfl⟩

end WebhookBridge.WebhookServer
