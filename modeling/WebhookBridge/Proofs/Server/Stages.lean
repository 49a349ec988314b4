import WebhookBridge.Server.Lifecycle

/-!
# How far a server has come

A server that is started once and asked to stop once passes through a few stages. As long as nobody asks it to stop, it is
idle, was refused, starts, or listens. Asked to stop while it listens, it stops as soon as its embedded server has ended.
Asked at any other time, it does not stop at all, and may still come to listen later.

## Contents

* `ServerCore`, `WebhookServer.core`: what the stages depend on;
* `ServerCore.Unstopped`, `Stopping`, `Stopped`: the stages;
* `WebhookServer.Action.IsOwn`: what happens without a call from outside, and one lemma for each stage on what it leads to;
* `WebhookServer.unstopped_start`, `shutdown_of_not_listening`, `shutdown_of_listening`: the two calls;
* `WebhookServer.WaitEnded`: calls that waited for the end do not come back;
* `WebhookServer.shutdown_stays_ended`: calls to stop that have ended do not change any more.
-/

namespace WebhookBridge

/-- What the stages of a server depend on. -/
structure ServerCore where
  starts : List StartCall
  shutdowns : List ShutdownCall
  servings : List Serving
  state : ServerState
  server : Option Nat
  serving : Option Nat

namespace WebhookServer

/-- What the stage of this server depends on. -/
def core (s : WebhookServer) : ServerCore := ⟨s.starts, s.shutdowns, s.servings, s.state, s.server, s.serving⟩

/-- What happens to a server without a call from outside: its own calls go on, and its embedded servers move. -/
def Action.IsOwn : Action → Prop
  | .start _ => False
  | .shutdown _ => False
  | .wait => False
  | _ => True

end WebhookServer

/-! ## Stages -/

namespace ServerCore

/-- **A server that nobody has stopped**, after at most one start. -/
inductive Unstopped (c : ServerCore) : Prop where
  | idle (hstarts : c.starts = []) (hservings : c.servings = []) (hstate : c.state = .stopped)
  | refused (fault : ServerFault) (hstarts : c.starts = [.ended (.error fault)]) (hstate : c.state = .stopped)
  | starting (serving : Serving) (hstarts : c.starts = [.polling 0]) (hservings : c.servings = [serving])
      (hstate : c.state = .starting)
  | listening (serving : Serving) (hstarts : c.starts = [.ended (.ok ())]) (hservings : c.servings = [serving])
      (hstate : c.state = .listening) (hserver : c.server = some 0) (hserving : c.serving = some 0)

/-- A server that was asked to stop while it listened, and whose embedded server has not ended. -/
structure Stopping (c : ServerCore) : Prop where
  starts : c.starts = [.ended (.ok ())]
  servings : ∃ serving, c.servings = [serving]
  shutdowns : ∃ socket, c.shutdowns = [.waiting 0 socket]

/-- A server that was asked to stop while it listened, and whose embedded server has ended. -/
structure Stopped (ending : Except Defect Unit) (c : ServerCore) : Prop where
  starts : c.starts = [.ended (.ok ())]
  state : c.state = .stopped
  servings : ∃ serving, c.servings = [serving] ∧ serving.ending = some ending
  shutdowns : c.shutdowns = [.ended (WebhookServer.passOn ending)]

end ServerCore

namespace WebhookServer

/-! ## Embedded servers -/

/-- An embedded server that changes is still the only one. -/
theorem modify_singleton (serving : Serving) (n : Nat) (f : Serving → Serving) :
    ∃ serving', [serving].modify n f = [serving'] ∧ (serving' = serving ∨ serving' = f serving) := by
  cases n with
  | zero => exact ⟨f serving, rfl, Or.inr rfl⟩
  | succ n => exact ⟨serving, by simp, Or.inl rfl⟩

/-- An embedded server that has ended has ended for good. -/
theorem modify_ended {serving : Serving} {ending : Except Defect Unit} (h : serving.ending = some ending) (n : Nat)
    (f : Serving → Serving) : [serving].modify n (fun s => if s.isOver then s else f s) = [serving] := by
  have hover : serving.isOver = true := by rw [Serving.isOver, h]; rfl
  cases n with
  | zero => exact congrArg ([·]) (if_pos hover)
  | succ n => simp

/-- The moves of embedded servers leave everything else as it is. -/
theorem unstopped_servings {s : WebhookServer} (h : s.core.Unstopped) (n : Nat) (f : Serving → Serving) :
    { s with servings := s.servings.modify n f }.core.Unstopped := by
  cases h with
  | idle hstarts hservings hstate =>
      refine .idle hstarts ?_ hstate
      show s.servings.modify n f = []
      rw [show s.servings = [] from hservings]
      cases n with
      | zero => rfl
      | succ n => rfl
  | refused fault hstarts hstate => exact .refused fault hstarts hstate
  | starting serving hstarts hservings hstate =>
      obtain ⟨serving', hmodify, -⟩ := modify_singleton serving n f
      refine .starting serving' hstarts ?_ hstate
      rw [← hmodify, ← show s.servings = [serving] from hservings]
      rfl
  | listening serving hstarts hservings hstate hserver hserving =>
      obtain ⟨serving', hmodify, -⟩ := modify_singleton serving n f
      refine .listening serving' hstarts ?_ hstate hserver hserving
      rw [← hmodify, ← show s.servings = [serving] from hservings]
      rfl

/-! ## What happens by itself -/

/-- A call to start that goes on. -/
theorem unstopped_resumeStart {s : WebhookServer} (h : s.core.Unstopped) (i : Nat) : (s.resumeStart i).core.Unstopped := by
  unfold resumeStart
  split
  · rename_i n hpolling
    cases h with
    | idle hstarts hservings hstate =>
        rw [show s.starts = [] from hstarts] at hpolling
        cases hpolling
    | refused fault hstarts hstate =>
        rw [show s.starts = [.ended (.error fault)] from hstarts, List.getElem?_singleton] at hpolling
        split at hpolling
        · cases hpolling
        · cases hpolling
    | listening serving hstarts hservings hstate hserver hserving =>
        rw [show s.starts = [.ended (.ok ())] from hstarts, List.getElem?_singleton] at hpolling
        split at hpolling
        · cases hpolling
        · cases hpolling
    -- only a server that starts has a call that polls; it listens, goes on polling, or is refused
    | starting serving hstarts hservings hstate =>
        have hstarts' : s.starts = [.polling 0] := hstarts
        have hservings' : s.servings = [serving] := hservings
        rw [hstarts', List.getElem?_singleton] at hpolling
        split at hpolling
        · rename_i hi
          cases hpolling
          subst hi
          rw [hservings']
          dsimp only [List.getElem?_cons_zero]
          split
          · exact .listening serving (by simp [completeStart, core, hold, report, hstarts']) hservings rfl rfl rfl
          · split
            · exact .starting serving hstarts hservings hstate
            · exact .refused .exitedEarly (by simp [failStart, core, hstarts']) rfl
            · rename_i defect _
              exact .refused (.broken defect) (by simp [failStart, core, hstarts']) rfl
        · cases hpolling
  · exact h

/-- A call to stop that does not wait does not go on. -/
theorem resumeShutdown_of_not_waiting {s : WebhookServer} (h : ∀ call ∈ s.shutdowns, ∃ result, call = .ended result)
    (i : Nat) : s.resumeShutdown i = s := by
  unfold resumeShutdown
  split
  · rename_i n socket hcall
    obtain ⟨result, he⟩ := h _ (List.mem_of_getElem? hcall)
    cases he
  · rfl

theorem core_resumeWait (s : WebhookServer) (i : Nat) : (s.resumeWait i).core = s.core := by
  unfold resumeWait
  split
  · split
    · rfl
    · rfl
  · rfl

/-- **A server that nobody has stopped** stays so by itself, if no call to stop waits. -/
theorem unstopped_perform {s : WebhookServer} (h : s.core.Unstopped)
    (hcalls : ∀ call ∈ s.shutdowns, ∃ result, call = .ended result) {a : Action} (ha : a.IsOwn) :
    (s.perform a).core.Unstopped ∧ (s.perform a).shutdowns = s.shutdowns := by
  cases a with
  | start bind => exact absurd ha id
  | shutdown grace => exact absurd ha id
  | wait => exact absurd ha id
  | resumeStart i =>
      refine ⟨unstopped_resumeStart h i, ?_⟩
      show (s.resumeStart i).shutdowns = s.shutdowns
      unfold resumeStart
      repeat' split
      all_goals rfl
  | resumeShutdown i =>
      show (s.resumeShutdown i).core.Unstopped ∧ (s.resumeShutdown i).shutdowns = s.shutdowns
      rw [resumeShutdown_of_not_waiting hcalls]
      exact ⟨h, rfl⟩
  | resumeWait i =>
      have hsame := core_resumeWait s i
      refine ⟨?_, congrArg ServerCore.shutdowns hsame⟩
      show (s.resumeWait i).core.Unstopped
      rw [hsame]
      exact h
  | beginServing n => exact ⟨unstopped_servings h n _, rfl⟩
  | endServing n ending => exact ⟨unstopped_servings h n _, rfl⟩

/-- A call to start that has ended does not go on. -/
theorem resumeStart_of_ended {s : WebhookServer} {result : Except ServerFault Unit} (h : s.starts = [.ended result])
    (i : Nat) : s.resumeStart i = s := by
  unfold resumeStart
  split
  · rename_i n hcall
    rw [h, List.getElem?_singleton] at hcall
    split at hcall
    · cases hcall
    · cases hcall
  · rfl

theorem shutdowns_finishShutdown (s : WebhookServer) (socket : Option Nat) :
    (s.finishShutdown socket).shutdowns = s.shutdowns := by
  cases socket with
  | none => rfl
  | some n => rfl

theorem starts_finishShutdown (s : WebhookServer) (socket : Option Nat) : (s.finishShutdown socket).starts = s.starts := by
  cases socket with
  | none => rfl
  | some n => rfl

theorem stopped_finishShutdown {s : WebhookServer} {ending : Except Defect Unit} (hstarts : s.starts = [.ended (.ok ())])
    (hservings : ∃ serving, s.servings = [serving] ∧ serving.ending = some ending) (socket : Option Nat) :
    ({ s.finishShutdown socket with shutdowns := [.ended (passOn ending)] } : WebhookServer).core.Stopped ending := by
  cases socket with
  | none => exact ⟨hstarts, rfl, hservings, rfl⟩
  | some n => exact ⟨hstarts, rfl, hservings, rfl⟩

/-- **A server that is to stop** does so when its embedded server has ended. -/
theorem stopping_perform {s : WebhookServer} (h : s.core.Stopping) {a : Action} (ha : a.IsOwn) :
    (s.perform a).core.Stopping ∨ ∃ ending, (s.perform a).core.Stopped ending := by
  obtain ⟨serving, hservings⟩ := h.servings
  have hservings' : s.servings = [serving] := hservings
  obtain ⟨socket, hshutdowns⟩ := h.shutdowns
  have hshutdowns' : s.shutdowns = [.waiting 0 socket] := hshutdowns
  cases a with
  | start bind => exact absurd ha id
  | shutdown grace => exact absurd ha id
  | wait => exact absurd ha id
  | resumeStart i =>
      show (s.resumeStart i).core.Stopping ∨ _
      rw [resumeStart_of_ended h.starts]
      exact Or.inl h
  | resumeShutdown i =>
      show (s.resumeShutdown i).core.Stopping ∨ ∃ ending, (s.resumeShutdown i).core.Stopped ending
      unfold resumeShutdown
      split
      · rename_i n socket' hcall
        rw [hshutdowns', List.getElem?_singleton] at hcall
        split at hcall
        · rename_i hi
          cases hcall
          subst hi
          split
          · exact Or.inl h
          · rename_i ending hending
            rw [endingOf?, hservings'] at hending
            -- the embedded server has ended, and with it the one call to stop
            have hcalls : (s.finishShutdown socket).shutdowns.set 0 (.ended (passOn ending)) = [.ended (passOn ending)] := by
              rw [shutdowns_finishShutdown, hshutdowns']
              rfl
            dsimp only
            rw [hcalls]
            exact Or.inr ⟨ending, stopped_finishShutdown h.starts ⟨serving, hservings, hending⟩ socket⟩
        · cases hcall
      · exact Or.inl h
  | resumeWait i =>
      show (s.resumeWait i).core.Stopping ∨ _
      rw [core_resumeWait]
      exact Or.inl h
  | beginServing n =>
      obtain ⟨serving', hmodify, -⟩ := modify_singleton serving n fun s => if s.isOver then s else { s with isStarted := true }
      exact Or.inl ⟨h.starts, ⟨serving', by rw [← hmodify, ← hservings']; rfl⟩, h.shutdowns⟩
  | endServing n ending =>
      obtain ⟨serving', hmodify, -⟩ := modify_singleton serving n fun s => if s.isOver then s else { s with ending := some ending }
      exact Or.inl ⟨h.starts, ⟨serving', by rw [← hmodify, ← hservings']; rfl⟩, h.shutdowns⟩

/-- **A server that was stopped** stays so by itself. -/
theorem stopped_perform {s : WebhookServer} {ending : Except Defect Unit} (h : s.core.Stopped ending) {a : Action}
    (ha : a.IsOwn) : (s.perform a).core.Stopped ending := by
  obtain ⟨serving, hservings, hending⟩ := h.servings
  have hservings' : s.servings = [serving] := hservings
  have hcalls : ∀ call ∈ s.shutdowns, ∃ result, call = .ended result := by
    rw [show s.shutdowns = [.ended (passOn ending)] from h.shutdowns]
    intro call hmem
    exact ⟨_, List.mem_singleton.1 hmem⟩
  cases a with
  | start bind => exact absurd ha id
  | shutdown grace => exact absurd ha id
  | wait => exact absurd ha id
  | resumeStart i =>
      show (s.resumeStart i).core.Stopped ending
      rw [resumeStart_of_ended h.starts]
      exact h
  | resumeShutdown i =>
      show (s.resumeShutdown i).core.Stopped ending
      rw [resumeShutdown_of_not_waiting hcalls]
      exact h
  | resumeWait i =>
      show (s.resumeWait i).core.Stopped ending
      rw [core_resumeWait]
      exact h
  | beginServing n =>
      refine ⟨h.starts, h.state, ⟨serving, ?_, hending⟩, h.shutdowns⟩
      show s.servings.modify n _ = [serving]
      rw [hservings']
      exact modify_ended hending n _
  | endServing n ending' =>
      refine ⟨h.starts, h.state, ⟨serving, ?_, hending⟩, h.shutdowns⟩
      show s.servings.modify n _ = [serving]
      rw [hservings']
      exact modify_ended hending n _

/-! ## Calls -/

/-- **The one start** leads to a server that was refused or starts. -/
theorem unstopped_start {s : WebhookServer} (h : s.core.Unstopped) (hstarts : s.starts = []) (bind : Binder) :
    (s.start bind).core.Unstopped ∧ (s.start bind).starts.length = 1 ∧ (s.start bind).shutdowns = s.shutdowns := by
  have hidle : s.servings = [] ∧ s.state = .stopped := by
    cases h with
    | idle _ hservings hstate => exact ⟨hservings, hstate⟩
    | refused fault hended _ => rw [show s.starts = _ from hended] at hstarts; cases hstarts
    | starting serving hpolling _ _ => rw [show s.starts = _ from hpolling] at hstarts; cases hstarts
    | listening serving hended _ _ _ _ => rw [show s.starts = _ from hended] at hstarts; cases hstarts
  obtain ⟨hservings, hstate⟩ := hidle
  have hone : ∀ call : StartCall, s.starts ++ [call] = [call] := fun call => by rw [hstarts]; rfl
  -- a start that fails before an embedded server was made leaves the server where it stood
  have hrefused : ∀ (t : WebhookServer) (fault : ServerFault), t.starts = s.starts → t.state = s.state →
      t.shutdowns = s.shutdowns → (t.addStart (.ended (.error fault))).core.Unstopped ∧
        (t.addStart (.ended (.error fault))).starts.length = 1 ∧
        (t.addStart (.ended (.error fault))).shutdowns = s.shutdowns := by
    intro t fault hsame hkept hcalls
    have hcall : (t.addStart (.ended (.error fault))).starts = [.ended (.error fault)] := by
      rw [← hone, ← hsame]
      rfl
    exact ⟨.refused fault hcall (hkept.trans hstate), by rw [hcall]; rfl, hcalls⟩
  rw [start, if_neg (by simp [hstate]), openServing]
  cases Address.parse s.listenAddress with
  | error error => exact hrefused s _ rfl rfl rfl
  | ok a =>
      dsimp only
      cases bind a with
      | refused reason => exact hrefused (s.addSocket none false) _ rfl rfl rfl
      | failed defect => exact hrefused (s.addSocket none true) _ rfl rfl rfl
      | bound b =>
          dsimp only
          split
          · rename_i n heq
            split at heq
            · cases heq
              have hcall : (((((s.addSocket (some b) true).addServing s.sockets.length)).withState .starting).addStart
                  (.polling s.servings.length)).starts = [.polling 0] := by
                rw [hservings]
                exact hone _
              refine ⟨.starting ⟨s.sockets.length, false, none, none⟩ hcall ?_ rfl, by rw [hcall]; rfl, rfl⟩
              show s.servings ++ [Serving.mk s.sockets.length false none none] = _
              rw [hservings]
              rfl
            · cases heq
          · rename_i fault heq
            split at heq
            · cases heq
            · cases heq
              exact hrefused (s.addSocket (some b) true) _ rfl rfl rfl

/-- Asked to stop at a time when it does not listen, a server does nothing. -/
theorem shutdown_of_not_listening {s : WebhookServer} (h : s.state ≠ .listening) (grace : Binary64) :
    s.shutdown grace = s.addShutdown (.ended (.ok ())) := by
  rw [shutdown, if_pos h]

/-- **Asked to stop while it listens**, a server stops, at once or when its embedded server has ended. -/
theorem shutdown_of_listening {s : WebhookServer} (h : s.core.Unstopped) (hcalls : s.shutdowns = [])
    (hstate : s.state = .listening) (grace : Binary64) :
    (s.shutdown grace).core.Stopping ∨ ∃ ending, (s.shutdown grace).core.Stopped ending := by
  cases h with
  | idle _ _ hstopped => rw [show s.state = .stopped from hstopped] at hstate; cases hstate
  | refused _ _ hstopped => rw [show s.state = .stopped from hstopped] at hstate; cases hstate
  | starting _ _ _ hstarting => rw [show s.state = .starting from hstarting] at hstate; cases hstate
  | listening serving hstarts hservings _ hserver hserving =>
      have hserver' : s.server = some 0 := hserver
      have hserving' : s.serving = some 0 := hserving
      have hservings' : s.servings = [serving] := hservings
      -- the one embedded server is asked to end; it may have ended by itself before
      have hasked : ((s.withState .stopping).requestEnd 0 grace).servings
          = [{ serving with grace := some grace.atLeastZero }] := by
        show s.servings.modify 0 _ = _
        rw [hservings']
        rfl
      rw [shutdown, if_neg (by simp [hstate]), hserver', hserving']
      dsimp only
      rw [endingOf?, hasked]
      cases hending : serving.ending with
      | none =>
          refine Or.inl ⟨hstarts, ⟨_, hasked⟩, ⟨s.socket, ?_⟩⟩
          show s.shutdowns ++ [_] = _
          rw [hcalls]
          rfl
      | some ending =>
          let asked := (s.withState .stopping).requestEnd 0 grace
          have hone : (asked.finishShutdown s.socket).shutdowns ++ [.ended (passOn ending)] = [.ended (passOn ending)] := by
            rw [shutdowns_finishShutdown]
            show s.shutdowns ++ _ = _
            rw [hcalls]
            rfl
          refine Or.inr ⟨ending, ?_⟩
          show ({ asked.finishShutdown s.socket with
            shutdowns := (asked.finishShutdown s.socket).shutdowns ++ [.ended (passOn ending)] }
              : WebhookServer).core.Stopped ending
          rw [hone]
          exact stopped_finishShutdown (s := asked) hstarts ⟨_, hasked, hending⟩ s.socket

/-- What happens by itself makes no start, and changes none that has ended. -/
theorem starts_perform (s : WebhookServer) {a : Action} (ha : a.IsOwn) :
    (s.perform a).starts.length = s.starts.length ∧
      ∀ result, s.starts = [.ended result] → (s.perform a).starts = [.ended result] := by
  cases a with
  | start bind => exact absurd ha id
  | shutdown grace => exact absurd ha id
  | wait => exact absurd ha id
  | resumeStart i =>
      refine ⟨?_, fun result h => ?_⟩
      · show (s.resumeStart i).starts.length = s.starts.length
        unfold resumeStart
        repeat' split
        all_goals simp [completeStart, failStart, hold, report]
      · show (s.resumeStart i).starts = _
        rw [resumeStart_of_ended h]
        exact h
  | resumeShutdown i =>
      have hsame : (s.resumeShutdown i).starts = s.starts := by
        unfold resumeShutdown
        split
        · split
          · rfl
          · exact starts_finishShutdown s _
        · rfl
      exact ⟨congrArg List.length hsame, fun result h => hsame.trans h⟩
  | resumeWait i =>
      have hsame := congrArg ServerCore.starts (core_resumeWait s i)
      exact ⟨congrArg List.length hsame, fun result h => hsame.trans h⟩
  | beginServing n => exact ⟨rfl, fun _ h => h⟩
  | endServing n ending => exact ⟨rfl, fun _ h => h⟩

theorem starts_shutdown (s : WebhookServer) (grace : Binary64) : (s.shutdown grace).starts = s.starts := by
  unfold shutdown
  split
  · rfl
  · dsimp only
    split
    · split
      · exact starts_finishShutdown _ _
      · rfl
    · rfl

/-! ## Calls that wait for the end -/

/-- A call that waits for the end has ended. -/
def WaitEnded (s : WebhookServer) (call : Nat) : Prop := ∃ result, s.waits[call]? = some (.ended result)

theorem core_wait (s : WebhookServer) : s.wait.core = s.core := by
  unfold wait
  split
  · rfl
  · split
    · rfl
    · rfl

theorem waitEnded_wait {s : WebhookServer} {call : Nat} (h : s.WaitEnded call) : s.wait.WaitEnded call := by
  obtain ⟨result, hcall⟩ := h
  have hlt : call < s.waits.length := (List.getElem?_eq_some_iff.1 hcall).1
  have happend : ∀ w : WaitCall, (s.addWait w).WaitEnded call := by
    intro w
    refine ⟨result, ?_⟩
    show (s.waits ++ [w])[call]? = _
    rw [List.getElem?_append_left hlt, hcall]
  unfold wait
  split
  · exact happend _
  · split
    · exact happend _
    · exact happend _

theorem waits_finishShutdown (s : WebhookServer) (socket : Option Nat) : (s.finishShutdown socket).waits = s.waits := by
  cases socket with
  | none => rfl
  | some n => rfl

theorem waits_shutdown (s : WebhookServer) (grace : Binary64) : (s.shutdown grace).waits = s.waits := by
  unfold shutdown
  split
  · rfl
  · dsimp only
    split
    · split
      · exact waits_finishShutdown _ _
      · rfl
    · rfl

/-- **A call that has ended** does not come back. -/
theorem waitEnded_perform {s : WebhookServer} {call : Nat} (h : s.WaitEnded call) {a : Action} (ha : a.IsOwn) :
    (s.perform a).WaitEnded call := by
  cases a with
  | start bind => exact absurd ha id
  | shutdown grace => exact absurd ha id
  | wait => exact absurd ha id
  | resumeWait i =>
      obtain ⟨result, hcall⟩ := h
      show (s.resumeWait i).WaitEnded call
      unfold resumeWait
      split
      · rename_i n hwaiting
        split
        · exact ⟨result, hcall⟩
        -- the call that goes on waits, so that it is another one than the one that has ended
        · by_cases hi : i = call
          · subst hi
            rw [hcall] at hwaiting
            cases hwaiting
          · refine ⟨result, ?_⟩
            show (s.waits.set i _)[call]? = _
            rw [List.getElem?_set_ne hi, hcall]
      · exact ⟨result, hcall⟩
  | resumeStart i =>
      have hwaits : (s.resumeStart i).waits = s.waits := by
        unfold resumeStart
        repeat' split
        all_goals rfl
      show ∃ result, (s.resumeStart i).waits[call]? = _
      rw [hwaits]
      exact h
  | resumeShutdown i =>
      have hwaits : (s.resumeShutdown i).waits = s.waits := by
        unfold resumeShutdown
        split
        · split
          · rfl
          · exact waits_finishShutdown s _
        · rfl
      show ∃ result, (s.resumeShutdown i).waits[call]? = _
      rw [hwaits]
      exact h
  | beginServing n => exact h
  | endServing n ending => exact h

/-! ## Calls to stop that have ended -/

/-- A call to stop comes behind all others. -/
theorem shutdowns_shutdown (s : WebhookServer) (grace : Binary64) :
    ∃ call, (s.shutdown grace).shutdowns = s.shutdowns ++ [call] := by
  unfold shutdown
  split
  · exact ⟨_, rfl⟩
  · dsimp only
    split
    · split
      · exact ⟨_, congrArg (· ++ [_]) (shutdowns_finishShutdown _ _)⟩
      · exact ⟨_, rfl⟩
    · exact ⟨_, rfl⟩

theorem shutdowns_openServing (s : WebhookServer) (bind : Binder) :
    (s.openServing bind).1.shutdowns = s.shutdowns := by
  unfold openServing
  cases Address.parse s.listenAddress with
  | error error => rfl
  | ok a =>
      dsimp only
      cases bind a with
      | refused reason => rfl
      | failed defect => rfl
      | bound b =>
          dsimp only
          split
          · rfl
          · rfl

/-- A start does not touch the calls to stop. -/
theorem shutdowns_start (s : WebhookServer) (bind : Binder) : (s.start bind).shutdowns = s.shutdowns := by
  have hopened := s.shutdowns_openServing bind
  unfold start
  split
  · rfl
  · cases hopen : s.openServing bind with
    | mk opened result =>
        rw [hopen] at hopened
        cases result with
        | ok n => exact hopened
        | error fault => exact hopened

/-- **A call to stop that has ended** does not change any more, whatever happens. -/
theorem shutdown_stays_ended {s : WebhookServer} {k : Nat} {result : Except ServerFault Unit}
    (h : s.shutdowns[k]? = some (.ended result)) (a : Action) : (s.perform a).shutdowns[k]? = some (.ended result) := by
  cases a with
  | start bind =>
      show (s.start bind).shutdowns[k]? = _
      rw [shutdowns_start]
      exact h
  | shutdown grace =>
      obtain ⟨call, hcalls⟩ := s.shutdowns_shutdown grace
      show (s.shutdown grace).shutdowns[k]? = _
      rw [hcalls, List.getElem?_append_left (List.getElem?_eq_some_iff.1 h).1]
      exact h
  | wait =>
      have hsame : s.wait.shutdowns = s.shutdowns := congrArg ServerCore.shutdowns s.core_wait
      exact (congrArg (·[k]?) hsame).trans h
  | resumeStart i =>
      show (s.resumeStart i).shutdowns[k]? = _
      unfold resumeStart
      repeat' split
      all_goals exact h
  | resumeShutdown i =>
      show (s.resumeShutdown i).shutdowns[k]? = _
      unfold resumeShutdown
      split
      · rename_i n socket hcall
        split
        · exact h
        · -- the call that ends here was waiting, so that it is another one
          have hne : i ≠ k := by
            rintro rfl
            rw [h] at hcall
            cases hcall
          dsimp only
          rw [List.getElem?_set_ne hne, shutdowns_finishShutdown]
          exact h
      · exact h
  | resumeWait i =>
      have hsame : (s.resumeWait i).shutdowns = s.shutdowns := congrArg ServerCore.shutdowns (s.core_resumeWait i)
      exact (congrArg (·[k]?) hsame).trans h
  | beginServing n => exact h
  | endServing n ending => exact h

end WebhookServer

end WebhookBridge
