import WebhookBridge.Proofs.Service.Steps
import WebhookBridge.Proofs.Service.Stranding
import WebhookBridge.Proofs.Settings.Precedence

/-!
# The time limits of a service

The settings that can be loaded have time limits that are good as they are: outbound calls have some time, the value that is
no number is none, and what a shutdown waits is not negative. So the relay of a service is made with a limit that is a
positive number and keeps it, and no embedded server is given another time by the service than the settings say.

## Contents

* `Binary64.positiveZero_lt_iff`, `positiveZero_le_iff`: the numbers that pass the two comparisons;
* `WebhookServer.Graces`: the times within which embedded servers were asked to end;
* `Service.limit_perform`: whatever happens, the relay keeps its limit;
* `Service.WorksWithin`, `Service.WorksWithin.performAll`: the limits that a service works with;
* `Settings.usable_of_load`: all of it, of settings that were loaded.
-/

namespace WebhookBridge

/-! ## Numbers -/

namespace Binary64

variable {x : Binary64}

/-- The magnitude of a number in the unit that all finite numbers are multiples of. -/
theorem units_eq (negative : Bool) (m : Nat) (e : Int) : ∃ k : Nat, (k = 0 ↔ m = 0) ∧
    units negative m e = if negative = true then -(k : Int) else k := by
  refine ⟨m * Nat.pow 2 (e - minExponent).toNat, ?_, rfl⟩
  have hpow : Nat.pow 2 (e - minExponent).toNat ≠ 0 := Nat.ne_of_gt (Nat.pow_pos Nat.two_pos)
  rw [Nat.mul_eq_zero]
  exact or_iff_left hpow

@[simp] theorem units_zero (negative : Bool) (e : Int) : units negative 0 e = 0 := by
  obtain ⟨k, hk, hunits⟩ := units_eq negative 0 e
  rw [hunits, hk.2 rfl]
  cases negative with
  | false => rfl
  | true => rfl

theorem units_pos_iff {negative : Bool} {m : Nat} {e : Int} : 0 < units negative m e ↔ negative = false ∧ 0 < m := by
  obtain ⟨k, hk, hunits⟩ := units_eq negative m e
  rw [hunits]
  cases negative with
  | false => simp; omega
  | true => simp

theorem units_nonneg_iff {negative : Bool} {m : Nat} {e : Int} : 0 ≤ units negative m e ↔ (negative = true → m = 0) := by
  obtain ⟨k, hk, hunits⟩ := units_eq negative m e
  rw [hunits]
  cases negative with
  | false => simp
  | true => simp; omega

/-- **The numbers greater than zero**: infinity, and finite ones with a sign and a significand to show for it. -/
theorem positiveZero_lt_iff :
    positiveZero.lt x = true ↔ x = .infinite false ∨ ∃ m e, 0 < m ∧ x = .finite false m e := by
  cases x with
  | nan => simp [positiveZero, zero, lt]
  | infinite negative => simp [positiveZero, zero, lt]
  | finite negative m e => simp [positiveZero, zero, lt, units_pos_iff, and_comm]

/-- **The numbers that are at least zero**: infinity, finite ones without a minus, and zero with one. -/
theorem positiveZero_le_iff :
    positiveZero.le x = true ↔ x = .infinite false ∨ ∃ negative m e, (negative = true → m = 0) ∧ x = .finite negative m e := by
  cases x with
  | nan => simp [positiveZero, zero, le]
  | infinite negative => simp [positiveZero, zero, le]
  | finite negative m e =>
      cases negative with
      | false => simp [positiveZero, zero, le, units_nonneg_iff]
      | true => simp [positiveZero, zero, le, units_nonneg_iff]

theorem positiveZero_le_of_lt (h : positiveZero.lt x = true) : positiveZero.le x = true := by
  rw [positiveZero_lt_iff] at h
  rw [positiveZero_le_iff]
  rcases h with rfl | ⟨m, e, -, rfl⟩
  · exact Or.inl rfl
  · exact Or.inr ⟨false, m, e, by simp, rfl⟩

/-- **A number that is at least zero** is not replaced by zero, even if it is the zero with a minus. -/
theorem atLeastZero_of_le (h : positiveZero.le x = true) : x.atLeastZero = x := by
  apply if_neg
  rw [positiveZero_le_iff] at h
  rcases h with rfl | ⟨negative, m, e, hsign, rfl⟩
  · simp [zero, lt]
  · have hnonneg : 0 ≤ units negative m e := units_nonneg_iff.2 hsign
    simpa [zero, lt] using hnonneg

end Binary64

/-! ## Values that are accepted -/

/-- A value that is accepted where a check lets it through. -/
theorem checked_ok_iff {ε α : Type} {r : Except ε α} {check : α → Bool} {fault : ε} {x : α} :
    (r >>= fun y => if check y then .ok y else .error fault) = .ok x ↔ r = .ok x ∧ check x = true := by
  rw [Json.bind_eq_ok]
  constructor
  · rintro ⟨y, hy, h⟩
    split at h
    · rename_i hcheck
      cases h
      exact ⟨hy, hcheck⟩
    · cases h
  · rintro ⟨hx, hcheck⟩
    exact ⟨x, hx, if_pos hcheck⟩

theorem acceptPositive_ok_iff {v : Json} {x : Binary64} :
    acceptPositive v = .ok x ↔ acceptNumber v = .ok x ∧ Binary64.positiveZero.lt x = true := checked_ok_iff

theorem acceptNonNegative_ok_iff {v : Json} {x : Binary64} :
    acceptNonNegative v = .ok x ↔ acceptNumber v = .ok x ∧ Binary64.positiveZero.le x = true := checked_ok_iff

namespace Settings

section Loaded

variable {α : Type} {sources : Sources} {setting : Setting} {accept : Json → Except IssueKind α} {default x : α}
  {settings : Settings}

/-- A field is what the default is and whatever is accepted is. -/
theorem Takes.holds {P : α → Prop} (h : Takes sources setting accept default x) (hdefault : P default)
    (haccept : ∀ v y, accept v = .ok y → P y) : P x := by
  cases h with
  | chosen _ hv => exact haccept _ x hv
  | default _ => exact hdefault

theorem Determined.httpTimeout_pos (h : Determined sources settings) :
    Binary64.positiveZero.lt settings.httpTimeout = true :=
  h.httpTimeout.holds (by decide +kernel) fun _ _ h => (acceptPositive_ok_iff.1 h).2

/-- The grace period is not negative, be it a chosen one or the time limit of outbound calls. -/
theorem Determined.gracePeriod_nonneg (h : Determined sources settings) :
    Binary64.positiveZero.le settings.gracePeriod = true := by
  obtain ⟨hsome, hnone⟩ := h.gracePeriod
  cases hchosen : sources.chosen? .shutdownGrace with
  | some v => exact (acceptNonNegative_ok_iff.1 (hsome v (Sources.chooses_iff.2 hchosen))).2
  | none =>
      rw [hnone (Sources.chooses_iff.2 hchosen)]
      exact Binary64.positiveZero_le_of_lt h.httpTimeout_pos

end Loaded

end Settings

/-! ## Embedded servers -/

namespace WebhookServer

variable {s s' : WebhookServer} {P : Binary64 → Prop}

/-- Every embedded server that was asked to end was given a time that is allowed. -/
def Graces (P : Binary64 → Prop) (s : WebhookServer) : Prop :=
  ∀ (n : Nat) (serving : Serving) (g : Binary64), s.servings[n]? = some serving → serving.grace = some g → P g

theorem graces_new (listenAddress logLevel : Text) : (new listenAddress logLevel).Graces P := by
  intro n serving g hserving
  cases hserving

theorem Graces.of_servings (h : s.Graces P) (hservings : s'.servings = s.servings) : s'.Graces P := by
  rw [Graces, hservings]
  exact h

/-- An embedded server changes, and is given no time that is not allowed. -/
theorem Graces.modify (h : s.Graces P) (n : Nat) {f : Serving → Serving}
    (hf : ∀ serving g, (f serving).grace = some g → serving.grace = some g ∨ P g) :
    { s with servings := s.servings.modify n f }.Graces P := by
  intro m serving g hserving hg
  have hmodify : (s.servings.modify n f)[m]? = some serving := hserving
  rw [List.getElem?_modify] at hmodify
  obtain ⟨old, hold, rfl⟩ := Option.map_eq_some_iff.1 hmodify
  split at hg
  · rcases hf old g hg with hsame | hP
    · exact h m old g hold hsame
    · exact hP
  · exact h m old g hold hg

/-- An embedded server that is new was not asked to end. -/
theorem Graces.addServing (h : s.Graces P) (socket : Nat) : (s.addServing socket).Graces P := by
  intro n serving g hserving hg
  have happend : (s.servings ++ [⟨socket, false, none, none⟩])[n]? = some serving := hserving
  rw [List.getElem?_append, List.getElem?_singleton] at happend
  split at happend
  · exact h n serving g happend hg
  · split at happend
    · cases happend
      cases hg
    · cases happend

theorem Graces.requestEnd (h : s.Graces P) (n : Nat) {grace : Binary64} (hP : P grace.atLeastZero) :
    (s.requestEnd n grace).Graces P := by
  apply h.modify n
  intro serving g hg
  cases hg
  exact Or.inr hP

theorem Graces.openServing (h : s.Graces P) (bind : Binder) : (s.openServing bind).1.Graces P := by
  unfold WebhookServer.openServing
  split
  · exact h
  · split
    · exact h.of_servings rfl
    · exact h.of_servings rfl
    · dsimp only
      split
      · exact Graces.addServing (h.of_servings rfl) _
      · exact h.of_servings rfl

theorem Graces.start (h : s.Graces P) (bind : Binder) : (s.start bind).Graces P := by
  have hopened := h.openServing bind
  unfold WebhookServer.start
  split
  · exact h.of_servings rfl
  · split
    · rename_i hopen
      rw [hopen] at hopened
      exact hopened.of_servings rfl
    · rename_i hopen
      rw [hopen] at hopened
      exact hopened.of_servings rfl

theorem Graces.resumeStart (h : s.Graces P) (i : Nat) : (s.resumeStart i).Graces P := by
  unfold WebhookServer.resumeStart
  split
  · split
    · exact h
    · split
      · exact h.of_servings rfl
      · split
        · exact h
        · exact h.of_servings rfl
        · exact h.of_servings rfl
  · exact h

theorem servings_finishShutdown (s : WebhookServer) (socket : Option Nat) :
    (s.finishShutdown socket).servings = s.servings := by
  cases socket with
  | none => rfl
  | some n => rfl

/-- **A server that is asked to stop** passes on the time that it is given, unless that is negative. -/
theorem Graces.shutdown (h : s.Graces P) {grace : Binary64} (hP : P grace.atLeastZero) : (s.shutdown grace).Graces P := by
  unfold WebhookServer.shutdown
  split
  · exact h.of_servings rfl
  · dsimp only
    split
    · rename_i m n _ _
      have hasked : ((s.withState .stopping).requestEnd m grace).Graces P := Graces.requestEnd (h.of_servings rfl) m hP
      split
      · exact hasked.of_servings (servings_finishShutdown _ _)
      · exact hasked.of_servings rfl
    · exact h.of_servings rfl

theorem Graces.resumeShutdown (h : s.Graces P) (i : Nat) : (s.resumeShutdown i).Graces P := by
  unfold WebhookServer.resumeShutdown
  split
  · split
    · exact h
    · exact h.of_servings (servings_finishShutdown _ _)
  · exact h

theorem Graces.wait (h : s.Graces P) : s.wait.Graces P := by
  unfold WebhookServer.wait
  split
  · exact h.of_servings rfl
  · split
    · exact h.of_servings rfl
    · exact h.of_servings rfl

theorem Graces.resumeWait (h : s.Graces P) (i : Nat) : (s.resumeWait i).Graces P := by
  unfold WebhookServer.resumeWait
  split
  · split
    · exact h
    · exact h.of_servings rfl
  · exact h

/-- An embedded server moves by itself. -/
theorem Graces.moves (h : s.Graces P) (n : Nat) {f : Serving → Serving} (hf : ∀ serving, (f serving).grace = serving.grace) :
    { s with servings := s.servings.modify n fun serving => if serving.isOver then serving else f serving }.Graces P := by
  apply h.modify n
  intro serving g hg
  split at hg
  · exact Or.inl hg
  · exact Or.inl ((hf serving).symm.trans hg)

/-- **One action**: embedded servers are given the times that the server is asked to stop within, and no others. -/
theorem Graces.perform (h : s.Graces P) (a : Action) (hP : ∀ grace, a = .shutdown grace → P grace.atLeastZero) :
    (s.perform a).Graces P := by
  cases a with
  | start bind => exact h.start bind
  | shutdown grace => exact h.shutdown (hP grace rfl)
  | wait => exact h.wait
  | resumeStart i => exact h.resumeStart i
  | resumeShutdown i => exact h.resumeShutdown i
  | resumeWait i => exact h.resumeWait i
  | beginServing n => exact h.moves n fun _ => rfl
  | endServing n ending => exact h.moves n fun _ => rfl

end WebhookServer

/-! ## The relay -/

/-- The time limit of the calls of a session. -/
def HttpSession.limit (session : HttpSession) : Binary64 := session.relay.timeout

theorem Relay.limit_http (peer : Peer) (now : Moment) (session : HttpSession) (request : RelayRequest) :
    ((Relay.http peer now).call session request).state.limit = session.limit := by
  show (session.relay.post _ now request.url request.body).relay.timeout = _
  unfold HttpRelay.post
  split
  · rfl
  · dsimp only
    split
    · rfl
    · rfl

namespace Service

variable {env : Surroundings} {s : Service}

/-- The time limit of outbound calls. -/
def limit (s : Service) : Binary64 := s.runtime.relay.limit

/-- **One action and the relay**: it keeps its time limit, if its calls do. -/
theorem limit_perform (henv : ∀ session request, (env.relay.call session request).state.limit = session.limit) (s : Service)
    (a : Action) : (s.perform env a).limit = s.limit := by
  have hkept : (s.perform env a).HasClient fun session => session.limit = s.limit := by
    apply hasClient_perform
    · exact fun session request hsession => (henv session request).trans hsession
    · exact fun _ session hsession => hsession
    · rfl
  exact hkept

/-! ## The limits that a service works with -/

/-- **A service works within the limits of its settings**: its relay has the time limit of the settings, and every embedded
    server that was asked to end was given their grace period, or a time that somebody else asked the server for. -/
structure WorksWithin (settings : Settings) (asked : Binary64 → Prop) (s : Service) : Prop where
  sameSettings : s.settings = settings
  limit : s.limit = settings.httpTimeout
  graces : s.server.Graces fun g => g = settings.gracePeriod ∨ ∃ grace, asked grace ∧ g = grace.atLeastZero

variable {settings : Settings} {asked : Binary64 → Prop}

theorem worksWithin_create {conduct : RuntimeConduct} {capacity : Nat} (h : create settings conduct capacity none = .ok s) :
    s.WorksWithin settings asked where
  sameSettings := by
    unfold create at h
    split at h
    · cases h
    · split at h
      · cases h
      · cases h
        rfl
  limit := by
    rw [Service.limit, runtime_create h]
    rfl
  graces := by
    rw [(fresh_create h).server]
    exact WebhookServer.graces_new _ _

/-- **One action**: only the closing gives embedded servers the grace period, as it is; other times come from outside. -/
theorem WorksWithin.perform (henv : ∀ session request, (env.relay.call session request).state.limit = session.limit)
    (hgrace : settings.gracePeriod.atLeastZero = settings.gracePeriod) (h : s.WorksWithin settings asked) {a : Action}
    (ha : ∀ grace, a = .server (.shutdown grace) → asked grace) : (s.perform env a).WorksWithin settings asked := by
  have hlimit := (limit_perform henv s a).trans h.limit
  rcases server_goes env s a with ⟨hsettings, log, hserver⟩ | ⟨b, log, hasked, hsettings, hserver⟩
  · refine ⟨hsettings.trans h.sameSettings, hlimit, h.graces.of_servings ?_⟩
    rw [hserver]
  · refine ⟨hsettings.trans h.sameSettings, hlimit, ?_⟩
    have hb : (s.server.perform b).Graces fun g => g = settings.gracePeriod ∨ ∃ grace, asked grace ∧ g = grace.atLeastZero := by
      apply h.graces.perform b
      rintro grace rfl
      cases hasked with
      | beginClosing _ =>
          rw [h.sameSettings]
          exact Or.inl hgrace
      | server _ => exact Or.inr ⟨grace, ha grace rfl, rfl⟩
    apply hb.of_servings
    rw [hserver]

/-- **Any order of actions.** -/
theorem WorksWithin.performAll (henv : ∀ session request, (env.relay.call session request).state.limit = session.limit)
    (hgrace : settings.gracePeriod.atLeastZero = settings.gracePeriod) (h : s.WorksWithin settings asked)
    {actions : List Action} (ha : ∀ grace, .server (.shutdown grace) ∈ actions → asked grace) :
    (s.performAll env actions).WorksWithin settings asked := by
  induction actions generalizing s with
  | nil => exact h
  | cons a actions ih =>
      apply ih
      · apply h.perform henv hgrace
        rintro grace rfl
        exact ha grace (List.mem_cons_self ..)
      · intro grace hmem
        exact ha grace (List.mem_cons_of_mem _ hmem)

end Service

/-! ## Settings that were loaded -/

namespace Settings

/-- **Time limits that can be used as they are.** -/
structure Usable (settings : Settings) : Prop where
  /-- Outbound calls have some time, and a shutdown waits no negative time. -/
  httpTimeout : Binary64.positiveZero.lt settings.httpTimeout = true
  gracePeriod : Binary64.positiveZero.le settings.gracePeriod = true
  /-- The grace period is passed on as it is. -/
  atLeastZero : settings.gracePeriod.atLeastZero = settings.gracePeriod
  /-- Whatever happens to a service that makes its client with these settings, it works within their limits. -/
  service : ∀ conduct capacity s, Service.create settings conduct capacity none = .ok s → ∀ bind peer now actions,
    (s.performAll ⟨bind, Relay.http peer now⟩ actions).WorksWithin settings fun grace => .server (.shutdown grace) ∈ actions

/-- **Settings that were loaded have time limits that can be used**, whatever the environment and the overrides write as a
    number. -/
theorem usable_of_load {sources : Sources} {settings : Settings} (h : load sources = .ok settings) : settings.Usable := by
  have hdetermined := load_ok_iff.1 h
  have hgrace := Binary64.atLeastZero_of_le hdetermined.gracePeriod_nonneg
  refine ⟨hdetermined.httpTimeout_pos, hdetermined.gracePeriod_nonneg, hgrace, ?_⟩
  intro conduct capacity s hcreate bind peer now actions
  apply (Service.worksWithin_create hcreate).performAll (Relay.limit_http peer now) hgrace
  intro grace hmem
  exact hmem

/-- Outbound calls without end, and the zero with a minus as the grace period. -/
def endless : Sources where
  environment := [("WEBMAN_HTTP_TIMEOUT", "Infinity")]
  overrides := [("shutdown_grace", .float (.zero true))]

/-- The settings that these are. -/
def endlessSettings : Settings := { default with httpTimeout := .infinite false, shutdownGrace := some (.zero true) }

/-- The service with these settings. -/
def endlessService : Service :=
  { Service.usual with settings := endlessSettings, runtime := .new 1 (.new endlessSettings.httpTimeout) }

/-- A server that the closing asks to end is given just the grace period. -/
theorem usable_of_load_endless :
    load endless = .ok endlessSettings ∧ endlessSettings.Usable ∧
      Service.create endlessSettings .sound 1 none = .ok endlessService ∧
      (endlessService.performAll Service.answeringPeer
        (Service.startUp ++ Service.closeDown)).server.servings.map (·.grace) = [some (.zero true)] := by
  have hload : load endless = .ok endlessSettings := by rfl
  have hcreate : Service.create endlessSettings .sound 1 none = .ok endlessService := by
    have hparse : RoutePattern.parse endlessSettings.endpoint = .ok [.literal "/webhook"] := by decide +kernel
    rw [Service.create, if_neg (by decide), WebApp.create, hparse]
    rfl
  exact ⟨hload, usable_of_load hload, hcreate, by decide +kernel⟩

end Settings

end WebhookBridge
