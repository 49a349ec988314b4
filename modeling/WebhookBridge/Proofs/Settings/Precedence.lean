import Mathlib.Logic.ExistsUnique
import Mathlib.Logic.Relation
import WebhookBridge.Proofs.Json.Levels
import WebhookBridge.Proofs.Json.Parts
import WebhookBridge.Proofs.Json.Strings
import WebhookBridge.Settings

/-!
# Which value a setting has

A setting has its override; without one it has its variable, unless that is empty; without either it has its default. The
values so chosen are validated, and no others: so loading goes wrong exactly if one of them is refused, and nothing that is
not chosen can be seen in what is loaded, or in the error.

## Contents

* `Sources.Chooses`: the value that a setting takes from its sources;
* `Setting.fault?`, `Sources.issues`: the chosen values that are refused;
* `Settings.Determined`, `load_ok_iff`, `load_error_iff`: what is loaded;
* `Sources.Edit`, `Sources.chosen?_edits`: changes that cannot be seen;
* `Settings.load_precedence`: all of it together.
-/

namespace WebhookBridge

namespace Sources

variable {s s' : Sources} {setting : Setting}

/-! ## The chosen value -/

/-- A setting has an override that is not null. -/
def Overridden (s : Sources) (setting : Setting) : Prop := ∃ v, s.overrides.get? setting.name = some v ∧ v ≠ .null

/-- **The value that a setting takes from its sources**: its override, if that is not null; else its variable, if that is not
    empty; else none, and the default holds. -/
inductive Chooses (s : Sources) (setting : Setting) : Option Json → Prop
  | override {v : Json} (h : s.overrides.get? setting.name = some v) (hv : v ≠ .null) : Chooses s setting (some v)
  | fromVariable {t : Text} (hnone : ¬ s.Overridden setting) (h : s.environment.get? setting.variable = some t) (ht : t ≠ []) :
      Chooses s setting (some (.str t))
  | default (hnone : ¬ s.Overridden setting) (h : ∀ t, s.environment.get? setting.variable = some t → t = []) :
      Chooses s setting none

theorem override?_eq_some_iff {v : Json} :
    s.override? setting = some v ↔ s.overrides.get? setting.name = some v ∧ v ≠ .null := by
  unfold override?
  constructor
  · intro h
    split at h
    · cases h
    · rename_i hnull
      exact ⟨h, fun hv => hnull (hv ▸ h)⟩
  · rintro ⟨h, hv⟩
    rw [h]
    cases v with
    | null => exact absurd rfl hv
    | _ => rfl

theorem override?_eq_none_iff : s.override? setting = none ↔ ¬ s.Overridden setting := by
  rw [Option.eq_none_iff_forall_not_mem]
  exact not_exists.symm.trans (not_congr (exists_congr fun _ => override?_eq_some_iff))

theorem fromEnvironment?_eq_some_iff {t : Text} :
    s.fromEnvironment? setting = some t ↔ s.environment.get? setting.variable = some t ∧ t ≠ [] := by
  unfold fromEnvironment?
  constructor
  · intro h
    split at h
    · cases h
    · rename_i hempty
      exact ⟨h, fun ht => hempty (ht ▸ h)⟩
  · rintro ⟨h, ht⟩
    rw [h]
    cases t with
    | nil => exact absurd rfl ht
    | cons c t => rfl

/-- **The choice is what the sources make of it.** -/
theorem chooses_iff {c : Option Json} : Chooses s setting c ↔ s.chosen? setting = c := by
  unfold chosen?
  cases hover : s.override? setting with
  | some v =>
      have hv := override?_eq_some_iff.1 hover
      constructor
      · intro h
        cases h with
        | override h _ => exact hv.1.symm.trans h
        | fromVariable hnone _ _ => exact absurd ⟨v, hv⟩ hnone
        | default hnone _ => exact absurd ⟨v, hv⟩ hnone
      · rintro rfl
        exact .override hv.1 hv.2
  | none =>
      have hnone := override?_eq_none_iff.1 hover
      cases henv : s.fromEnvironment? setting with
      | some t =>
          have ht := fromEnvironment?_eq_some_iff.1 henv
          constructor
          · intro h
            cases h with
            | override h hv => exact absurd ⟨_, h, hv⟩ hnone
            | fromVariable _ h _ => rw [Option.some.inj (ht.1.symm.trans h)]; rfl
            | default _ h => exact absurd (h t ht.1) ht.2
          · rintro rfl
            exact .fromVariable hnone ht.1 ht.2
      | none =>
          have hempty : ∀ t, s.environment.get? setting.variable = some t → t = [] := by
            intro t ht
            by_cases hne : t = []
            · exact hne
            · rw [fromEnvironment?_eq_some_iff.2 ⟨ht, hne⟩] at henv
              cases henv
          constructor
          · intro h
            cases h with
            | override h hv => exact absurd ⟨_, h, hv⟩ hnone
            | fromVariable _ h ht => exact absurd (hempty _ h) ht
            | default _ _ => rfl
          · rintro rfl
            exact .default hnone hempty

end Sources

/-! ## Refused values -/

/-- What is wrong with a value as that of a setting. -/
def Setting.fault? (setting : Setting) (v : Json) : Option IssueKind :=
  match setting with
  | .httpTimeout => faultOf? (acceptPositive v)
  | .shutdownGrace => faultOf? (acceptNonNegative v)
  | _ => faultOf? (acceptText v)

/-- The issue of a setting: what is wrong with the value that is chosen for it, under its name. -/
def Sources.issue? (s : Sources) (setting : Setting) : Option Issue :=
  (s.chosen? setting).bind fun v => (setting.fault? v).map fun kind => ⟨kind, [.key setting.name], v⟩

/-- The issues of all settings, in their order. -/
def Sources.issues (s : Sources) : List Issue := Setting.all.flatMap fun setting => (s.issue? setting).toList

theorem Setting.mem_all (setting : Setting) : setting ∈ all := by
  cases setting <;> decide

/-- There are issues exactly if a chosen value is refused. -/
theorem Sources.issues_ne_nil_iff {s : Sources} :
    s.issues ≠ [] ↔ ∃ setting v, s.Chooses setting (some v) ∧ setting.fault? v ≠ none := by
  constructor
  · intro h
    obtain ⟨issue, hissue⟩ := List.exists_mem_of_ne_nil _ h
    obtain ⟨setting, -, hissue⟩ := List.mem_flatMap.1 hissue
    obtain ⟨v, hv, hfault⟩ := Option.bind_eq_some_iff.1 (Option.mem_toList.1 hissue)
    refine ⟨setting, v, chooses_iff.2 hv, fun hnone => ?_⟩
    rw [hnone] at hfault
    cases hfault
  · rintro ⟨setting, v, hv, hfault⟩ hnil
    obtain ⟨kind, hkind⟩ := Option.ne_none_iff_exists'.1 hfault
    have hissue : s.issue? setting = some ⟨kind, [.key setting.name], v⟩ := by
      simp [issue?, chooses_iff.1 hv, hkind]
    have hmem : (⟨kind, [.key setting.name], v⟩ : Issue) ∈ s.issues :=
      List.mem_flatMap.2 ⟨setting, setting.mem_all, by simp [hissue]⟩
    rw [hnil] at hmem
    exact List.not_mem_nil hmem

/-! ## Loading -/

namespace Settings

variable {α : Type} {s s' : Sources} {setting : Setting} {accept : Json → Except IssueKind α} {default x : α}

/-- A field holds what the chosen value is accepted as, and the default where none is chosen. -/
inductive Takes (s : Sources) (setting : Setting) (accept : Json → Except IssueKind α) (default : α) : α → Prop
  | chosen {v : Json} {x : α} (h : s.Chooses setting (some v)) (hv : accept v = .ok x) : Takes s setting accept default x
  | default (h : s.Chooses setting none) : Takes s setting accept default default

theorem field_ok_iff : field s setting accept default = .ok x ↔ Takes s setting accept default x := by
  unfold field
  cases hchosen : s.chosen? setting with
  | none =>
      constructor
      · intro h
        cases h
        exact .default (Sources.chooses_iff.2 hchosen)
      · rintro (⟨h, -⟩ | -)
        · rw [Sources.chooses_iff, hchosen] at h
          cases h
        · rfl
  | some v =>
      constructor
      · intro h
        cases hv : accept v with
        | ok y =>
            simp only [hv] at h
            cases h
            exact .chosen (Sources.chooses_iff.2 hchosen) hv
        | error kind => simp [hv] at h
      · rintro (⟨h, hv⟩ | h)
        · rw [Sources.chooses_iff, hchosen] at h
          cases h
          simp [hv]
        · rw [Sources.chooses_iff, hchosen] at h
          cases h

/-- The issue of a field is that of its setting. -/
theorem issueOf_field (setting : Setting) (h : ∀ v, faultOf? (accept v) = setting.fault? v) :
    issueOf (field s setting accept default) = (s.issue? setting).toList := by
  unfold field Sources.issue?
  cases s.chosen? setting with
  | none => rfl
  | some v =>
      rw [Option.bind_some, ← h v]
      cases hv : accept v with
      | ok y => simp [hv, issueOf]
      | error kind => simp [hv, issueOf]

theorem issueOf_eq_nil_iff {r : Except Issue α} : issueOf r = [] ↔ ∃ x, r = .ok x := by
  cases r with
  | ok x => simp [issueOf]
  | error i => simp [issueOf]

/-- **Settings as the sources determine them**, each by the value that is chosen for it. -/
structure Determined (s : Sources) (settings : Settings) : Prop where
  endpoint : Takes s .endpoint acceptText Settings.default.endpoint settings.endpoint
  address : Takes s .address acceptText Settings.default.address settings.address
  httpTimeout : Takes s .httpTimeout acceptPositive Settings.default.httpTimeout settings.httpTimeout
  shutdownGrace : Takes s .shutdownGrace (fun v => (acceptNonNegative v).map some) Settings.default.shutdownGrace
    settings.shutdownGrace
  logLevel : Takes s .logLevel acceptText Settings.default.logLevel settings.logLevel
  runtime : Takes s .runtime (fun v => (acceptText v).map some) Settings.default.runtime settings.runtime

/-- The issues of the sources are those of the fields, in their order. -/
theorem issues_eq (s : Sources) : s.issues =
    issueOf (field s .endpoint acceptText Settings.default.endpoint) ++
    issueOf (field s .address acceptText Settings.default.address) ++
    issueOf (field s .httpTimeout acceptPositive Settings.default.httpTimeout) ++
    issueOf (field s .shutdownGrace (fun v => (acceptNonNegative v).map some) Settings.default.shutdownGrace) ++
    issueOf (field s .logLevel acceptText Settings.default.logLevel) ++
    issueOf (field s .runtime (fun v => (acceptText v).map some) Settings.default.runtime) := by
  rw [issueOf_field .endpoint fun _ => rfl, issueOf_field .address fun _ => rfl, issueOf_field .httpTimeout fun _ => rfl,
    issueOf_field .shutdownGrace fun _ => faultOf?_map .., issueOf_field .logLevel fun _ => rfl,
    issueOf_field .runtime fun _ => faultOf?_map ..]
  simp [Sources.issues, Setting.all]

/-- **What the sources come to**: the settings that they determine where no chosen value is refused, and else all their
    issues. -/
theorem ofSources_cases (s : Sources) :
    (∃ settings, ofSources s = .ok settings ∧ Determined s settings ∧ s.issues = []) ∨
      (ofSources s = .error s.issues ∧ s.issues ≠ []) := by
  rw [issues_eq]
  unfold ofSources
  dsimp only
  split
  · rename_i endpoint address timeout grace level runtime h₁ h₂ h₃ h₄ h₅ h₆
    refine .inl ⟨_, rfl, ?_, ?_⟩
    · exact ⟨field_ok_iff.1 h₁, field_ok_iff.1 h₂, field_ok_iff.1 h₃, field_ok_iff.1 h₄, field_ok_iff.1 h₅, field_ok_iff.1 h₆⟩
    · rw [h₁, h₂, h₃, h₄, h₅, h₆]
      rfl
  · rename_i hnot
    refine .inr ⟨rfl, fun hnil => ?_⟩
    simp only [List.append_eq_nil_iff, issueOf_eq_nil_iff] at hnil
    obtain ⟨⟨⟨⟨⟨⟨_, h₁⟩, _, h₂⟩, _, h₃⟩, _, h₄⟩, _, h₅⟩, _, h₆⟩ := hnil
    exact hnot _ _ _ _ _ _ h₁ h₂ h₃ h₄ h₅ h₆

/-- A setting takes one value only. -/
theorem Takes.unique {y : α} (hx : Takes s setting accept default x) (hy : Takes s setting accept default y) : x = y :=
  Except.ok.inj ((field_ok_iff.2 hx).symm.trans (field_ok_iff.2 hy))

theorem Determined.unique {settings settings' : Settings} (h : Determined s settings) (h' : Determined s settings') :
    settings = settings' := by
  cases settings
  cases settings'
  simp only [mk.injEq]
  exact ⟨h.endpoint.unique h'.endpoint, h.address.unique h'.address, h.httpTimeout.unique h'.httpTimeout,
    h.shutdownGrace.unique h'.shutdownGrace, h.logLevel.unique h'.logLevel, h.runtime.unique h'.runtime⟩

theorem Determined.issues {settings : Settings} (h : Determined s settings) : s.issues = [] := by
  rw [issues_eq, field_ok_iff.2 h.endpoint, field_ok_iff.2 h.address, field_ok_iff.2 h.httpTimeout,
    field_ok_iff.2 h.shutdownGrace, field_ok_iff.2 h.logLevel, field_ok_iff.2 h.runtime]
  rfl

/-- **Loading succeeds** with the settings that the sources determine, -/
theorem load_ok_iff {settings : Settings} : load s = .ok settings ↔ Determined s settings := by
  rcases ofSources_cases s with ⟨found, hload, hfound, -⟩ | ⟨hload, hne⟩
  · simp only [load, hload, Json.Lenient.mapError_ok, Except.ok.injEq]
    exact ⟨fun h => h ▸ hfound, fun h => hfound.unique h⟩
  · simp only [load, hload, Json.Lenient.mapError_error, reduceCtorEq, false_iff]
    exact fun h => hne h.issues

/-- and fails with all their issues, if there are any. -/
theorem load_error_iff {e : ConfigurationError} : load s = .error e ↔ e = .invalid s.issues ∧ s.issues ≠ [] := by
  rcases ofSources_cases s with ⟨found, hload, -, hnil⟩ | ⟨hload, hne⟩
  · simp [load, hload, hnil]
  · simp only [load, hload, Json.Lenient.mapError_error, Except.error.injEq]
    exact ⟨fun h => ⟨h.symm, hne⟩, fun h => h.1.symm⟩

/-! ## Two runs -/

/-- What is loaded is a matter of the chosen values. -/
theorem load_congr (h : ∀ setting, s'.chosen? setting = s.chosen? setting) : load s' = load s := by
  simp only [load, ofSources, field, h]

end Settings

namespace Sources

variable {s s' : Sources} {setting : Setting}

/-- The sources with a variable set to a text, or not set. -/
def withVariable (s : Sources) (name : Text) : Option Text → Sources
  | some t => { s with environment := s.environment.put name t }
  | none => { s with environment := s.environment.erase name }

theorem get?_withVariable_self (s : Sources) (name : Text) (t : Option Text) :
    (s.withVariable name t).environment.get? name = t := by
  cases t with
  | some t => exact Table.get?_put_self ..
  | none => exact Table.get?_erase_self ..

theorem get?_withVariable_ne (s : Sources) {name other : Text} (h : other ≠ name) (t : Option Text) :
    (s.withVariable name t).environment.get? other = s.environment.get? other := by
  cases t with
  | some t => exact Table.get?_put_ne h ..
  | none => exact Table.get?_erase_ne h ..

theorem override?_withVariable (s : Sources) (name : Text) (t : Option Text) (setting : Setting) :
    (s.withVariable name t).override? setting = s.override? setting := by
  cases t <;> rfl

/-- **A change of the environment that cannot be seen**: of the variable of an overridden setting, to any text or to none; of
    an empty variable to none, or of none to an empty one; of a variable that belongs to no setting. -/
inductive Edit : Sources → Sources → Prop
  | overridden {s : Sources} {setting : Setting} (h : s.Overridden setting) (t : Option Text) :
      Edit s (s.withVariable setting.variable t)
  | unset {s : Sources} {setting : Setting} (h : s.environment.get? setting.variable = some []) :
      Edit s (s.withVariable setting.variable none)
  | emptied {s : Sources} {setting : Setting} (h : s.environment.get? setting.variable = none) :
      Edit s (s.withVariable setting.variable (some []))
  | foreign {s : Sources} {name : Text} (h : ∀ setting : Setting, name ≠ setting.variable) (t : Option Text) :
      Edit s (s.withVariable name t)

theorem fromEnvironment?_withVariable_ne (s : Sources) {name : Text} (h : setting.variable ≠ name) (t : Option Text) :
    (s.withVariable name t).fromEnvironment? setting = s.fromEnvironment? setting := by
  simp only [fromEnvironment?, get?_withVariable_ne s h t]

/-- The variables of different settings are different. -/
theorem variable_injective {setting other : Setting} (h : setting.variable = other.variable) : setting = other := by
  revert h
  cases setting <;> cases other <;> decide

/-- The choice is the same where the override or the variable that counts is. -/
theorem chosen?_congr (hover : s'.override? setting = s.override? setting)
    (hvariable : ¬ s.Overridden setting → s'.fromEnvironment? setting = s.fromEnvironment? setting) :
    s'.chosen? setting = s.chosen? setting := by
  unfold chosen?
  rw [hover]
  cases h : s.override? setting with
  | some v => rfl
  | none => rw [hvariable (override?_eq_none_iff.1 h)]

/-- One change leaves every choice as it is. -/
theorem Edit.chosen? (h : Edit s s') (setting : Setting) : s'.chosen? setting = s.chosen? setting := by
  cases h with
  | @overridden other hother t =>
      apply chosen?_congr (override?_withVariable ..)
      intro hnone
      apply fromEnvironment?_withVariable_ne
      intro he
      exact hnone (variable_injective he ▸ hother)
  | @unset other hempty =>
      apply chosen?_congr (override?_withVariable ..)
      intro _
      by_cases he : setting.variable = other.variable
      · simp only [fromEnvironment?, he, get?_withVariable_self, hempty]
      · exact fromEnvironment?_withVariable_ne s he none
  | @emptied other hnone =>
      apply chosen?_congr (override?_withVariable ..)
      intro _
      by_cases he : setting.variable = other.variable
      · simp only [fromEnvironment?, he, get?_withVariable_self, hnone]
      · exact fromEnvironment?_withVariable_ne s he (some [])
  | foreign hname t =>
      apply chosen?_congr (override?_withVariable ..)
      intro _
      exact fromEnvironment?_withVariable_ne s (hname setting).symm t

theorem chosen?_edits (h : Relation.ReflTransGen Edit s s') (setting : Setting) : s'.chosen? setting = s.chosen? setting := by
  induction h with
  | refl => rfl
  | tail _ hedit ih => exact (hedit.chosen? setting).trans ih

end Sources

namespace Settings

variable {s : Sources} {settings : Settings}

/-- The grace period is the chosen one, and the time limit of outbound calls where none is chosen. -/
theorem Determined.gracePeriod (h : Determined s settings) :
    (∀ v, s.Chooses .shutdownGrace (some v) → acceptNonNegative v = .ok settings.gracePeriod) ∧
      (s.Chooses .shutdownGrace none → settings.gracePeriod = settings.httpTimeout) := by
  have hgrace := h.shutdownGrace
  generalize hshutdown : settings.shutdownGrace = grace at hgrace
  cases hgrace with
  | @chosen v _ hv haccept =>
      constructor
      · intro w hw
        have hvw : w = v := by
          rw [Sources.chooses_iff] at hv hw
          exact Option.some.inj (hw.symm.trans hv)
        obtain ⟨x, hx, rfl⟩ := Json.map_eq_ok_iff.1 haccept
        rw [hvw, hx, Settings.gracePeriod, hshutdown]
        rfl
      · intro hnone
        rw [Sources.chooses_iff] at hv hnone
        rw [hv] at hnone
        cases hnone
  | default hnone =>
      constructor
      · intro w hw
        rw [Sources.chooses_iff] at hw hnone
        rw [hw] at hnone
        cases hnone
      · intro _
        rw [Settings.gracePeriod, hshutdown]
        rfl

/-- The value of every setting, and what cannot be seen of the sources. -/
structure Precedence (s : Sources) : Prop where
  /-- One value is chosen for each setting: its override, else its variable, else none. -/
  chosen : ∀ setting, ∃! c, s.Chooses setting c
  /-- Loading succeeds with the settings that the chosen values and the defaults determine, -/
  loaded : ∀ settings, load s = .ok settings ↔ Determined s settings
  /-- and fails exactly if a chosen value is refused, with one issue for each such value, under the name of its setting. -/
  refused : (∃ e, load s = .error e) ↔ ∃ setting v, s.Chooses setting (some v) ∧ setting.fault? v ≠ none
  error : ∀ e, load s = .error e → e = .invalid s.issues
  /-- The grace period is the chosen one, and the time limit of outbound calls where none is chosen. -/
  grace : ∀ settings, load s = .ok settings →
    (∀ v, s.Chooses .shutdownGrace (some v) → acceptNonNegative v = .ok settings.gracePeriod) ∧
      (s.Chooses .shutdownGrace none → settings.gracePeriod = settings.httpTimeout)
  /-- Changes that cannot be seen leave what is loaded, or the error, as it is. -/
  edits : ∀ s', Relation.ReflTransGen Sources.Edit s s' → load s' = load s

/-- **The precedence of settings**, for all overrides and environments. -/
theorem load_precedence (s : Sources) : Precedence s where
  chosen := fun setting => ⟨s.chosen? setting, Sources.chooses_iff.2 rfl, fun c hc => (Sources.chooses_iff.1 hc).symm⟩
  loaded := fun settings => load_ok_iff
  refused := by
    rw [← Sources.issues_ne_nil_iff]
    constructor
    · rintro ⟨e, he⟩
      exact (load_error_iff.1 he).2
    · intro hne
      exact ⟨_, load_error_iff.2 ⟨rfl, hne⟩⟩
  error := fun e he => (load_error_iff.1 he).1
  grace := fun settings h => (load_ok_iff.1 h).gracePeriod
  edits := by
    intro s' h
    exact load_congr (Sources.chosen?_edits h)

-- an empty text is an override, but no variable
example : load ⟨[("WEBMAN_LOG_LEVEL", "DEBUG")], [("log_level", .str "")]⟩ = .ok { default with logLevel := "" } := by rfl

example : load ⟨[("WEBMAN_LOG_LEVEL", "")], [("log_level", .null)]⟩ = .ok default := by rfl

end Settings

end WebhookBridge
