import WebhookBridge.Proofs.Command.Endings

/-!
# The lines that serve

A line that serves names a level of log events, or finds one, and gives the command its options. Every combination of the
options makes such a line, in any order and each as often as one likes, provided that its numbers are well-formed. What the
line comes to is what the command comes to.

## Contents

* `World.ServesOn`, `runLine_of_servesOn`: lines that serve;
* `ServeOptions`, `serveWords`: combinations of the options, and their words;
* `servesOn_serveWords`, `misused_serveWords`: what becomes of them.
-/

namespace WebhookBridge

variable {world : World} {line : List Text} {values : List (Text × OptionValue)} {level : LogLevel}

/-! ## Lines that serve -/

/-- **A line that serves**: its first words ask for a level of log events at most, the command is the one that serves, and the
    words behind it are options whose values can be read. -/
structure World.ServesOn (world : World) (line : List Text) (values : List (Text × OptionValue)) (level : LogLevel) : Prop where
  scans : ∃ (top found : Scanned) (words : List Text), programSpec.scan line .empty = .ok top ∧ top.asksHelp = false ∧
    logLevelOf world top = .ok level ∧ top.operands = ("serve" : Text) :: words ∧ serveSpec.scan words .empty = .ok found ∧
    found.asksHelp = false ∧ found.operands = [] ∧ found.checked serveSpec = .ok values

/-- Such a line comes to what the command comes to. -/
theorem runLine_of_servesOn (h : world.ServesOn line values level) :
    runLine world line = (serveCommand world values level).atLevel level := by
  obtain ⟨top, found, words, hline, hhelp, hlevel, hwords, hscan, hnohelp, hoperands, hvalues⟩ := h.scans
  have hserve : runServe world level words = serveCommand world values level := by
    rw [runServe, withWords_eq hscan hnohelp, hvalues]
    simp only [hoperands, List.isEmpty_nil, if_true]
  have hpost : ¬ ("serve" : Text) = "post" := by decide
  have hbatch : ¬ ("serve" : Text) = "batch" := by decide
  have hcommand : runCommand world level "serve" words = runServe world level words := by
    rw [runCommand, if_neg hpost, if_neg hbatch, if_pos rfl]
  have hne : line ≠ [] := by
    rintro rfl
    cases hline
    cases hwords
  rw [runLine, if_neg (by simpa using hne), hline]
  simp only [hhelp, Bool.false_eq_true, if_false, hlevel, hwords, hcommand, hserve]

/-! ## Combinations of the options -/

/-- The words of a line that gives options with their values. -/
def serveWords (options : List (Text × Text)) : List Text := "serve" :: options.flatMap fun o => [o.1, o.2]

/-- **A combination of the options** with well-formed numbers. -/
structure ServeOptions (options : List (Text × Text)) : Prop where
  known : ∀ o ∈ options, o.1 ∈ serveSpec.options.map (·.name)
  numbers : ∀ o ∈ options, o.1 = "--timeout" ∨ o.1 = "--grace" → (readLenientFloat? o.2).isSome

/-- The names of the options are words for them. -/
theorem isOption_serve {name : Text} (h : name ∈ serveSpec.options.map (·.name)) : ∃ o, serveSpec.IsOption name o := by
  simp only [serveSpec, List.map_cons, List.map_nil, List.mem_cons, List.not_mem_nil, or_false] at h
  rcases h with rfl | rfl | rfl | rfl | rfl
  all_goals exact ⟨_, ⟨by decide, by decide, by decide, by decide, rfl⟩⟩

/-- Options with their values are found one after the other. -/
theorem scan_options (options : List (Text × Text)) (hknown : ∀ o ∈ options, o.1 ∈ serveSpec.options.map (·.name))
    (found : Scanned) :
    serveSpec.scan (options.flatMap fun o => [o.1, o.2]) found = .ok { found with given := found.given ++ options } := by
  induction options generalizing found with
  | nil => simp [CommandSpec.scan]
  | cons o options ih =>
      obtain ⟨hfirst, hrest⟩ := List.forall_mem_cons.1 hknown
      obtain ⟨option, hoption⟩ := isOption_serve hfirst
      show serveSpec.scan (o.1 :: o.2 :: options.flatMap fun o => [o.1, o.2]) found = _
      rw [CommandSpec.scan_option hoption, ih hrest]
      simp [List.append_assoc]

/-- A value that was found for an option was given for it. -/
theorem Scanned.mem_of_last? {found : Scanned} {name value : Text} (h : found.last? name = some value) :
    (name, value) ∈ found.given := by
  obtain ⟨o, ho, rfl⟩ := Option.map_eq_some_iff.1 h
  have hname : o.1 = name := by simpa using List.find?_some ho
  rw [← hname]
  exact List.mem_reverse.1 (List.mem_of_find?_eq_some ho)

/-- Options whose values are all accepted are checked. -/
theorem Scanned.exists_checkNames {spec : CommandSpec} {found : Scanned} {names : List Text}
    (h : ∀ name o value, spec.option? name = some o → found.last? name = some value → ∃ v, o.accept value = .ok v) :
    ∃ values, found.checkNames spec names = .ok values := by
  induction names with
  | nil => exact ⟨[], rfl⟩
  | cons name names ih =>
      obtain ⟨values, hvalues⟩ := ih
      unfold checkNames
      split
      · rename_i o value ho hlast
        obtain ⟨v, hv⟩ := h name o value ho hlast
        exact ⟨(name, v) :: values, by simp [hv, hvalues, bind, Except.bind, pure, Except.pure]⟩
      · exact ⟨values, hvalues⟩

/-- The values of a combination of the options can be read. -/
theorem ServeOptions.exists_checked {options : List (Text × Text)} (h : ServeOptions options) :
    ∃ values, (⟨options, false, []⟩ : Scanned).checked serveSpec = .ok values := by
  refine Scanned.exists_checkNames fun name o value ho hlast => ?_
  have hgiven : (name, value) ∈ options := Scanned.mem_of_last? hlast
  have hname : o.name = name := by simpa using List.find?_some ho
  have hmem : o ∈ serveSpec.options := List.mem_of_find?_eq_some ho
  simp only [serveSpec, List.mem_cons, List.not_mem_nil, or_false] at hmem
  -- only the two numbers can be refused
  rcases hmem with rfl | rfl | rfl | rfl | rfl
  · exact ⟨_, rfl⟩
  · exact ⟨_, rfl⟩
  · obtain ⟨x, hx⟩ := Option.isSome_iff_exists.1 (h.numbers _ hgiven (Or.inl hname.symm))
    exact ⟨.number x, by simp only [OptionSpec.accept, hx]⟩
  · obtain ⟨x, hx⟩ := Option.isSome_iff_exists.1 (h.numbers _ hgiven (Or.inr hname.symm))
    exact ⟨.number x, by simp only [OptionSpec.accept, hx]⟩
  · exact ⟨_, rfl⟩

/-- **Every combination of the options** makes a line that serves, where a level of log events is found. -/
theorem servesOn_serveWords {options : List (Text × Text)} (h : ServeOptions options) (hlevel : world.level = .ok level) :
    ∃ values, world.ServesOn (serveWords options) values level := by
  obtain ⟨values, hvalues⟩ := h.exists_checked
  exact ⟨values, ⟨_, _, _, scan_command (by decide) _, rfl, hlevel, rfl, scan_options options h.known .empty, rfl, rfl, hvalues⟩⟩

/-- Where the level of log events that is set is none, the line is misused. -/
theorem misused_serveWords (options : List (Text × Text)) {fault : UsageFault} (hlevel : world.level = .error fault) :
    (runLine world (serveWords options)).Misused := by
  rw [serveWords, runLine_command world (by decide), hlevel]
  exact CommandReport.misused_misuse _ _

end WebhookBridge
