import WebhookBridge.Command.Line

/-!
# The words of one-off commands

A line for a single call names its data and its time limit as options and its URL behind two hyphens, so that no word is
taken for an option that is none; a line for a batch does the same with the path of its file. What such a line comes to is
what its command comes to, unless the time limit is no number or the level of log events no level.

## Contents

* `CommandSpec.IsOption`, `scan_option`, `scan_operands`: scanning options and operands;
* `postWords`, `batchWords`: the words of the two commands;
* `World.level`: the level of log events where the line names none;
* `runLine_postWords`, `runLine_batchWords`: what the lines come to.
-/

namespace WebhookBridge

/-! ## Scanning -/

/-- A word that stands for an option of a command, without a value. -/
structure CommandSpec.IsOption (spec : CommandSpec) (word : Text) (o : OptionSpec) : Prop where
  looks : looksLikeOption word = true
  goesOn : word ≠ "--"
  bare : splitAttached word = (word, none)
  noHelp : word ≠ helpOption
  found : spec.option? word = some o

namespace CommandSpec

variable {spec : CommandSpec}

/-- An option takes the next word as its value, whatever that looks like. -/
theorem scan_option {word : Text} {o : OptionSpec} (h : spec.IsOption word o) (value : Text) (rest : List Text)
    (found : Scanned) :
    spec.scan (word :: value :: rest) found = spec.scan rest { found with given := found.given ++ [(word, value)] } := by
  rw [scan, if_neg h.goesOn, if_pos h.looks, h.bare]
  simp only [h.noHelp, if_false, h.found]

/-- Behind two hyphens all words are operands. -/
theorem scan_operands (operands : List Text) (found : Scanned) :
    spec.scan ("--" :: operands) found = .ok { found with operands := found.operands ++ operands } := by
  rw [scan, if_pos rfl]

end CommandSpec

/-- A command on words that are scanned and ask for no help. -/
theorem withWords_eq {spec : CommandSpec} {words : List Text} {found : Scanned} (hscan : spec.scan words .empty = .ok found)
    (hhelp : found.asksHelp = false) (run : List (Text × OptionValue) → List Text → Except UsageFault CommandReport) :
    withWords spec words run = match found.checked spec with
      | .error fault => .misuse spec fault
      | .ok values => match run values found.operands with
        | .ok report => report
        | .error fault => .misuse spec fault := by
  simp only [withWords, hscan, hhelp, bind, Except.bind, Bool.false_eq_true, if_false]
  cases found.checked spec with
  | error fault => rfl
  | ok values => rfl

/-! ## The words -/

/-- The words of a single call. -/
def postWords (url data timeout : Text) : List Text := ["post", "--data", data, "--timeout", timeout, "--", url]

/-- The words of a batch. -/
def batchWords (path timeout : Text) : List Text := ["batch", "--timeout", timeout, "--", path]

theorem isOption_data : postSpec.IsOption "--data" ⟨"--data", .text, "JSON request body."⟩ :=
  ⟨by decide, by decide, by decide, by decide, rfl⟩

theorem isOption_timeout_post : postSpec.IsOption "--timeout" timeoutOption :=
  ⟨by decide, by decide, by decide, by decide, rfl⟩

theorem isOption_timeout_batch : batchSpec.IsOption "--timeout" timeoutOption :=
  ⟨by decide, by decide, by decide, by decide, rfl⟩

/-- What is found in the words of a single call. -/
def scannedPost (url data timeout : Text) : Scanned := ⟨[("--data", data), ("--timeout", timeout)], false, [url]⟩

/-- What is found in the words of a batch. -/
def scannedBatch (path timeout : Text) : Scanned := ⟨[("--timeout", timeout)], false, [path]⟩

theorem scan_postWords (url data timeout : Text) :
    postSpec.scan (postWords url data timeout).tail .empty = .ok (scannedPost url data timeout) := by
  rw [postWords, List.tail_cons, CommandSpec.scan_option isOption_data, CommandSpec.scan_option isOption_timeout_post,
    CommandSpec.scan_operands]
  rfl

theorem scan_batchWords (path timeout : Text) :
    batchSpec.scan (batchWords path timeout).tail .empty = .ok (scannedBatch path timeout) := by
  rw [batchWords, List.tail_cons, CommandSpec.scan_option isOption_timeout_batch, CommandSpec.scan_operands]
  rfl

theorem checked_scannedPost (url data timeout : Text) :
    (scannedPost url data timeout).checked postSpec = match readLenientFloat? timeout with
      | some x => .ok [("--data", .text data), ("--timeout", .number x)]
      | none => .error (.notANumber "--timeout" timeout) := by
  have hnames : (scannedPost url data timeout).names = [("--data" : Text), "--timeout"] := by
    have h : [("--data" : Text), "--timeout"].eraseDups = [("--data" : Text), "--timeout"] := by decide
    exact h
  have hdata : (scannedPost url data timeout).last? "--data" = some data := rfl
  have htimeout : (scannedPost url data timeout).last? "--timeout" = some timeout := rfl
  rw [Scanned.checked, hnames]
  simp only [Scanned.checkNames, isOption_data.found, isOption_timeout_post.found, hdata, htimeout, OptionSpec.accept,
    timeoutOption]
  cases readLenientFloat? timeout with
  | some x => rfl
  | none => rfl

theorem checked_scannedBatch (path timeout : Text) :
    (scannedBatch path timeout).checked batchSpec = match readLenientFloat? timeout with
      | some x => .ok [("--timeout", .number x)]
      | none => .error (.notANumber "--timeout" timeout) := by
  have hnames : (scannedBatch path timeout).names = [("--timeout" : Text)] := rfl
  have htimeout : (scannedBatch path timeout).last? "--timeout" = some timeout := rfl
  rw [Scanned.checked, hnames]
  simp only [Scanned.checkNames, isOption_timeout_batch.found, htimeout, OptionSpec.accept, timeoutOption]
  cases readLenientFloat? timeout with
  | some x => rfl
  | none => rfl

/-! ## The lines -/

/-- The level of log events where the line names none. -/
def World.level (world : World) : Except UsageFault LogLevel := logLevelOf world .empty

/-- The words of a line that begins with a command are that and what is left to it. -/
theorem scan_command {name : Text} (hname : looksLikeOption name = false) (words : List Text) :
    programSpec.scan (name :: words) .empty = .ok ⟨[], false, name :: words⟩ := by
  have hgo : name ≠ "--" := by
    rintro rfl
    revert hname
    decide
  rw [CommandSpec.scan, if_neg hgo, hname]
  rfl

/-- A line that begins with a command comes to what the command comes to, unless the level is none. -/
theorem runLine_command (world : World) {name : Text} (hname : looksLikeOption name = false) (words : List Text) :
    runLine world (name :: words) = match world.level with
      | .error fault => .misuse programSpec fault
      | .ok level => (runCommand world level name words).atLevel level := by
  have hscan := scan_command hname words
  have hlevel : logLevelOf world ⟨[], false, name :: words⟩ = world.level := rfl
  cases hcase : world.level with
  | error fault => simp only [runLine, List.isEmpty_cons, Bool.false_eq_true, if_false, hscan, hlevel, hcase]
  | ok level => simp only [runLine, List.isEmpty_cons, Bool.false_eq_true, if_false, hscan, hlevel, hcase]

/-- **The line of a single call.** -/
theorem runLine_postWords (world : World) (url data timeout : Text) :
    runLine world (postWords url data timeout) = match world.level with
      | .error fault => .misuse programSpec fault
      | .ok level => (match readLenientFloat? timeout with
        | none => CommandReport.misuse postSpec (.notANumber "--timeout" timeout)
        | some x => postCommand world url data x).atLevel level := by
  have hpost : runPost world (postWords url data timeout).tail = match readLenientFloat? timeout with
      | none => .misuse postSpec (.notANumber "--timeout" timeout)
      | some x => postCommand world url data x := by
    rw [runPost, withWords_eq (scan_postWords url data timeout) rfl, checked_scannedPost]
    cases readLenientFloat? timeout with
    | none => rfl
    | some x => rfl
  have hcommand : ∀ level, runCommand world level "post" (postWords url data timeout).tail =
      runPost world (postWords url data timeout).tail := fun level => if_pos rfl
  show runLine world ("post" :: (postWords url data timeout).tail) = _
  rw [runLine_command world (by decide)]
  simp only [hcommand, hpost]

/-- **The line of a batch.** -/
theorem runLine_batchWords (world : World) (path timeout : Text) :
    runLine world (batchWords path timeout) = match world.level with
      | .error fault => .misuse programSpec fault
      | .ok level => (match readLenientFloat? timeout with
        | none => CommandReport.misuse batchSpec (.notANumber "--timeout" timeout)
        | some x => match world.file path with
          | .missing => .misuse batchSpec (.noFile "BATCH_FILE" path)
          | .directory => .misuse batchSpec (.isDirectory "BATCH_FILE" path)
          | .file content => batchCommand world path content x).atLevel level := by
  have hbatch : runBatch world (batchWords path timeout).tail = match readLenientFloat? timeout with
      | none => .misuse batchSpec (.notANumber "--timeout" timeout)
      | some x => match world.file path with
        | .missing => .misuse batchSpec (.noFile "BATCH_FILE" path)
        | .directory => .misuse batchSpec (.isDirectory "BATCH_FILE" path)
        | .file content => batchCommand world path content x := by
    rw [runBatch, withWords_eq (scan_batchWords path timeout) rfl, checked_scannedBatch]
    cases readLenientFloat? timeout with
    | none => rfl
    | some x =>
        simp only [scannedBatch]
        cases world.file path with
        | missing => rfl
        | directory => rfl
        | file content => rfl
  have hne : ¬ ("batch" : Text) = "post" := by decide
  have hcommand : ∀ level, runCommand world level "batch" (batchWords path timeout).tail =
      runBatch world (batchWords path timeout).tail := by
    intro level
    rw [runCommand, if_neg hne, if_pos rfl]
  show runLine world ("batch" :: (batchWords path timeout).tail) = _
  rw [runLine_command world (by decide)]
  simp only [hcommand, hbatch]

end WebhookBridge
