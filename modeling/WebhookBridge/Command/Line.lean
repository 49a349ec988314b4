import WebhookBridge.Command.Serve
import WebhookBridge.Command.Single

/-!
# The command line

The first words are options of the whole program, then comes a command with its own options and arguments. The log
level is an option, else a variable, else the level of informative events.

## Contents

* `programSpec`: the program;
* `logLevelOf`: the level that is asked for;
* `runPost`, `runBatch`, `runServe`: the commands on their words;
* `runLine`: a whole line.
-/

namespace WebhookBridge

/-- The option for the level of log events. -/
def logLevelOption : OptionSpec := ⟨"--log-level", .choice ["debug", "info", "warning", "error"], "Log level."⟩

/-- The program. -/
def programSpec : CommandSpec where
  name := "webman"
  summary := "Webhook and HTTP POST bridge for a task runtime."
  options := [logLevelOption]
  arguments := "COMMAND [ARGS]..."
  mixesOptions := false
  commands := [("batch", batchSpec.summary), ("post", postSpec.summary), ("serve", serveSpec.summary)]

/-- The level of a lower-case word; events are informative unless they are said to be something else. -/
def LogLevel.ofWord (word : Text) : LogLevel :=
  if word = ("debug" : Text) then .debug
  else if word = ("warning" : Text) then .warning
  else if word = ("error" : Text) then .error
  else .info

/-- The level that is asked for. -/
def logLevelOf (world : World) (found : Scanned) : Except UsageFault LogLevel :=
  let asked := match found.last? logLevelOption.name with
    | some value => some value
    | none => Sources.fromEnvironment? ⟨world.environment, []⟩ .logLevel
  match asked with
  | none => .ok .info
  | some value => do
    match ← logLevelOption.accept value with
    | .text word => return .ofWord word
    | .number _ => return .info

/-- The checked options and the operands of a command's words, unless its help page is asked for. -/
def withWords (spec : CommandSpec) (words : List Text)
    (run : List (Text × OptionValue) → List Text → Except UsageFault CommandReport) : CommandReport :=
  let result : Except UsageFault CommandReport := do
    let found ← spec.scan words .empty
    if found.asksHelp then return .help spec
    run (← found.checked spec) found.operands
  match result with
  | .ok report => report
  | .error fault => .misuse spec fault

/-- The command that makes a single call, on its words. -/
def runPost (world : World) (words : List Text) : CommandReport :=
  withWords postSpec words fun values operands => match operands with
    | [] => .error (.missingArgument "URL")
    | [url] => .ok (postCommand world url ((textOf? values "--data").getD "null")
        ((numberOf? values "--timeout").getD Settings.defaultTimeout))
    | _ :: others => .error (.extraArguments others)

/-- The command that makes the calls of a file, on its words. -/
def runBatch (world : World) (words : List Text) : CommandReport :=
  withWords batchSpec words fun values operands => match operands with
    | [] => .error (.missingArgument "BATCH_FILE")
    | path :: others => match world.file path with
      | .missing => .error (.noFile "BATCH_FILE" path)
      | .directory => .error (.isDirectory "BATCH_FILE" path)
      | .file content =>
        if others.isEmpty then
          .ok (batchCommand world path content ((numberOf? values "--timeout").getD Settings.defaultTimeout))
        else .error (.extraArguments others)

/-- The command that serves, on its words. -/
def runServe (world : World) (level : LogLevel) (words : List Text) : CommandReport :=
  withWords serveSpec words fun values operands =>
    if operands.isEmpty then .ok (serveCommand world values level) else .error (.extraArguments operands)

/-- A command on its words. -/
def runCommand (world : World) (level : LogLevel) (name : Text) (words : List Text) : CommandReport :=
  if name = ("post" : Text) then runPost world words
  else if name = ("batch" : Text) then runBatch world words
  else if name = ("serve" : Text) then runServe world level words
  else .misuse programSpec (if looksLikeOption name then .noOption (reportedName name (splitAttached name).1)
    else .noCommand name)

/-- A whole line. Without a single word the help page is shown as an error. -/
def runLine (world : World) (words : List Text) : CommandReport :=
  if words.isEmpty then { CommandReport.exit 2 with errors := programSpec.help }
  else match programSpec.scan words .empty with
    | .error fault => .misuse programSpec fault
    | .ok found =>
      if found.asksHelp then .help programSpec
      else match logLevelOf world found with
        | .error fault => .misuse programSpec fault
        | .ok level => match found.operands with
          | [] => .misuse programSpec .missingCommand
          | name :: rest => (runCommand world level name rest).atLevel level

end WebhookBridge
