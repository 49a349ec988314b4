import WebhookBridge.Command.Report
import WebhookBridge.Component.Installed

/-!
# Serving

The command that runs the service until its runtime closes, the server stops or the process is asked to stop.

## Contents

* `serveSpec`: the command;
* `makeInstalled`, `guestOf`: the runtime that the settings name;
* `Service.serve`: a whole run, with the time that it takes passing at once;
* `serveCommand`: the command and what it comes to.
-/

namespace WebhookBridge

/-- The command that serves. -/
def serveSpec : CommandSpec where
  name := "webman serve"
  summary := "Run the service until SIGINT or SIGTERM."
  options :=
    [⟨"--endpoint", .text, "Webhook path, e.g. /webhook."⟩, ⟨"--addr", .text, "Webhook listen address, e.g. :4000."⟩,
      ⟨"--timeout", .number, "Outbound HTTP timeout in seconds."⟩,
      ⟨"--grace", .number, "Shutdown grace period in seconds."⟩,
      ⟨"--runtime", .text, "Runtime factory as module:callable."⟩]
  arguments := []
  mixesOptions := true
  commands := []

/-- The settings that override the environment. -/
def serveOverrides (values : List (Text × OptionValue)) (level : LogLevel) : Table Json :=
  let text (setting : Setting) (option : Text) : Table Json :=
    ((textOf? values option).map fun t => (setting.name, Json.str t)).toList
  let number (setting : Setting) (option : Text) : Table Json :=
    ((numberOf? values option).map fun x => (setting.name, Json.float x)).toList
  text .endpoint "--endpoint" ++ text .address "--addr" ++ number .httpTimeout "--timeout" ++
    number .shutdownGrace "--grace" ++ text .runtime "--runtime" ++ [(Setting.logLevel.name, .str level.name)]

/-- The report of a configuration that is not accepted. -/
def misconfigured (e : ConfigurationError) : CommandReport := .failure e.message

/-- What an installed factory makes. Only the factory of runtimes within the process makes a runtime. -/
def makeInstalled (origin : Text) : Except Defect Guest :=
  if origin = Catalogue.memoryRuntime then .ok .memory else .error (.other (origin ++ " makes no runtime"))

/-- The runtime that the settings name: the one within the process unless they name another. -/
def guestOf (world : World) (settings : Settings) : Except CommandReport Guest :=
  match settings.runtime with
  | none => .ok .memory
  | some path => match world.catalogue.loadFactory path with
    | .error (.relative name) => .error (.escape (.loading (.relative name)))
    | .error fault => .error (misconfigured (.runtimeNotLoaded path fault.message))
    | .ok origin => (world.make origin).mapError fun d => .escape (.factory d)

/-- Everything for which time has to pass happens: embedded servers that were asked to end do so, outbound calls come to
    their limit, and runs that linger to the end of their grace. -/
def Service.letTimePass (env : Surroundings) (s : Service) : Service :=
  let s := s.settleServer env
  let s := (s.onRuntime TaskRuntime.expire).settle env
  ((List.range s.runs.length).foldl Service.graceOver s).settle env

/-- A whole run of a service over a guest. -/
def Service.serve (env : Surroundings) (guest : Guest) (s : Service) : Service :=
  let s := if guest.isClosed then s.closeRuntime else s
  let s := (s.run env.bind).settle env
  let s := if guest.interrupts && s.server.state = .listening then s.close.settle env else s
  s.letTimePass env

/-- What a run comes to. -/
def reportRun (s : Service) : CommandReport :=
  let report : CommandReport := match s.runs.getLast? with
    | some (.ended (.ok ()) _) => { CommandReport.exit 0 with errors := ["gracefully stopped"] }
    | some (.ended (.error (.server fault)) _) =>
      if fault.isOwn then .failure fault.message else .escape (.service (.server fault))
    | some (.ended (.error fault) _) => .escape (.service fault)
    | _ => { CommandReport.exit 0 with exitCode := none }
  report.during s.log s.runtime.relay.sent

/-- The command that serves, with checked options. -/
def serveCommand (world : World) (values : List (Text × OptionValue)) (level : LogLevel) : CommandReport :=
  match Settings.load ⟨world.environment, serveOverrides values level⟩ with
  | .error e => misconfigured e
  | .ok settings => match guestOf world settings with
    | .error report => report
    | .ok guest => match Service.create settings guest.conduct EventStore.defaultCapacity none with
      | .error (.configuration e) => misconfigured e
      | .error (.route e) => .escape (.route e)
      | .ok s => reportRun (s.serve world.surroundings guest)

end WebhookBridge
