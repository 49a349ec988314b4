import WebhookBridge.Command.Help
import WebhookBridge.Component.Catalogue
import WebhookBridge.Service.Lifecycle

/-!
# What a command comes to

A command ends with an exit code, after writing a page of output, lines of errors and log events. What it cannot
answer for escapes from it.

## Contents

* `FileEntry`, `Guest`, `World`: what a command finds around it;
* `Escape`: what escapes from a command;
* `CommandReport`: what a command comes to.
-/

namespace WebhookBridge

/-! ## The world around -/

/-- What stands under a path. -/
inductive FileEntry where
  | missing
  | directory
  | file (content : Octets)
  deriving DecidableEq, Repr

/-- A runtime that a factory has made: how it behaves, whether it is closed from the start, and whether it asks the
    process to stop as soon as the service listens. -/
structure Guest where
  conduct : RuntimeConduct
  isClosed : Bool
  interrupts : Bool

/-- The runtime within the process. -/
def Guest.memory : Guest := ⟨.sound, false, false⟩

/-- What a command finds around it: variables, files, the network, and the components that can be loaded with what
    their factories make. -/
structure World where
  environment : Table Text
  file : Text → FileEntry
  surroundings : Surroundings
  catalogue : Catalogue
  make : (origin : Text) → Except Defect Guest

/-! ## Reports -/

/-- What escapes from a command. -/
inductive Escape where
  /-- A defect was met while calls were made or their results written. -/
  | defect (d : Defect)
  /-- A file is no text. -/
  | undecodable (fault : DecodeFault)
  /-- A component cannot be looked up. -/
  | loading (fault : LoadFault)
  /-- A factory failed. -/
  | factory (d : Defect)
  /-- The endpoint is no route. -/
  | route (e : RouteError)
  /-- A run of the service failed with something that is none of its own faults. -/
  | service (fault : ServiceFault)

/-- What a command comes to: its exit code, or none while it goes on; the page of output; lines of errors; what was
    logged and sent; and what escaped. -/
structure CommandReport where
  exitCode : Option Nat
  output : Text
  errors : List Text
  log : List LogEvent
  sent : List HttpRequest
  escaped : Option Escape

namespace CommandReport

/-- A command that has written nothing, with an exit code. -/
def exit (code : Nat) : CommandReport := ⟨some code, [], [], [], [], none⟩

/-- The lines of a text. -/
def linesOf (t : Text) : List Text := t.splitOn (CodePoint.ofChar '\n')

/-- A page of output: a text and the end of its line. -/
def page (code : Nat) (t : Text) : CommandReport := { exit code with output := t ++ "\n" }

/-- A command that fails with a message. -/
def failure (message : Text) : CommandReport := { exit 1 with errors := linesOf (("Error: " : Text) ++ message) }

/-- A command that is misused. -/
def misuse (spec : CommandSpec) (fault : UsageFault) : CommandReport :=
  { exit 2 with errors := (spec.usageLines fault).flatMap linesOf }

/-- The help page of a command. -/
def help (spec : CommandSpec) : CommandReport := page 0 (Text.join "\n" spec.help)

/-- A command from which something escapes. -/
def escape (e : Escape) : CommandReport := { exit 1 with escaped := some e }

/-- The report with what was logged and sent. -/
def during (r : CommandReport) (log : List LogEvent) (sent : List HttpRequest) : CommandReport :=
  { r with log := log, sent := sent }

/-- The report of a value that is written out, or of what prevents it. -/
def printed (code : Nat) (style : Json.Style) (v : Json) : CommandReport :=
  match Json.print style v with
  | .ok t => page code t
  | .error .tooDeep => escape (.defect .tooDeep)
  | .error fault => escape (.defect (.unprintable fault.message))

/-- The report of a payload that is dumped and written out. -/
def payload (code : Nat) (style : Json.Style) (p : Payload) : CommandReport :=
  match p.dump with
  | .error fault => escape (.defect (.undumpable fault))
  | .ok v => printed code style v

/-- The report with the log events of a level and above. -/
def atLevel (r : CommandReport) (level : LogLevel) : CommandReport :=
  { r with log := r.log.filter fun e => level.rank ≤ e.level.rank }

end CommandReport

end WebhookBridge
