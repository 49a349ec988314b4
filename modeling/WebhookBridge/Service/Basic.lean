import WebhookBridge.Server.Lifecycle
import WebhookBridge.Settings
import WebhookBridge.Webhook.Publishing

/-!
# The service

The service joins a webhook server, a task runtime and a client for outbound calls. A run starts the server, listens for
tasks and waits for the server to end; whichever of these two sides ends first ends the run, which then closes
everything. Closing is done once: all who ask for it wait for the same end.

## Contents

* `RuntimeConduct`: how a runtime behaves when it is listened to and closed;
* `SetupFault`, `ServiceFault`: why a service cannot be made, and why a run or a closing fails;
* `ClosingState`, `CloseCall`: the one closing, and those who wait for it;
* `ListenSide`, `WaitSide`, `Sides`, `RunCall`: a run and its sides;
* `Service`, `Service.create`: the whole state, and the service before anything happened.
-/

namespace WebhookBridge

/-! ## Runtimes -/

/-- How a runtime behaves: what listening for tasks fails with at once, if it does; whether closing ends those who
    listen; what closing fails with after it has closed, if it does. -/
structure RuntimeConduct where
  listenFault : Option Defect
  endsListeners : Bool
  closeFault : Option Defect

/-- A runtime that does what it should. -/
def RuntimeConduct.sound : RuntimeConduct := ⟨none, true, none⟩

/-! ## Faults -/

/-- Why a service cannot be made. -/
inductive SetupFault where
  | configuration (e : ConfigurationError)
  | route (e : RouteError)

/-- The text of a setup fault. -/
def SetupFault.message : SetupFault → Text
  | .configuration e => e.message
  | .route e => e.message

/-- Why a run or a closing fails: the server's fault, or a defect of the side that listens for tasks. -/
inductive ServiceFault where
  | server (fault : ServerFault)
  | listening (defect : Defect)

/-- The text of a service fault. -/
def ServiceFault.message : ServiceFault → Text
  | .server fault => fault.message
  | .listening defect => defect.message

/-! ## Closing -/

/-- The one closing of a service: it has been asked for, it waits for the server to stop, or it has ended. -/
inductive ClosingState where
  | requested
  | stoppingServer (call : Nat)
  | ended (result : Except ServiceFault Unit)

/-- Somebody who asked for the closing: they wait for its end, have given up, or have learnt of it. -/
inductive CloseCall where
  | waiting
  | cancelled
  | ended (result : Except ServiceFault Unit)

/-! ## Runs -/

/-- The side of a run that listens for tasks: it is about to begin, listens, has returned or failed by itself, or was
    cancelled. -/
inductive ListenSide where
  | fresh
  | listening (listener : Nat)
  | returned
  | failed (defect : Defect)
  | cancelled

/-- The side of a run that waits for the server to end: it is about to begin, waits, or was cancelled. -/
inductive WaitSide where
  | fresh
  | waiting (call : Nat)
  | cancelled

/-- The two sides of a run. -/
structure Sides where
  listen : ListenSide
  wait : WaitSide

/-- A run: it waits for the server to start, serves, waits for the closing with its outcome settled, lingers until both
    sides have ended, or has ended. -/
inductive RunCall where
  | starting (call : Nat)
  | serving (sides : Sides)
  | closing (outcome : Except ServiceFault Unit) (sides : Option Sides)
  | lingering (outcome : Except ServiceFault Unit) (sides : Sides)
  | ended (outcome : Except ServiceFault Unit) (sides : Option Sides)

/-! ## The state -/

/-- What a service works in: what binds addresses, and the relay that calls go through. -/
structure Surroundings where
  bind : Binder
  relay : Relay HttpSession

/-- A service: its parts, whether the client is its own, the closing, those who asked for it, its runs, how often it has
    closed the runtime and the client, and what was logged. -/
structure Service where
  settings : Settings
  app : WebApp
  conduct : RuntimeConduct
  ownsClient : Bool
  server : WebhookServer
  runtime : TaskRuntime HttpSession
  closing : Option ClosingState
  closers : List CloseCall
  runs : List RunCall
  runtimeClosings : Nat
  clientClosings : Nat
  log : List LogEvent

namespace Service

/-- The service with its settings, before anything happened. It calls through the client that is given to it, or else
    makes one of its own. -/
def create (settings : Settings) (conduct : RuntimeConduct) (capacity : Nat) (given : Option HttpSession) :
    Except SetupFault Service :=
  if settings.endpoint.isEmpty || settings.address.isEmpty then .error (.configuration .webhookNotSet)
  else match WebApp.create settings.endpoint with
    | .error e => .error (.route e)
    | .ok app => .ok {
        settings := settings
        app := app
        conduct := conduct
        ownsClient := given.isNone
        server := .new settings.address settings.logLevel
        runtime := .new capacity (given.getD (HttpSession.new settings.httpTimeout))
        closing := none
        closers := []
        runs := []
        runtimeClosings := 0
        clientClosings := 0
        log := [] }

/-- The service with what its parts have logged moved to its own log. -/
def gather (s : Service) : Service :=
  { s with
    log := s.log ++ s.runtime.log ++ s.server.log
    runtime := { s.runtime with log := [] }
    server := { s.server with log := [] } }

/-- The service with another state of a run. -/
def setRun (s : Service) (i : Nat) (run : RunCall) : Service := { s with runs := s.runs.set i run }

/-- The service with another state of somebody who asked for the closing. -/
def setCloser (s : Service) (i : Nat) (call : CloseCall) : Service := { s with closers := s.closers.set i call }

/-- The service with another state of the closing. -/
def setClosing (s : Service) (state : ClosingState) : Service := { s with closing := some state }

/-- The service after its server has changed. -/
def onServer (s : Service) (f : WebhookServer → WebhookServer) : Service := { s with server := f s.server }.gather

/-- The service after its runtime has changed. -/
def onRuntime (s : Service) (f : TaskRuntime HttpSession → TaskRuntime HttpSession) : Service :=
  { s with runtime := f s.runtime }.gather

/-- How the closing ended, if it has. -/
def closingResult? (s : Service) : Option (Except ServiceFault Unit) :=
  match s.closing with
  | some (.ended result) => some result
  | _ => none

end Service

end WebhookBridge
