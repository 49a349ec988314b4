import WebhookBridge.Text.Basic

/-!
# Log events

What is reported on the way: a level, the part of the bridge that speaks, and a message.
-/

namespace WebhookBridge

/-- The levels of log events, from the least urgent on. -/
inductive LogLevel where
  | debug
  | info
  | warning
  | error
  deriving DecidableEq, Repr

/-- The name of a level. -/
def LogLevel.name : LogLevel → Text
  | .debug => "DEBUG"
  | .info => "INFO"
  | .warning => "WARNING"
  | .error => "ERROR"

/-- The rank of a level. -/
def LogLevel.rank : LogLevel → Nat
  | .debug => 0
  | .info => 1
  | .warning => 2
  | .error => 3

/-- The parts of the bridge that report. -/
inductive LogSource where
  | relay
  | dispatch
  | tasks
  | runtime
  | ingress
  | server
  | service
  deriving DecidableEq, Repr

/-- The name of a part that reports. -/
def LogSource.name : LogSource → Text
  | .relay => "webman.relay.client"
  | .dispatch => "webman.dispatch.engine"
  | .tasks => "webman.tasks"
  | .runtime => "webman.runtime.memory"
  | .ingress => "webman.webhook.ingress"
  | .server => "webman.webhook.server"
  | .service => "webman.service"

/-- A log event. -/
structure LogEvent where
  level : LogLevel
  source : LogSource
  message : Text
  deriving DecidableEq, Repr

end WebhookBridge
