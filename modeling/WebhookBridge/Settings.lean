import WebhookBridge.Number.Decimal
import WebhookBridge.Validation

/-!
# Settings

The settings of the service. Each has a value from the first source that offers one: an explicit override, an
environment variable that is not empty, a default. Only the values so chosen are validated, and all faults are
reported together.

## Contents

* `Setting`: the six settings, their names and variables;
* `Sources`: overrides and environment, and the value that they choose for a setting;
* `Settings`, `Settings.ofSources`: validated settings;
* `Settings.gracePeriod`: how long a shutdown waits.
-/

namespace WebhookBridge

/-! ## The six settings -/

/-- A setting. -/
inductive Setting where
  | endpoint
  | address
  | httpTimeout
  | shutdownGrace
  | logLevel
  | runtime
  deriving DecidableEq, Repr

/-- All settings, in the order in which their faults are reported. -/
def Setting.all : List Setting := [.endpoint, .address, .httpTimeout, .shutdownGrace, .logLevel, .runtime]

/-- The name under which a setting is overridden and reported. -/
def Setting.name : Setting → Text
  | .endpoint => "webhook_endpoint"
  | .address => "webhook_addr"
  | .httpTimeout => "http_timeout"
  | .shutdownGrace => "shutdown_grace"
  | .logLevel => "log_level"
  | .runtime => "runtime"

/-- The environment variable of a setting. -/
def Setting.variable : Setting → Text
  | .endpoint => "WEBMAN_WEBHOOK_ENDPOINT"
  | .address => "WEBMAN_WEBHOOK_ADDR"
  | .httpTimeout => "WEBMAN_HTTP_TIMEOUT"
  | .shutdownGrace => "WEBMAN_SHUTDOWN_GRACE"
  | .logLevel => "WEBMAN_LOG_LEVEL"
  | .runtime => "WEBMAN_RUNTIME"

/-! ## Sources -/

/-- Where values of settings come from. -/
structure Sources where
  environment : Table Text
  overrides : Table Json

namespace Sources

/-- The override of a setting; a null is none. -/
def override? (s : Sources) (setting : Setting) : Option Json :=
  match s.overrides.get? setting.name with
  | some .null => none
  | found => found

/-- The variable of a setting; an empty one is none. -/
def fromEnvironment? (s : Sources) (setting : Setting) : Option Text :=
  match s.environment.get? setting.variable with
  | some [] => none
  | found => found

/-- The value chosen for a setting; none where the default holds. -/
def chosen? (s : Sources) (setting : Setting) : Option Json :=
  match s.override? setting with
  | some v => some v
  | none => (s.fromEnvironment? setting).map .str

end Sources

/-! ## Validation of single values -/

/-- A value as a text: any text is one, with surrogates or without. -/
def acceptText : Json → Except IssueKind Text
  | .str s => .ok s
  | _ => .error .notAString

/-- A value as a floating-point number: a number, a truth value, or a text of characters that writes a number. -/
def acceptNumber : Json → Except IssueKind Binary64
  | .float x => .ok x
  | .bool b => .ok (Binary64.ofInt (if b then 1 else 0))
  | .int n => if (Binary64.ofInt n).isFinite then .ok (Binary64.ofInt n) else .error .notANumber
  | .str s =>
    if s.hasSurrogate then .error .notUnicode
    else match readFloat? s with
      | some x => .ok x
      | none => .error .unparsableNumber
  | _ => .error .notANumber

/-- The number zero. -/
def Binary64.positiveZero : Binary64 := .zero false

/-- A value as a number greater than zero. -/
def acceptPositive (v : Json) : Except IssueKind Binary64 := do
  let x ← acceptNumber v
  if Binary64.positiveZero.lt x then .ok x else .error .notPositive

/-- A value as a number that is at least zero. -/
def acceptNonNegative (v : Json) : Except IssueKind Binary64 := do
  let x ← acceptNumber v
  if Binary64.positiveZero.le x then .ok x else .error .negative

/-! ## Settings -/

/-- Validated settings. -/
structure Settings where
  endpoint : Text
  address : Text
  httpTimeout : Binary64
  shutdownGrace : Option Binary64
  logLevel : Text
  runtime : Option Text
  deriving DecidableEq, Repr

namespace Settings

/-- The time limit of outbound calls unless one is set: ten seconds. -/
def defaultTimeout : Binary64 := Binary64.ofInt 10

/-- The settings where nothing is set. -/
def default : Settings where
  endpoint := "/webhook"
  address := ":4000"
  httpTimeout := defaultTimeout
  shutdownGrace := none
  logLevel := "INFO"
  runtime := none

/-- The chosen value of a setting, validated by `accept`; the default if none is chosen. -/
def field {α : Type} (sources : Sources) (setting : Setting) (accept : Json → Except IssueKind α) (default : α) :
    Except Issue α :=
  match sources.chosen? setting with
  | none => .ok default
  | some v => (accept v).mapError fun kind => ⟨kind, [.key setting.name], v⟩

/-- The issue of a field, if it has one. -/
def issueOf {α : Type} : Except Issue α → List Issue
  | .ok _ => []
  | .error i => [i]

/-- The settings that the sources choose, or the issues of all values that are not valid. -/
def ofSources (sources : Sources) : Except (List Issue) Settings :=
  let endpoint := field sources .endpoint acceptText default.endpoint
  let address := field sources .address acceptText default.address
  let httpTimeout := field sources .httpTimeout acceptPositive default.httpTimeout
  let shutdownGrace := field sources .shutdownGrace (fun v => (acceptNonNegative v).map some) default.shutdownGrace
  let logLevel := field sources .logLevel acceptText default.logLevel
  let runtime := field sources .runtime (fun v => (acceptText v).map some) default.runtime
  match endpoint, address, httpTimeout, shutdownGrace, logLevel, runtime with
  | .ok endpoint, .ok address, .ok httpTimeout, .ok shutdownGrace, .ok logLevel, .ok runtime =>
    .ok { endpoint, address, httpTimeout, shutdownGrace, logLevel, runtime }
  | _, _, _, _, _, _ =>
    .error (issueOf endpoint ++ issueOf address ++ issueOf httpTimeout ++ issueOf shutdownGrace ++
      issueOf logLevel ++ issueOf runtime)

/-- How long a shutdown waits for what is in flight: the grace period, or else the time limit of outbound calls. -/
def gracePeriod (s : Settings) : Binary64 := s.shutdownGrace.getD s.httpTimeout

end Settings

/-! ## Errors -/

/-- Why the service does not start with its settings. -/
inductive ConfigurationError where
  /-- Values that are not valid. -/
  | invalid (issues : List Issue)
  /-- The endpoint or the address is empty. -/
  | webhookNotSet
  /-- The runtime that the settings name cannot be loaded. -/
  | runtimeNotLoaded (path reason : Text)

/-- The text of a configuration error. -/
def ConfigurationError.message : ConfigurationError → Text
  | .invalid issues => ("invalid configuration: " : Text) ++ report "ServiceConfig" issues
  | .webhookNotSet => "webhook configurations not set"
  | .runtimeNotLoaded path reason => ("cannot load runtime " : Text) ++ path.quoted ++ ": " ++ reason

/-- The settings that the sources choose. -/
def Settings.load (sources : Sources) : Except ConfigurationError Settings :=
  (Settings.ofSources sources).mapError .invalid

end WebhookBridge
