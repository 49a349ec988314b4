import WebhookBridge.Component.Catalogue

/-!
# The installed components

The modules of the bridge and the modules that come with every installation, with their members. What a module takes
from another is listed under the name that it was defined under.

## Contents

* `Catalogue.defines`, `values`, `borrows`, `plain`, `package`: how modules are listed;
* `Catalogue.bridge`, `Catalogue.basis`, `Catalogue.installed`: the modules.
-/

namespace WebhookBridge.Catalogue

/-! ## Listing modules -/

/-- Members that a module defines and that can be called. -/
def defines (name : String) (members : List String) : Table Member :=
  members.map fun m => (Text.ofString m, .callable (Text.ofString name ++ [dot] ++ Text.ofString m))

/-- Members that are plain values. -/
def values (members : List String) : Table Member := members.map fun m => (Text.ofString m, .value)

/-- Members that can be called and that come from elsewhere under the full names given. -/
def borrows (members : List (String × String)) : Table Member :=
  members.map fun (m, origin) => (Text.ofString m, .callable (Text.ofString origin))

/-- Members that every module has. -/
def common : Table Member :=
  borrows [("__class__", "builtins.module")] ++
    values ["__name__", "__doc__", "__package__", "__loader__", "__spec__", "__file__", "__cached__", "__builtins__",
      "__dict__", "__annotations__"]

/-- A package with members. -/
def package (members : Table Member) : CodeModule := ⟨true, members ++ values ["__path__"] ++ common⟩

/-- A module without modules below it. -/
def plain (members : Table Member) : CodeModule := ⟨false, members ++ common⟩

/-! ## The modules -/

/-- The full name of the factory of runtimes within the process. -/
def memoryRuntime : Text := "webman.runtime.memory.InMemoryTaskRuntime"

/-- Members that are taken from outside the bridge. -/
def outside (members : List String) : Table Member :=
  (borrows
    [("BaseModel", "pydantic.main.BaseModel"), ("ConfigDict", "pydantic.config.ConfigDict"),
      ("Field", "pydantic.fields.Field"), ("ValidationError", "pydantic_core._pydantic_core.ValidationError"),
      ("model_validator", "pydantic.functional_validators.model_validator"),
      ("Mapping", "collections.abc.Mapping"), ("Sequence", "collections.abc.Sequence"),
      ("Awaitable", "collections.abc.Awaitable"), ("Iterator", "collections.abc.Iterator"),
      ("Callable", "collections.abc.Callable"), ("TaskHandler", "collections.abc.Callable"), ("Any", "typing.Any"),
      ("Protocol", "typing.Protocol"), ("dataclass", "dataclasses.dataclass"), ("field", "dataclasses.field"),
      ("deque", "collections.deque"), ("Enum", "enum.Enum"), ("Path", "pathlib.Path"),
      ("BackgroundTasks", "fastapi.background.BackgroundTasks"), ("FastAPI", "fastapi.applications.FastAPI"),
      ("Request", "starlette.requests.Request"), ("Response", "starlette.responses.Response"),
      ("JSONResponse", "starlette.responses.JSONResponse")]).filter fun (m, _) =>
    members.any fun wanted => Text.ofString wanted = m

/-- The modules of the bridge. -/
def bridge : Catalogue :=
  let models := defines "webman.models"
  let config := defines "webman.config"
  let client := defines "webman.relay.client"
  let engine := defines "webman.dispatch.engine"
  let tasks := defines "webman.tasks"
  let memory := defines "webman.runtime.memory"
  let protocol := defines "webman.runtime.protocol"
  let runtime := defines "webman.runtime"
  let app := defines "webman.webhook.app"
  let ingress := defines "webman.webhook.ingress"
  let server := defines "webman.webhook.server"
  let service := defines "webman.service"
  let command := defines "webman.cli"
  [("webman", package (values ["__version__"])),
    ("webman.models", plain (
      models ["RelayRequest", "BatchRequest", "RelayOutcome", "SuccessResult", "ErrorResult", "BatchResult",
        "WebhookEnvelope", "dump_payload"] ++
      outside ["BaseModel", "ConfigDict", "Field", "Any", "dataclass", "model_validator"] ++
      values ["annotations", "time", "uuid", "TYPE_CHECKING"])),
    ("webman.config", plain (
      config ["ConfigurationError", "ServiceConfig"] ++
      outside ["BaseModel", "ConfigDict", "Field", "ValidationError", "Mapping"] ++
      values ["annotations", "os", "DEFAULT_TIMEOUT", "DEFAULT_WEBHOOK_ENDPOINT", "DEFAULT_WEBHOOK_ADDR",
        "_ENV_FIELDS"])),
    ("webman.relay", package []),
    ("webman.relay.client", plain (
      client ["RelayError", "SerializationError", "TransportError", "DecodeError", "Relay", "HttpRelay"] ++
      outside ["Any", "Protocol"] ++
      values ["annotations", "asyncio", "json", "logging", "httpx", "logger", "DEFAULT_TIMEOUT"])),
    ("webman.dispatch", package []),
    ("webman.dispatch.engine", plain (
      engine ["DispatchEngine"] ++ models ["BatchResult", "RelayOutcome", "RelayRequest"] ++
      client ["Relay", "RelayError"] ++ outside ["Sequence"] ++
      values ["annotations", "asyncio", "logging", "logger"])),
    ("webman.tasks", plain (
      tasks ["TaskAdapter", "_describe"] ++ engine ["DispatchEngine"] ++
      models ["BatchRequest", "ErrorResult", "RelayRequest", "SuccessResult"] ++ protocol ["RuntimeTask"] ++
      outside ["BaseModel", "ValidationError", "TaskHandler"] ++
      values ["annotations", "logging", "logger", "EXECUTE_TASK", "BATCH_EXECUTE_TASK"])),
    ("webman.runtime", package (
      runtime ["load_runtime_factory"] ++
      memory ["EmittedEvent", "InMemoryTask", "InMemoryTaskRuntime", "RuntimeClosedError", "TaskReply"] ++
      protocol ["EventPublisher", "ReplyDeliveryError", "RuntimeTask", "TaskRuntime"] ++
      outside ["Callable", "TaskHandler"] ++ values ["annotations", "importlib", "__all__"])),
    ("webman.runtime.memory", plain (
      memory ["RuntimeClosedError", "EmittedEvent", "TaskReply", "InMemoryTask", "InMemoryTaskRuntime"] ++
      models ["ErrorResult", "dump_payload"] ++ protocol ["ReplyDeliveryError"] ++
      outside ["BaseModel", "Mapping", "TaskHandler", "Any", "dataclass", "field", "deque"] ++
      values ["annotations", "asyncio", "logging", "uuid", "logger", "DEFAULT_MAX_EVENTS"])),
    ("webman.runtime.protocol", plain (
      protocol ["ReplyDeliveryError", "RuntimeTask", "EventPublisher", "TaskRuntime"] ++
      outside ["BaseModel", "Mapping", "TaskHandler", "Callable", "Protocol", "Awaitable"] ++
      values ["annotations"])),
    ("webman.webhook", package []),
    ("webman.webhook.app", plain (
      app ["create_webhook_app"] ++ ingress ["PayloadError", "WebhookIngress"] ++
      outside ["BackgroundTasks", "FastAPI", "Request", "Response", "JSONResponse"] ++ values ["annotations"])),
    ("webman.webhook.ingress", plain (
      ingress ["PayloadError", "WebhookIngress"] ++ models ["WebhookEnvelope"] ++ protocol ["EventPublisher"] ++
      outside ["Any"] ++ values ["annotations", "json", "logging", "logger", "ON_REQUEST_EVENT"])),
    ("webman.webhook.server", plain (
      server ["ServerState", "WebhookServerError", "_EmbeddedServer", "parse_listen_addr", "format_listen_addr",
        "_bind", "WebhookServer"] ++
      outside ["Iterator", "Enum"] ++
      values ["annotations", "asyncio", "contextlib", "logging", "socket", "threading", "uvicorn", "logger",
        "_STARTUP_POLL_SECONDS"])),
    ("webman.service", plain (
      service ["Service"] ++ config ["ConfigurationError", "ServiceConfig"] ++ engine ["DispatchEngine"] ++
      client ["HttpRelay", "Relay"] ++ protocol ["TaskRuntime"] ++ tasks ["TaskAdapter"] ++
      app ["create_webhook_app"] ++ ingress ["WebhookIngress"] ++ server ["WebhookServer"] ++
      values ["annotations", "asyncio", "logging", "logger"])),
    ("webman.cli", plain (
      command ["configure_logging", "_build_runtime", "_serve", "_dispatch_one", "_dispatch_batch"] ++
      config ["ConfigurationError", "ServiceConfig"] ++ engine ["DispatchEngine"] ++
      models ["BatchRequest", "BatchResult", "ErrorResult", "RelayOutcome", "RelayRequest", "SuccessResult",
        "dump_payload"] ++
      client ["HttpRelay"] ++ memory ["InMemoryTaskRuntime"] ++ protocol ["TaskRuntime"] ++
      runtime ["load_runtime_factory"] ++ service ["Service"] ++ server ["WebhookServerError"] ++
      outside ["Path", "ValidationError"] ++
      values ["annotations", "asyncio", "json", "logging", "signal", "sys", "click", "DEFAULT_TIMEOUT",
        "_LOG_FORMAT"]))]

/-- Modules that come with every installation. -/
def basis : Catalogue :=
  [("json", package (defines "json" ["loads", "dumps", "load", "dump"])),
    ("asyncio", package (
      defines "asyncio.runners" ["run"] ++ defines "asyncio.tasks" ["sleep", "gather", "wait_for"] ++
      defines "asyncio.queues" ["Queue"] ++ defines "asyncio.locks" ["Event", "Lock"])),
    ("os", plain (
      values ["environ", "path", "sep", "name"] ++ defines "os" ["getenv", "makedirs", "walk", "fspath"] ++
      defines "posix" ["getcwd", "listdir", "getpid", "mkdir", "remove"])),
    ("os.path", plain (defines "posixpath" ["join", "basename", "dirname", "abspath", "split"])),
    ("sys", plain (
      values ["argv", "path", "modules", "version", "maxsize", "stdout", "stderr"] ++
      defines "sys" ["exit", "getrecursionlimit", "intern"])),
    ("time", plain (defines "time" ["time", "sleep", "monotonic"])),
    ("builtins", plain (
      defines "builtins" ["int", "str", "dict", "list", "object", "print", "len", "float", "bool", "set", "tuple",
        "bytes", "type", "open", "Exception", "ValueError"] ++
      values ["None", "True", "False", "Ellipsis", "NotImplemented"])),
    ("collections", package (
      defines "collections" ["OrderedDict", "defaultdict", "deque", "Counter", "namedtuple", "ChainMap"])),
    ("logging", package (
      defines "logging" ["getLogger", "basicConfig", "Logger"] ++ values ["INFO", "DEBUG", "WARNING", "ERROR"]))]

/-- Everything that is installed. -/
def installed : Catalogue := bridge ++ basis

end WebhookBridge.Catalogue
