import WebhookBridge.Address
import WebhookBridge.Defect
import WebhookBridge.Log
import WebhookBridge.Number.Binary64
import WebhookBridge.Text.LowerCase

/-!
# The webhook server

The server stands around an embedded one, which accepts connections on a socket and works on its own. Starting,
stopping and waiting are calls: each does what it can at once and then waits, for the embedded server to accept
connections or to end.

## Contents

* `ServerState`: where the server stands;
* `BindResult`, `Socket`, `Serving`: what the embedded servers are and work on;
* `ServerFault`: why a call fails;
* `StartCall`, `ShutdownCall`, `WaitCall`: the calls and how far they have come;
* `WebhookServer`: the whole state.
-/

namespace WebhookBridge

/-! ## Where the server stands -/

/-- The states of the server. -/
inductive ServerState where
  | stopped
  | starting
  | listening
  | stopping
  deriving DecidableEq, Repr

/-- The name of a state. -/
def ServerState.name : ServerState → Text
  | .stopped => "stopped"
  | .starting => "starting"
  | .listening => "listening"
  | .stopping => "stopping"

/-! ## Embedded servers -/

/-- What an attempt to bind an address comes to: the address that was bound, a refusal of the system, or a defect. -/
inductive BindResult where
  | bound (a : Address)
  | refused (reason : Text)
  | failed (defect : Defect)

/-- What binds addresses. -/
abbrev Binder := Address → BindResult

/-- A socket that was opened, with the address that it is bound to, if it is. -/
structure Socket where
  bound : Option Address
  isOpen : Bool
  deriving DecidableEq, Repr

/-- An embedded server at work: the socket that it serves, whether it has begun to accept connections, how long it may
    take to end where that was requested, and how it ended. -/
structure Serving where
  socket : Nat
  isStarted : Bool
  grace : Option Binary64
  ending : Option (Except Defect Unit)

/-- Whether the embedded server has ended. -/
def Serving.isOver (s : Serving) : Bool := s.ending.isSome

/-- The levels that the embedded server can log at. -/
def embeddedLogLevels : List Text := ["critical", "error", "warning", "info", "debug", "trace"]

/-! ## Faults -/

/-- Why a call of the server fails. -/
inductive ServerFault where
  /-- The server is in a state in which it cannot be started. -/
  | notStopped (state : ServerState)
  /-- The listen address cannot be read. -/
  | address (error : AddressError)
  /-- The listen address cannot be bound. -/
  | notBound (address reason : Text)
  /-- The embedded server ended before it accepted connections. -/
  | exitedEarly
  /-- No embedded server stands behind the listening state. -/
  | nothingServing
  /-- The embedded server ended although nobody had asked for it. -/
  | stoppedUnexpectedly
  /-- The embedded server does not know the log level. -/
  | unknownLogLevel (name : Text)
  /-- Binding or serving met a defect. -/
  | broken (defect : Defect)

namespace ServerFault

/-- The text of a server fault. -/
def message : ServerFault → Text
  | .notStopped state => ("webhook server is " : Text) ++ state.name
  | .address error => error.message
  | .notBound text reason => ("cannot listen on " : Text) ++ text ++ ": " ++ reason
  | .exitedEarly => "webhook server exited during startup"
  | .nothingServing => "webhook server is listening without a running server"
  | .stoppedUnexpectedly => "webhook server stopped unexpectedly"
  | .unknownLogLevel name => name.quoted
  | .broken defect => defect.message

/-- Whether the fault is one that the server answers for, rather than one that it passes on. -/
def isOwn : ServerFault → Bool
  | .unknownLogLevel _ => false
  | .broken _ => false
  | _ => true

end ServerFault

/-! ## Calls -/

/-- A call to start: it waits for an embedded server to accept connections, or has ended. -/
inductive StartCall where
  | polling (serving : Nat)
  | ended (result : Except ServerFault Unit)

/-- A call to stop: it waits for an embedded server to end, to close its socket then, or has ended. -/
inductive ShutdownCall where
  | waiting (serving : Nat) (socket : Option Nat)
  | ended (result : Except ServerFault Unit)

/-- A call that waits for the end: it waits for an embedded server, or has ended. -/
inductive WaitCall where
  | waiting (serving : Nat)
  | ended (result : Except ServerFault Unit)

/-! ## The state -/

/-- The server: what it is to listen on and to log at, the state it is in, the embedded server, serving and socket that
    it holds with the address that it has bound, and everything that has come up so far: sockets, servings, calls and
    log events, each in order. -/
structure WebhookServer where
  listenAddress : Text
  logLevel : Text
  state : ServerState
  /-- The embedded server that can be asked to end, by the position of its serving. -/
  server : Option Nat
  /-- The serving that is waited for. -/
  serving : Option Nat
  socket : Option Nat
  address : Text
  sockets : List Socket
  servings : List Serving
  starts : List StartCall
  shutdowns : List ShutdownCall
  waits : List WaitCall
  log : List LogEvent

namespace WebhookServer

/-- A server before its first start. -/
def new (listenAddress logLevel : Text) : WebhookServer where
  listenAddress := listenAddress
  logLevel := logLevel.toLower
  state := .stopped
  server := none
  serving := none
  socket := none
  address := []
  sockets := []
  servings := []
  starts := []
  shutdowns := []
  waits := []
  log := []

/-- The address that is bound while the server listens; empty at other times. -/
def currentAddress (s : WebhookServer) : Text := if s.state = .listening then s.address else []

/-- The server in another state. -/
def withState (s : WebhookServer) (state : ServerState) : WebhookServer := { s with state := state }

/-- The server with one more log event. -/
def report (s : WebhookServer) (message : Text) : WebhookServer :=
  { s with log := s.log ++ [⟨.info, .server, message⟩] }

/-- The server with a socket more. -/
def addSocket (s : WebhookServer) (bound : Option Address) (isOpen : Bool) : WebhookServer :=
  { s with sockets := s.sockets ++ [⟨bound, isOpen⟩] }

/-- The server with an embedded server more, which serves a socket. -/
def addServing (s : WebhookServer) (socket : Nat) : WebhookServer :=
  { s with servings := s.servings ++ [⟨socket, false, none, none⟩] }

/-- The server with a socket closed. -/
def closeSocket (s : WebhookServer) (n : Nat) : WebhookServer :=
  { s with sockets := s.sockets.modify n fun socket => { socket with isOpen := false } }

/-- The server with a call to start more. -/
def addStart (s : WebhookServer) (call : StartCall) : WebhookServer := { s with starts := s.starts ++ [call] }

/-- The server with a call to stop more. -/
def addShutdown (s : WebhookServer) (call : ShutdownCall) : WebhookServer :=
  { s with shutdowns := s.shutdowns ++ [call] }

/-- The server with a call that waits more. -/
def addWait (s : WebhookServer) (call : WaitCall) : WebhookServer := { s with waits := s.waits ++ [call] }

/-- The server that holds an embedded server on a socket. -/
def hold (s : WebhookServer) (serving socket : Nat) (address : Text) : WebhookServer :=
  { s with state := .listening, server := some serving, serving := some serving, socket := some socket,
           address := address }

/-- The server that holds nothing. -/
def drop (s : WebhookServer) : WebhookServer :=
  { s with state := .stopped, server := none, serving := none, socket := none, address := [] }

/-- How an embedded server ended, if it has. -/
def endingOf? (s : WebhookServer) (n : Nat) : Option (Except Defect Unit) := s.servings[n]?.bind (·.ending)

end WebhookServer

end WebhookBridge
