import WebhookBridge.Server.Basic

/-!
# The lifecycle of the webhook server

The server moves from stopped over starting to listening, and from listening over stopping to stopped; a start that
fails leads back to stopped. Everything that happens is an action: a call is made or goes on, or an embedded server
begins to accept connections or ends. Actions may come in any order, and one that has nothing to act on changes nothing.

## Contents

* `WebhookServer.start`, `shutdown`, `wait`: what a call does at once;
* `WebhookServer.resumeStart`, `resumeShutdown`, `resumeWait`: how a waiting call goes on;
* `WebhookServer.Action`, `WebhookServer.perform`: all that can happen;
* `WebhookServer.settle`: every waiting call goes on as far as it can.
-/

namespace WebhookBridge

/-- The greater of a number and zero; what cannot be compared stays. -/
def Binary64.atLeastZero (x : Binary64) : Binary64 := if x.lt (.zero false) then .zero false else x

namespace WebhookServer

/-! ## Starting -/

/-- A socket is opened for the listen address and an embedded server starts on it: the position of its serving. -/
def openServing (bind : Binder) (s : WebhookServer) : WebhookServer × Except ServerFault Nat :=
  match Address.parse s.listenAddress with
  | .error error => (s, .error (.address error))
  | .ok a =>
    match bind a with
    | .refused reason => (s.addSocket none false, .error (.notBound s.listenAddress reason))
    | .failed defect => (s.addSocket none true, .error (.broken defect))
    | .bound b =>
      let opened := s.addSocket (some b) true
      if embeddedLogLevels.contains s.logLevel then
        (opened.addServing s.sockets.length, .ok s.servings.length)
      else (opened, .error (.unknownLogLevel s.logLevel))

/-- The server is asked to start. -/
def start (bind : Binder) (s : WebhookServer) : WebhookServer :=
  if s.state ≠ .stopped then s.addStart (.ended (.error (.notStopped s.state)))
  else match s.openServing bind with
    | (s, .ok n) => (s.withState .starting).addStart (.polling n)
    | (s, .error fault) => s.addStart (.ended (.error fault))

/-- A call to start ends with a fault: its socket is closed. -/
def failStart (s : WebhookServer) (i socket : Nat) (fault : ServerFault) : WebhookServer :=
  { (s.closeSocket socket).withState .stopped with starts := s.starts.set i (.ended (.error fault)) }

/-- A call to start ends with a server that listens. Its address is read off the socket; that reading fails is left
    out, as it is of a socket that somebody has closed behind the server's back. -/
def completeStart (s : WebhookServer) (i n socket : Nat) : WebhookServer :=
  let address := match s.sockets[socket]?.bind (·.bound) with
    | some a => a.format
    | none => []
  ({ s with starts := s.starts.set i (.ended (.ok ())) }.hold n socket address).report
    (("webhook server started at: " : Text) ++ address)

/-- A call to start goes on: it ends if the embedded server accepts connections or has ended. -/
def resumeStart (s : WebhookServer) (i : Nat) : WebhookServer :=
  match s.starts[i]? with
  | some (.polling n) =>
    match s.servings[n]? with
    | none => s
    | some serving =>
      if serving.isStarted then s.completeStart i n serving.socket
      else match serving.ending with
        | none => s
        | some (.ok ()) => s.failStart i serving.socket .exitedEarly
        | some (.error defect) => s.failStart i serving.socket (.broken defect)
  | _ => s

/-! ## Stopping -/

/-- What a call that waited for an embedded server learns of its end. -/
def passOn : Except Defect Unit → Except ServerFault Unit
  | .ok () => .ok ()
  | .error defect => .error (.broken defect)

/-- An embedded server is asked to end within a time. -/
def requestEnd (s : WebhookServer) (n : Nat) (grace : Binary64) : WebhookServer :=
  { s with servings := s.servings.modify n fun serving => { serving with grace := some grace.atLeastZero } }

/-- What is left to do when the embedded server has ended. -/
def finishShutdown (s : WebhookServer) (socket : Option Nat) : WebhookServer :=
  let s := match socket with
    | some n => s.closeSocket n
    | none => s
  s.drop.report "webhook server stopped"

/-- The server is asked to stop within a time. Only a server that listens does anything. -/
def shutdown (grace : Binary64) (s : WebhookServer) : WebhookServer :=
  -- a server that starts is not asked again when it listens
  if s.state ≠ .listening then s.addShutdown (.ended (.ok ()))
  else
    let stopping := s.withState .stopping
    match s.server, s.serving with
    | some m, some n =>
      let asked := stopping.requestEnd m grace
      match asked.endingOf? n with
      | some ending => (asked.finishShutdown s.socket).addShutdown (.ended (passOn ending))
      | none => asked.addShutdown (.waiting n s.socket)
    | _, _ => stopping.addShutdown (.ended (.error .nothingServing))

/-- A call to stop goes on: it ends if the embedded server has ended. -/
def resumeShutdown (s : WebhookServer) (i : Nat) : WebhookServer :=
  match s.shutdowns[i]? with
  | some (.waiting n socket) =>
    match s.endingOf? n with
    | none => s
    | some ending =>
      let s := s.finishShutdown socket
      { s with shutdowns := s.shutdowns.set i (.ended (passOn ending)) }
  | _ => s

/-! ## Waiting -/

/-- What a call that waited comes to, where the embedded server has ended: an end that leaves the server listening was
    not asked for. -/
def verdict (s : WebhookServer) : Except Defect Unit → Except ServerFault Unit
  | .error defect => .error (.broken defect)
  -- whoever asks a server to end takes it out of the listening state first
  | .ok () => if s.state = .listening then .error .stoppedUnexpectedly else .ok ()

/-- Somebody waits for the server to end. -/
def wait (s : WebhookServer) : WebhookServer :=
  match s.serving with
  | none => s.addWait (.ended (.ok ()))
  | some n =>
    match s.endingOf? n with
    | some ending => s.addWait (.ended (s.verdict ending))
    | none => s.addWait (.waiting n)

/-- A call that waits goes on: it ends if the embedded server has ended. -/
def resumeWait (s : WebhookServer) (i : Nat) : WebhookServer :=
  match s.waits[i]? with
  | some (.waiting n) =>
    match s.endingOf? n with
    | none => s
    | some ending => { s with waits := s.waits.set i (.ended (s.verdict ending)) }
  | _ => s

/-! ## Embedded servers -/

/-- An embedded server begins to accept connections. -/
def beginServing (s : WebhookServer) (n : Nat) : WebhookServer :=
  { s with servings := s.servings.modify n fun serving =>
      if serving.isOver then serving else { serving with isStarted := true } }

/-- An embedded server ends. -/
def endServing (s : WebhookServer) (n : Nat) (ending : Except Defect Unit) : WebhookServer :=
  { s with servings := s.servings.modify n fun serving =>
      if serving.isOver then serving else { serving with ending := some ending } }

/-! ## Actions -/

/-- What can happen. -/
inductive Action where
  | start (bind : Binder)
  | shutdown (grace : Binary64)
  | wait
  | resumeStart (i : Nat)
  | resumeShutdown (i : Nat)
  | resumeWait (i : Nat)
  | beginServing (n : Nat)
  | endServing (n : Nat) (ending : Except Defect Unit)

/-- The server after an action. -/
def perform (s : WebhookServer) : Action → WebhookServer
  | .start bind => s.start bind
  | .shutdown grace => s.shutdown grace
  | .wait => s.wait
  | .resumeStart i => s.resumeStart i
  | .resumeShutdown i => s.resumeShutdown i
  | .resumeWait i => s.resumeWait i
  | .beginServing n => s.beginServing n
  | .endServing n ending => s.endServing n ending

/-- The server after several actions. -/
def run (s : WebhookServer) (actions : List Action) : WebhookServer := actions.foldl perform s

/-- Every waiting call goes on as far as it can; those that wait for an end come first. -/
def settle (s : WebhookServer) : WebhookServer :=
  let s := (List.range s.waits.length).foldl resumeWait s
  let s := (List.range s.shutdowns.length).foldl resumeShutdown s
  (List.range s.starts.length).foldl resumeStart s

/-- Embedded servers that have not ended begin to accept connections. -/
def beginAll (s : WebhookServer) : WebhookServer := (List.range s.servings.length).foldl beginServing s

/-- Embedded servers that were asked to end do so. -/
def endRequested (s : WebhookServer) : WebhookServer :=
  (List.range s.servings.length).foldl (fun s n => match s.servings[n]? with
    | some serving => if serving.grace.isSome then s.endServing n (.ok ()) else s
    | none => s) s

end WebhookServer

end WebhookBridge
