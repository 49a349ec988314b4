import WebhookBridge.Service.Basic

/-!
# The lifecycle of the service

Runs, closings and the parts of the service move side by side. Everything that happens is an action, as in the parts
themselves: a call is made or goes on, or a part moves. Actions may come in any order, and one that has nothing to act
on changes nothing.

## Contents

* `Service.close`, `beginClosing`, `resumeClosing`, `resumeClose`: the closing and those who wait for it;
* `Service.run`, `resumeRun`, `beginListening`, `beginWaiting`, `endListening`, `graceOver`: a run;
* `Service.Action`, `Service.perform`: all that can happen;
* `Service.settle`: everything goes on as far as it can without time passing.
-/

namespace WebhookBridge.Service

/-! ## Closing -/

/-- The runtime is closed. -/
def closeRuntime (s : Service) : Service :=
  if s.conduct.endsListeners then s.onRuntime TaskRuntime.close
  else { s with runtime := { s.runtime with closed := true } }

/-- The client is closed if it is the service's own: it makes no calls any more. One that was given to the service stays
    as it is. -/
def closeClient (s : Service) : Service :=
  { s with
    runtime := { s.runtime with relay := if s.ownsClient then s.runtime.relay.closed else s.runtime.relay }
    clientClosings := if s.ownsClient then s.clientClosings + 1 else s.clientClosings }

/-- What is logged when the runtime fails to close. -/
def closeFailureLog : LogEvent := ⟨.error, .service, "error while closing the task runtime"⟩

/-- The closing goes on when the server has stopped: the runtime and the client are closed. A server that fails to stop
    ends the closing. -/
def finishClosing (s : Service) : Except ServerFault Unit → Service
  -- the fault is passed on at once: neither the runtime nor the client is closed then
  | .error fault => s.setClosing (.ended (.error (.server fault)))
  | .ok () =>
    let s := { s.closeRuntime with runtimeClosings := s.runtimeClosings + 1 }
    let s := match s.conduct.closeFault with
      | some _ => { s with log := s.log ++ [closeFailureLog] }
      | none => s
    s.closeClient.setClosing (.ended (.ok ()))

/-- The closing begins: the server is asked to stop. -/
def beginClosing (s : Service) : Service :=
  match s.closing with
  | some .requested =>
    let call := s.server.shutdowns.length
    let s := s.onServer (WebhookServer.shutdown s.settings.gracePeriod)
    match s.server.shutdowns[call]? with
    -- a call to stop that had nothing to do has ended already
    | some (.ended result) => s.finishClosing result
    | _ => s.setClosing (.stoppingServer call)
  | _ => s

/-- The closing goes on if the server has stopped. -/
def resumeClosing (s : Service) : Service :=
  match s.closing with
  | some (.stoppingServer call) =>
    match s.server.shutdowns[call]? with
    | some (.ended result) => s.finishClosing result
    | _ => s
  | _ => s

/-- The closing is asked for, unless it was before. -/
def requestClosing (s : Service) : Service :=
  match s.closing with
  | none => s.setClosing .requested
  | some _ => s

/-- Somebody asks for the closing and waits for its end. -/
def close (s : Service) : Service :=
  let call := match s.closingResult? with
    | some result => CloseCall.ended result
    | none => .waiting
  { s.requestClosing with closers := s.closers ++ [call] }

/-- Somebody who waits for the closing learns of its end. -/
def resumeClose (s : Service) (i : Nat) : Service :=
  match s.closers[i]?, s.closingResult? with
  | some .waiting, some result => s.setCloser i (.ended result)
  | _, _ => s

/-- Somebody who waits for the closing gives up; the closing itself goes on. -/
def cancelClose (s : Service) (i : Nat) : Service :=
  match s.closers[i]? with
  | some .waiting => s.setCloser i .cancelled
  | _ => s

/-! ## Runs -/

/-- How the side that listens ended, if it has. -/
def listenEnding? (s : Service) : ListenSide → Option (Except ServiceFault Unit)
  | .fresh => none
  | .returned => some (.ok ())
  | .failed defect => some (.error (.listening defect))
  | .cancelled => some (.ok ())
  | .listening n => match s.runtime.listeners[n]? with
    | some l => if l.state = .done ∨ l.state = .cancelled then some (.ok ()) else none
    | none => none

/-- How the side that waits ended, if it has. -/
def waitEnding? (s : Service) : WaitSide → Option (Except ServiceFault Unit)
  | .fresh => none
  | .cancelled => some (.ok ())
  | .waiting call => match s.server.waits[call]? with
    | some (.ended result) => some (result.mapError .server)
    | _ => none

/-- What a run comes to by the sides that have ended, of which one is looked at first. -/
def firstFault (listenFirst : Bool) (listen wait : Option (Except ServiceFault Unit)) : Except ServiceFault Unit :=
  let (a, b) := if listenFirst then (listen, wait) else (wait, listen)
  match a, b with
  | some (.error fault), _ => .error fault
  | _, some (.error fault) => .error fault
  | _, _ => .ok ()

/-- Where a run goes when the closing has ended: a closing that failed ends it with its own fault. -/
def afterClosing (outcome : Except ServiceFault Unit) (sides : Option Sides) : Except ServiceFault Unit → RunCall
  | .error fault => .ended (.error fault) sides
  | .ok () => match sides with
    | none => .ended outcome none
    | some sides => .lingering outcome sides

/-- A run has its outcome and asks for the closing. -/
def settleRun (s : Service) (i : Nat) (outcome : Except ServiceFault Unit) (sides : Option Sides) : Service :=
  match s.closingResult? with
  -- there is one closing: where it has ended before, the server that has started since is not stopped
  | some result => s.setRun i (afterClosing outcome sides result)
  | none => s.requestClosing.setRun i (.closing outcome sides)

/-- Somebody runs the service: the server is asked to start. -/
def run (bind : Binder) (s : Service) : Service :=
  let call := s.server.starts.length
  let s := s.onServer (WebhookServer.start bind)
  { s with runs := s.runs ++ [.starting call] }

/-- A run goes on as far as it can. Where both sides have ended, `listenFirst` says which is looked at first. -/
def resumeRun (s : Service) (i : Nat) (listenFirst : Bool) : Service :=
  match s.runs[i]? with
  | some (.starting call) =>
    match s.server.starts[call]? with
    | some (.ended (.ok ())) => s.setRun i (.serving ⟨.fresh, .fresh⟩)
    | some (.ended (.error fault)) => s.settleRun i (.error (.server fault)) none
    | _ => s
  | some (.serving sides) =>
    match s.listenEnding? sides.listen, s.waitEnding? sides.wait with
    | none, none => s
    | listen, wait => s.settleRun i (firstFault listenFirst listen wait) (some sides)
  | some (.closing outcome sides) =>
    match s.closingResult? with
    | some result => s.setRun i (afterClosing outcome sides result)
    | none => s
  | some (.lingering outcome sides) =>
    match s.listenEnding? sides.listen, s.waitEnding? sides.wait with
    | some _, some _ => s.setRun i (.ended outcome (some sides))
    | _, _ => s
  | _ => s

/-- The sides of a run that has any. -/
def sidesOf? : RunCall → Option Sides
  | .starting _ => none
  | .serving sides => some sides
  | .closing _ sides => sides
  | .lingering _ sides => some sides
  | .ended _ sides => sides

/-- A run with other sides. -/
def withSides (sides : Sides) : RunCall → RunCall
  | .starting call => .starting call
  | .serving _ => .serving sides
  | .closing outcome _ => .closing outcome (some sides)
  | .lingering outcome _ => .lingering outcome sides
  | .ended outcome _ => .ended outcome (some sides)

/-- The handlers of the tasks that the service listens for. -/
def handlers : Handlers := relayHandler?

/-- The side of a run that listens for tasks begins. -/
def beginListening (s : Service) (i : Nat) : Service :=
  match s.runs[i]? with
  | none => s
  | some call => match sidesOf? call with
    | some ⟨.fresh, wait⟩ => match s.conduct.listenFault with
      | some defect => s.setRun i (withSides ⟨.failed defect, wait⟩ call)
      | none =>
        let n := s.runtime.listeners.length
        (s.onRuntime fun r => r.listen handlers).setRun i (withSides ⟨.listening n, wait⟩ call)
    | _ => s

/-- The side of a run that waits for the server to end begins. -/
def beginWaiting (s : Service) (i : Nat) : Service :=
  match s.runs[i]? with
  | none => s
  | some call => match sidesOf? call with
    | some ⟨listen, .fresh⟩ =>
      let n := s.server.waits.length
      (s.onServer WebhookServer.wait).setRun i (withSides ⟨listen, .waiting n⟩ call)
    | _ => s

/-- The side that listens is cancelled unless it has ended. -/
def cancelListening (s : Service) (side : ListenSide) : Service × ListenSide :=
  match s.listenEnding? side with
  | some _ => (s, side)
  | none => match side with
    | .listening n => (s.onRuntime fun r => r.cancelListener n, .cancelled)
    | _ => (s, .cancelled)

/-- The side of a listener that has ended by itself. -/
def endedSide : Except Defect Unit → ListenSide
  | .ok () => .returned
  | .error defect => .failed defect

/-- The side that listens returns or fails by itself, unless it has ended. -/
def endListening (s : Service) (i : Nat) (ending : Except Defect Unit) : Service :=
  match s.runs[i]? with
  | none => s
  | some call => match sidesOf? call with
    | some ⟨.listening n, wait⟩ =>
      -- whatever it still listened for is taken from it, as from a listener that is cancelled
      if (s.listenEnding? (.listening n)).isSome then s
      else (s.onRuntime fun r => r.cancelListener n).setRun i (withSides ⟨endedSide ending, wait⟩ call)
    | _ => s

/-- The time for which a run lingers is over: the sides that have not ended are cancelled, and the run ends. -/
def graceOver (s : Service) (i : Nat) : Service :=
  match s.runs[i]? with
  | some (.lingering outcome sides) =>
    let wait := if (s.waitEnding? sides.wait).isSome then sides.wait else .cancelled
    let (s, listen) := s.cancelListening sides.listen
    s.setRun i (.ended outcome (some ⟨listen, wait⟩))
  | _ => s

/-! ## Actions -/

/-- What can happen. -/
inductive Action where
  | run
  | resumeRun (i : Nat) (listenFirst : Bool)
  | beginListening (i : Nat)
  | beginWaiting (i : Nat)
  /-- The side of a run that listens ends by itself. -/
  | endListening (i : Nat) (ending : Except Defect Unit)
  | graceOver (i : Nat)
  | close
  | cancelClose (i : Nat)
  | resumeClose (i : Nat)
  | beginClosing
  | resumeClosing
  /-- A call of the server goes on, or an embedded server moves. -/
  | server (a : WebhookServer.Action)
  /-- A turn of the runtime is taken. -/
  | turn (position : Nat)
  /-- The time limit of outbound calls passes. -/
  | expire
  | submit (task : TaskInfo)
  | closeRuntime

/-- The service after an action. -/
def perform (env : Surroundings) (s : Service) : Action → Service
  | .run => s.run env.bind
  | .resumeRun i listenFirst => s.resumeRun i listenFirst
  | .beginListening i => s.beginListening i
  | .beginWaiting i => s.beginWaiting i
  | .endListening i ending => s.endListening i ending
  | .graceOver i => s.graceOver i
  | .close => s.close
  | .cancelClose i => s.cancelClose i
  | .resumeClose i => s.resumeClose i
  | .beginClosing => s.beginClosing
  | .resumeClosing => s.resumeClosing
  | .server a => s.onServer fun server => server.perform a
  | .turn position => s.onRuntime fun r => (r.take? env.relay position).getD r
  | .expire => s.onRuntime TaskRuntime.expire
  | .submit task => s.onRuntime fun r => (r.submit task).toOption.getD r
  | .closeRuntime => s.closeRuntime

/-- The service after several actions. -/
def performAll (env : Surroundings) (s : Service) (actions : List Action) : Service := actions.foldl (perform env) s

/-! ## Running without delay -/

/-- The greatest number of turns of the runtime between two looks at the rest. -/
def turnLimit : Nat := 1000000

/-- Everything goes on once. -/
def settleOnce (env : Surroundings) (s : Service) : Service :=
  let s := s.onServer fun server => server.beginAll.settle
  let runs := List.range s.runs.length
  let s := runs.foldl (fun s i => s.resumeRun i true) s
  let s := runs.foldl beginListening s
  let s := runs.foldl beginWaiting s
  let s := s.onRuntime fun r => r.settle env.relay turnLimit
  let s := s.beginClosing.resumeClosing
  (List.range s.closers.length).foldl resumeClose s

/-- Everything goes on, several times over. -/
def settleRounds (env : Surroundings) : Nat → Service → Service
  | 0, s => s
  | rounds + 1, s => settleRounds env rounds (settleOnce env s)

/-- Everything goes on as far as it can without time passing: a run passes through a handful of points at each of which
    it may have to wait for the others. -/
def settle (env : Surroundings) (s : Service) : Service := settleRounds env (8 * (s.runs.length + 1)) s

/-- Embedded servers that were asked to end do so, and everything goes on. -/
def settleServer (env : Surroundings) (s : Service) : Service :=
  settle env (s.onServer WebhookServer.endRequested)

/-- A request that reaches the server is answered, and its body published if it was accepted. -/
def answer (s : Service) (stamp : Stamp) (request : WebRequest) : WebAnswer × Service :=
  let (answer, runtime) := s.app.serve stamp request s.runtime
  (answer, { s with runtime := runtime }.gather)

end WebhookBridge.Service
