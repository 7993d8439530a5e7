import Sinkhole.Cache.CachedClassifier
import Sinkhole.Config.Validation
import Sinkhole.Forwarding.Forwarder
import Sinkhole.Lifecycle.Notice
import Sinkhole.Lifecycle.Status
import Sinkhole.Lifecycle.Throttle
import Sinkhole.Lifecycle.Watchdog
import Sinkhole.Packet.BufferPool
import Sinkhole.Proxy.Handling
import Sinkhole.Session.Establish
import Sinkhole.Session.Flush

/-! # Worker

The worker owns every session. It connects after the backoff and the watchdog's penalty, runs the
session until it fails or is told to end, and connects again, or waits for a network first. Here
it is a transition system: an action is one thing that can happen, and it is refused in a phase in
which it cannot. Where a stop request and the end of a wait are both there, either may be taken;
the event loop of a session looks at a stop request first, then at the notices, then at the rest.

What a step shows to the outside are its effects, in their order.
-/
namespace Sinkhole

/-- What stays the same while the engine runs. -/
structure Engine where
  settings : Settings
  rules : HostRules

namespace Engine

def ofSettings (settings : Settings) : Engine := ⟨settings, .ofLists settings.rules⟩

def classify (engine : Engine) : Classifier CachedClassifier := fun host cache =>
  let found := cache.classify engine.rules.classify host
  (found.classification, found.cache)

end Engine

/-- What the outside is like when something happens. -/
structure Moment where
  now : Nat
  platform : Platform
  path : UdpPath
  writer : TunnelWriter

/-- A session whose tunnel is up. -/
structure LiveSession where
  state : SessionState Flow
  /-- The number of packets written to the tunnel. -/
  writes : Nat
  /-- Since when the event loop waits for the next event. -/
  idleSince : Nat
deriving Repr

inductive WorkerPhase where
  /-- Nothing was reported yet. -/
  | created
  | backingOff (deadline : Nat)
  | servingPenalty (deadline : Nat)
  | establishing
  | running (session : LiveSession)
  /-- The event loop is over, and the session's monitor is not yet. -/
  | closing (session : LiveSession) (outcome : Except Error SessionEnd)
  | waitingForNetwork
  | finished
deriving Repr

structure Worker where
  phase : WorkerPhase
  control : Control
  /-- The notices that were not heard yet. -/
  notices : List Notice
  stopRequested : Bool
  throttle : Throttle
  watchdog : Watchdog
  cache : CachedClassifier
  forwarder : Forwarder

inductive Effect where
  | status (status : Status)
  | counted (counter : Counter)
  /-- A tunnel was configured, with success or not. -/
  | configured (trace : BuilderTrace)
  | written (packet : Bytes)
deriving DecidableEq, Repr

inductive LoopEvent where
  | answers (read : Nat → SocketRead)
  | pollFailed (cause : IoError)
  | completion
  /-- A packet was read from the tunnel; an empty one means that the tunnel was closed. -/
  | packet (octets : Bytes)
  | readFailed (cause : IoError)
  /-- Nothing happened for as long as the watchdog allows. -/
  | idle

inductive RequestEvent where
  | failed
  | answered (answer : Bytes)
  /-- There is room for the answer in the queue. -/
  | handedOver
deriving DecidableEq, Repr

inductive Action where
  | begin
  | notify (notice : Notice)
  | requestStop
  | takeStop
  | hear
  | backoffOver
  | penaltyOver
  | establish
  | event (event : LoopEvent)
  | request (number : Nat) (event : RequestEvent)
  /-- The monitor of the session is over. -/
  | monitorOver

namespace Worker

abbrev Outcome := Worker × List Effect

def hasFinished (worker : Worker) : Bool :=
  match worker.phase with
  | .finished => true
  | _ => false

def new (settings : Settings) (networks : List Network) : Except Error Worker := do
  settings.validate
  let forwarder ← Forwarder.ofSettings settings.forwarding
  pure ⟨.created, .initial networks, [], false, .initial, .initial, .new settings.cacheCapacity,
    forwarder⟩

def connect (worker : Worker) (now : Nat) (effects : List Effect) : Outcome :=
  let (deadline, throttle) := worker.throttle.wait now
  ({ worker with throttle := throttle, phase := .backingOff deadline }, effects)

def finish (worker : Worker) (effects : List Effect) : Outcome :=
  ({ worker with phase := .finished }, effects ++ [.status .stopping, .status .stopped])

def awaitNetwork (worker : Worker) : Outcome :=
  ({ worker with phase := .waitingForNetwork }, [.status .waitingForNetwork])

def reconnect (worker : Worker) (now : Nat) (status : Status) (reason : ReconnectReason) :
    Outcome :=
  worker.connect now [.counted (.reconnects reason), .status status]

/-- Goes on after an attempt to run a session. -/
def afterSession (worker : Worker) (now : Nat) : Except Error SessionEnd → Outcome
  | .ok .stopped => worker.finish []
  | .ok .networkLost => worker.awaitNetwork
  | .ok .reconnect => worker.reconnect now .reconnecting .requested
  | .error error =>
    if worker.stopRequested then worker.finish []
    else if error.isRecoverable then
      worker.reconnect now .reconnectingNetworkError .error
    else worker.finish []

def establishSession (engine : Engine) (worker : Worker) (moment : Moment) : Outcome :=
  let (result, trace) := establish moment.platform engine.settings
  match result with
  | .error error =>
    let (worker, effects) := worker.afterSession moment.now (.error error)
    (worker, .configured trace :: effects)
  | .ok state =>
    let control := { worker.control with generation := worker.control.generation + 1 }
    let watchdog :=
      worker.watchdog.setTarget state.servers.probeTarget state.servers.defaultServer
    ({ worker with
        control := control
        watchdog := watchdog
        phase := .running ⟨state, 0, moment.now⟩ },
      [.configured trace, .status .running])

def endLoop (worker : Worker) (session : LiveSession) (outcome : Except Error SessionEnd)
    (effects : List Effect) : Outcome :=
  ({ worker with phase := .closing session outcome }, effects)

/-- Writes the queued packets and waits for the next event. -/
def flush (worker : Worker) (moment : Moment) (session : LiveSession) (effects : List Effect) :
    Outcome :=
  let (state, flushed) := session.state.flush moment.writer session.writes
  let session : LiveSession := ⟨state, session.writes + flushed.written.length, moment.now⟩
  let effects := effects ++ flushed.written.map .written
  match flushed.error? with
  | some error => worker.endLoop session (.error error) effects
  | none => ({ worker with phase := .running session }, effects)

def handle (engine : Engine) (worker : Worker) (moment : Moment) (session : LiveSession)
    (packet : Bytes) : Outcome :=
  let handled := handlePacket engine.classify (Forwarder.resolve moment.path moment.now) packet
    session.state worker.cache worker.forwarder
  let worker := { worker with
    watchdog := worker.watchdog.packetRead moment.now
    cache := handled.classifier
    forwarder := handled.resolver }
  let session := { session with state := handled.session }
  let effects := handled.counters.map .counted
  match handled.result with
  | .error error => worker.endLoop session (.error error) effects
  | .ok () => worker.flush moment session effects

def handleEvent (engine : Engine) (worker : Worker) (moment : Moment) (session : LiveSession) :
    LoopEvent → Option Outcome
  | .answers read =>
    let (state, _) := session.state.drain read
    some (worker.flush moment { session with state := state } [])
  | .pollFailed cause => some (worker.endLoop session (.error (.network (.poll cause))) [])
  | .completion =>
    match session.state.completions.waiting with
    | [] => none
    | completion :: waiting =>
      let completions := { session.state.completions with waiting := waiting }
      let state := { session.state with completions := completions }
      some (worker.flush moment { session with state := state.complete completion } [])
  | .packet octets =>
    let packet := octets.take maxPacketSize
    if packet.isEmpty then some (worker.endLoop session (.error (.network .tunnelClosed)) [])
    else some (handle engine worker moment session packet)
  | .readFailed cause => some (worker.endLoop session (.error (.network (.poll cause))) [])
  | .idle =>
    let outcome := worker.watchdog.idleTimeout moment.now (sendProbe moment.path)
    let worker := { worker with watchdog := outcome.watchdog }
    match outcome.failure with
    | some error => some (worker.endLoop session (.error error) [])
    | none => some (worker.flush moment session [])

def hearInSession (worker : Worker) (moment : Moment) (session : LiveSession) (notice : Notice) :
    Outcome :=
  let ended := worker.control.sessionEnd? notice
  let worker := { worker with control := worker.control.hear notice }
  match ended with
  | some reason => worker.endLoop session (.ok reason) []
  | none => worker.flush moment session []

def hearWaiting (worker : Worker) (now : Nat) (notice : Notice) : Outcome :=
  let worker := { worker with control := worker.control.hear notice }
  match notice with
  | .networkAvailable _ => worker.reconnect now .reconnecting .network
  | .networkLost _ | .interfaceDown _ => (worker, [])

def begin? (worker : Worker) (now : Nat) : Option Outcome :=
  match worker.phase with
  | .created => some (worker.connect now [.status .starting])
  | _ => none

/-- Where the worker waits for anything, it can take notice of a stop request. -/
def takeStop? (worker : Worker) : Option Outcome :=
  if worker.stopRequested then
    match worker.phase with
    | .backingOff _ | .servingPenalty _ | .waitingForNetwork => some (worker.finish [])
    | .running session => some (worker.endLoop session (.ok .stopped) [])
    | _ => none
  else none

def hear? (worker : Worker) (moment : Moment) : Option Outcome :=
  match worker.notices with
  | [] => none
  | notice :: notices =>
    let heard := { worker with notices := notices }
    match worker.phase with
    | .running session =>
      if worker.stopRequested then none else some (heard.hearInSession moment session notice)
    | .waitingForNetwork => some (heard.hearWaiting moment.now notice)
    | _ => none

/-- The backoff is over, and the watchdog's penalty begins. -/
def backoffOver? (engine : Engine) (worker : Worker) (now : Nat) : Option Outcome :=
  match worker.phase with
  | .backingOff deadline =>
    if deadline ≤ now then
      let (served, watchdog) := worker.watchdog.prepare engine.settings.watchdogEnabled now
      some ({ worker with watchdog := watchdog, phase := .servingPenalty served }, [])
    else none
  | _ => none

def penaltyOver? (worker : Worker) (now : Nat) : Option Outcome :=
  match worker.phase with
  | .servingPenalty deadline =>
    if deadline ≤ now then some ({ worker with phase := .establishing }, []) else none
  | _ => none

def establish? (engine : Engine) (worker : Worker) (moment : Moment) : Option Outcome :=
  match worker.phase with
  | .establishing => some (establishSession engine worker moment)
  | _ => none

def event? (engine : Engine) (worker : Worker) (moment : Moment) (event : LoopEvent) :
    Option Outcome :=
  match worker.phase with
  | .running session =>
    if worker.stopRequested || !worker.notices.isEmpty then none
    else handleEvent engine worker moment session event
  | _ => none

def applyRequest {ρ : Type} (number : Nat) (event : RequestEvent) (resolver : HttpsResolver)
    (session : SessionState ρ) : Option (HttpsResolver × SessionState ρ) :=
  match event with
  | .failed => some (resolver.taskFailed number session)
  | .answered answer => some (resolver, HttpsResolver.taskAnswered number answer session)
  | .handedOver => resolver.handOver? number session

/-- Requests live as long as their session. -/
def request? (worker : Worker) (number : Nat) (event : RequestEvent) : Option Outcome :=
  let change (session : LiveSession) (phase : LiveSession → WorkerPhase) : Option Outcome := do
    let (forwarder, state) ← worker.forwarder.onHttps session.state (applyRequest number event)
    pure ({ worker with
      forwarder := forwarder
      phase := phase { session with state := state } }, [])
  match worker.phase with
  | .running session => change session .running
  | .closing session outcome => change session fun session => .closing session outcome
  | _ => none

/-- The session is gone, and with it its requests. -/
def monitorOver? (worker : Worker) (now : Nat) : Option Outcome :=
  match worker.phase with
  | .closing session outcome =>
    let forwarder := worker.forwarder.sessionEnded session.state
    some ({ worker with forwarder := forwarder }.afterSession now outcome)
  | _ => none

/-- The worker after an action, if the action can happen. -/
def step? (engine : Engine) (worker : Worker) (moment : Moment) : Action → Option Outcome
  | .begin => worker.begin? moment.now
  | .notify notice => some ({ worker with notices := worker.notices ++ [notice] }, [])
  | .requestStop => some ({ worker with stopRequested := true }, [])
  | .takeStop => worker.takeStop?
  | .hear => worker.hear? moment
  | .backoffOver => worker.backoffOver? engine moment.now
  | .penaltyOver => worker.penaltyOver? moment.now
  | .establish => worker.establish? engine moment
  | .event event => worker.event? engine moment event
  | .request number event => worker.request? number event
  | .monitorOver => worker.monitorOver? moment.now

/-- The worker after a run, with all that the outside saw, if every action could happen. -/
def run? (engine : Engine) : Worker → List (Moment × Action) → Option Outcome
  | worker, [] => some (worker, [])
  | worker, (moment, action) :: rest => do
    let (worker, effects) ← worker.step? engine moment action
    let (worker, later) ← run? engine worker rest
    pure (worker, effects ++ later)

theorem run?_append (engine : Engine) (worker : Worker) (first second : List (Moment × Action)) :
    worker.run? engine (first ++ second) =
      (worker.run? engine first).bind fun middle =>
        (middle.1.run? engine second).map fun last => (last.1, middle.2 ++ last.2) := by
  induction first generalizing worker with
  | nil => simp [run?]
  | cons entry rest ih =>
    rcases entry with ⟨moment, action⟩
    cases h : worker.step? engine moment action with
    | none => simp [run?, h]
    | some outcome =>
      rcases outcome with ⟨after, effects⟩
      simp only [List.cons_append, run?, h, ih]
      cases hr : after.run? engine rest with
      | none => simp [hr]
      | some middle =>
        cases hs : middle.1.run? engine second <;> simp [hr, hs]

end Worker

end Sinkhole
