import Sinkhole.Lifecycle.Worker
import Sinkhole.Simulation.MonitorRun

/-! # An engine on a simulated clock

The worker and the monitor of its session on a host that is made up: packets are handed to the
newest tunnel, the host's answers are given, and the clock moves only as far as it is told.
Whatever is due at an instant is done before the clock moves on. Of all that could happen at one
instant the worker's own actions go first. The worker leaves open whether the end of a wait or a
stop request comes first: here the wait ends first, and a stop request comes before the rest.
-/
namespace Sinkhole

structure SimulatedHost where
  /-- The host as the builder made after a number of others finds it. -/
  platform : Nat → Platform
  /-- How the tunnel of that builder takes packets. -/
  writer : Nat → TunnelWriter
  path : UdpPath
  listing : InterfaceHost

inductive TunnelRead where
  | packet (octets : Bytes)
  | failed (cause : IoError)
deriving DecidableEq, Repr

structure SimulatedTunnel where
  writer : TunnelWriter
  unread : List TunnelRead
  closed : Bool

/-- What was seen, and when; packets belong to a tunnel. -/
structure Sighting where
  time : Nat
  tunnel : Nat
  effect : Effect

structure EngineRun where
  engine : Engine
  host : SimulatedHost
  now : Nat
  worker : Worker
  monitor : Option MonitorRun
  tunnel : Option SimulatedTunnel
  buildersMade : Nat
  tunnels : Nat
  sightings : List Sighting

namespace EngineRun

def moment (run : EngineRun) : Moment where
  now := run.now
  platform := run.host.platform run.buildersMade
  path := run.host.path
  writer := match run.tunnel with
    | some tunnel => tunnel.writer
    | none => fun _ => none

def SimulatedTunnel.next? (tunnel : SimulatedTunnel) : Option TunnelRead :=
  match tunnel.unread with
  | read :: _ => some read
  | [] => if tunnel.closed then some (.packet []) else none

def idleDeadline? (worker : Worker) (session : LiveSession) : Option Nat :=
  worker.watchdog.idleLimit.map fun limit => timerFires (session.idleSince + limit)

def loopEvent? (run : EngineRun) (session : LiveSession) : Option LoopEvent :=
  if !session.state.completions.waiting.isEmpty then some .completion
  else
    match run.tunnel.bind SimulatedTunnel.next? with
    | some (.packet octets) => some (.packet octets)
    | some (.failed cause) => some (.readFailed cause)
    | none =>
      if (idleDeadline? run.worker session).any (· ≤ run.now) then some .idle else none

/-- What the worker does now, if anything. -/
def nextAction? (run : EngineRun) : Option Action :=
  let worker := run.worker
  match worker.phase with
  | .created => some .begin
  | .backingOff deadline =>
    if deadline ≤ run.now then some .backoffOver
    else if worker.stopRequested then some .takeStop else none
  | .servingPenalty deadline =>
    if deadline ≤ run.now then some .penaltyOver
    else if worker.stopRequested then some .takeStop else none
  | .establishing => some .establish
  | .running session =>
    if worker.stopRequested then some .takeStop
    else if !worker.notices.isEmpty then some .hear
    else (run.loopEvent? session).map .event
  | .closing _ _ => if run.monitor.all (·.monitor.isOver) then some .monitorOver else none
  | .waitingForNetwork =>
    if worker.stopRequested then some .takeStop
    else if !worker.notices.isEmpty then some .hear else none
  | .finished => none

def afterRead (tunnel : Option SimulatedTunnel) : Action → Option SimulatedTunnel
  | .event (.packet _) | .event (.readFailed _) =>
    tunnel.map fun tunnel => { tunnel with unread := tunnel.unread.drop 1 }
  | _ => tunnel

/-- Follows the worker into its new phase: a session has a tunnel and a monitor, which is
cancelled when the session ends or the engine is to stop. -/
def follow (run : EngineRun) (before : WorkerPhase) : EngineRun :=
  match before, run.worker.phase with
  | .establishing, .running _ =>
    { run with
      monitor := some (.start MonitorRun.checkInterval run.now run.host.listing)
      tunnel := some ⟨run.host.writer run.buildersMade, [], false⟩
      buildersMade := run.buildersMade + 1
      tunnels := run.tunnels + 1 }
  | .establishing, .establishing => run
  | .establishing, _ => { run with buildersMade := run.buildersMade + 1 }
  | _, .closing _ _ => { run with monitor := run.monitor.map MonitorRun.cancel }
  | .closing _ _, _ => { run with monitor := none, tunnel := none }
  | _, _ => run

def take? (run : EngineRun) (action : Action) : Option EngineRun := do
  let (worker, effects) ← run.worker.step? run.engine run.moment action
  let sightings := effects.map fun effect => ⟨run.now, run.tunnels - 1, effect⟩
  pure ({ run with
    worker := worker
    tunnel := afterRead run.tunnel action
    sightings := run.sightings ++ sightings }.follow run.worker.phase)

/-- Takes an action of the monitor. When it signals, the worker is notified. -/
def takeMonitor? (run : EngineRun) : Option EngineRun := do
  let monitor ← run.monitor
  let after ← monitor.act? run.now run.host.listing
  let run := { run with monitor := some after }
  if after.monitor.phase = .signalled then
    run.take? (.notify (.interfaceDown run.worker.control.generation))
  else pure run

def act? (run : EngineRun) : Option EngineRun :=
  match run.nextAction? with
  | some action => run.take? action
  | none => run.takeMonitor?

/-- The next instant at which something is due. -/
def due? (run : EngineRun) : Option Nat :=
  let workers := match run.worker.phase with
    | .backingOff deadline => some deadline
    | .servingPenalty deadline => some deadline
    | .running session => idleDeadline? run.worker session
    | _ => none
  match workers, run.monitor.bind MonitorRun.due? with
  | some a, some b => some (min a b)
  | some a, none => some a
  | none, due => due

/-- The actions that come with the next attempt, if it goes ahead at once. Of the attempts at one
instant only the first one does. -/
def attemptAhead (worker : Worker) (now : Nat) : Nat :=
  if worker.throttle.lastAttempt.any (now ≤ ·) then 0 else 9

/-- The actions of a worker at one instant, without those of its next attempt. -/
def stepsAhead (worker : Worker) (now : Nat) : Nat :=
  match worker.phase with
  | .created => 2
  | .backingOff deadline => if deadline ≤ now then 9 else 1
  | .servingPenalty _ => 8
  | .establishing => 7
  | .running session =>
    4 + session.state.completions.waiting.length +
      if (idleDeadline? worker session).any (· ≤ now) then 1 else 0
  | .closing _ _ => 3
  | .waitingForNetwork => 2
  | .finished => 0

/-- More actions cannot be due at this instant. -/
def actionsLeft (run : EngineRun) : Nat :=
  attemptAhead run.worker run.now + stepsAhead run.worker run.now + run.worker.notices.length +
    (run.tunnel.map (·.unread.length)).getD 0 + (run.monitor.map (·.actionsLeft run.now)).getD 0

def settle (run : EngineRun) : EngineRun := stepsWithin act? run.actionsLeft run

/-- Does all that comes due until an instant, moving the clock at most so many times. -/
def runUntil (target : Nat) : (moves : Nat) → EngineRun → EngineRun
  | 0, run => run
  | moves + 1, run =>
    match run.due? with
    | some due =>
      if due ≤ target then runUntil target moves { run with now := due }.settle else run
    | none => run

/-- Lets the clock go on to an instant. Each move takes it on by a nanosecond or more. -/
def advanceTo (run : EngineRun) (target : Nat) : EngineRun :=
  let run := runUntil target (target - run.now) run
  { run with now := max run.now target }.settle

/-- Lets the clock run until the worker has finished, moving it at most so many times. -/
def runToEnd : (moves : Nat) → EngineRun → EngineRun
  | 0, run => run
  | moves + 1, run =>
    match run.worker.phase, run.due? with
    | .finished, _ => run
    | _, some due => runToEnd moves { run with now := due }.settle
    | _, none => run

def start (settings : Settings) (host : SimulatedHost) : Except Error EngineRun := do
  let worker ← Worker.new settings (host.platform 0).networks
  pure (settle ⟨.ofSettings settings, host, 0, worker, none, none, 0, 0, []⟩)

/-- Notices reach a worker until it has finished. -/
def notify (run : EngineRun) (notice : Notice) : EngineRun :=
  match run.take? (.notify notice) with
  | some run => run.settle
  | none => run

def requestStop (run : EngineRun) : EngineRun :=
  match run.take? .requestStop with
  | some run => { run with monitor := run.monitor.map MonitorRun.cancel }.settle
  | none => run

/-- Requests a stop and waits until the worker has finished. All that it may have to wait for is
the monitor of its session, and that of one more session. -/
def stop (run : EngineRun) : EngineRun := runToEnd 2 run.requestStop

def hasOpenTunnel (run : EngineRun) : Bool := run.tunnel.any fun tunnel => !tunnel.closed

def onTunnel (run : EngineRun) (change : SimulatedTunnel → SimulatedTunnel) : EngineRun :=
  { run with tunnel := run.tunnel.map change }.settle

def feed (run : EngineRun) (read : TunnelRead) : EngineRun :=
  if run.hasOpenTunnel then
    run.onTunnel fun tunnel => { tunnel with unread := tunnel.unread ++ [read] }
  else run

def closeTunnel (run : EngineRun) : EngineRun :=
  run.onTunnel fun tunnel => { tunnel with closed := true }

end EngineRun

end Sinkhole
