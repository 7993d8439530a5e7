import Sinkhole.Lifecycle.Monitor
import Sinkhole.Time

/-! # A monitor on a simulated clock

The host says what the interfaces are when it is asked, and the answer arrives after the host's
delay. Ticks come at fixed instants after the first listing; those that were missed come at once.
-/
namespace Sinkhole

def stepsWithin {σ : Type} (step : σ → Option σ) : (fuel : Nat) → σ → σ
  | 0, state => state
  | fuel + 1, state =>
    match step state with
    | some next => stepsWithin step fuel next
    | none => state

structure InterfaceHost where
  interfaces : List Interface
  delay : Nat

structure MonitorRun where
  monitor : Monitor
  interval : Nat
  /-- What the host will say to the question under way, and when. -/
  arriving : Nat × List Interface
  /-- Set by the first listing. -/
  nextTick : Option Nat
  signalledAt : Option Nat

namespace MonitorRun

def checkInterval : Nat := seconds 10

def start (interval now : Nat) (host : InterfaceHost) : MonitorRun :=
  ⟨.initial, interval, (now + host.delay, host.interfaces), none, none⟩

/-- The instant of the monitor's next action, if one will come. -/
def due? (run : MonitorRun) : Option Nat :=
  match run.monitor.phase with
  | .listing => some run.arriving.1
  | .waiting => run.nextTick
  | .ended | .signalled => none

/-- What the monitor does next. A cancellation goes before a tick. -/
def nextEvent (run : MonitorRun) : Monitor.Event :=
  match run.monitor.phase with
  | .listing => .listed run.arriving.2
  | _ => if run.monitor.cancelled then .yield else .tick

def isDue (run : MonitorRun) (now : Nat) : Bool :=
  match run.monitor.phase with
  | .waiting => run.monitor.cancelled || run.nextTick.any (· ≤ now)
  | _ => run.due?.any (· ≤ now)

def act? (run : MonitorRun) (now : Nat) (host : InterfaceHost) : Option MonitorRun :=
  if run.isDue now then
    (run.monitor.step? run.nextEvent).map fun monitor =>
      { run with
        monitor := monitor
        arriving :=
          if run.nextEvent = .tick then (now + host.delay, host.interfaces) else run.arriving
        nextTick :=
          if run.nextEvent = .tick then run.nextTick.map (· + run.interval)
          else some (run.nextTick.getD (now + run.interval))
        signalledAt := if monitor.phase = .signalled then some now else none }
  else none

def cancel (run : MonitorRun) : MonitorRun :=
  { run with monitor := { run.monitor with cancelled := true } }

/-- The ticks that were missed, with one that comes at this instant. -/
def ticksDue (run : MonitorRun) (now : Nat) : Nat :=
  match run.nextTick with
  | some tick => if tick ≤ now then (now - tick) / run.interval + 1 else 0
  | none => 0

/-- More actions cannot be due at an instant: each tick brings a listing, and one listing and the
end can come besides. -/
def actionsLeft (run : MonitorRun) (now : Nat) : Nat :=
  match run.monitor.phase with
  | .listing => 2 * run.ticksDue now + 2
  | .waiting => 2 * run.ticksDue now + 1
  | .ended | .signalled => 0

def settle (run : MonitorRun) (host : InterfaceHost) (now : Nat) : MonitorRun :=
  stepsWithin (·.act? now host) (run.actionsLeft now) run

/-- Does all that is due until an instant, moving the clock at most so many times. -/
def runUntil (host : InterfaceHost) (target : Nat) : (moves : Nat) → (now : Nat) → MonitorRun →
    MonitorRun
  | 0, now, run => run.settle host now
  | moves + 1, now, run =>
    let run := run.settle host now
    match run.due? with
    | some due => if due ≤ target then runUntil host target moves (max now due) run else run
    | none => run

/-- Lets the clock go from one instant to another. Each move takes it on by a nanosecond or more. -/
def advance (run : MonitorRun) (host : InterfaceHost) (now target : Nat) : MonitorRun :=
  runUntil host target (target - now) now run

end MonitorRun

end Sinkhole
