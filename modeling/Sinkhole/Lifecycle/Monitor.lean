import Sinkhole.Lifecycle.Interface

/-! # Monitor

One monitor runs beside each session. It asks for the interfaces at once and then at every tick.
The first listing that has a tunnel interface tells it which one to watch, and counts as alive;
the first later listing in which that interface is not up makes it signal, once, and end. A
cancelled monitor ends when it comes to wait, so a listing under way is still judged.
-/
namespace Sinkhole

inductive MonitorPhase where
  /-- The interfaces were asked for. -/
  | listing
  /-- Waits for the next tick. -/
  | waiting
  | ended
  /-- Ended because the interface is down. -/
  | signalled
deriving DecidableEq, Repr

structure Monitor where
  phase : MonitorPhase
  /-- The interface that is watched, once one was found. -/
  watched : Option String
  cancelled : Bool
deriving DecidableEq, Repr

namespace Monitor

def initial : Monitor := ⟨.listing, none, false⟩

def isUp (name : String) (interfaces : List Interface) : Bool :=
  interfaces.any fun interface => interface.name = name && interface.up

/-- Judges a listing. -/
def check (monitor : Monitor) (interfaces : List Interface) : Monitor :=
  match monitor.watched with
  | none => { monitor with watched := tunnelInterface? interfaces, phase := .waiting }
  | some name =>
    if isUp name interfaces then { monitor with phase := .waiting }
    else { monitor with phase := .signalled }

inductive Event where
  /-- The listing that was asked for is there. -/
  | listed (interfaces : List Interface)
  | tick
  | cancel
  /-- The monitor takes notice of that. -/
  | yield
deriving DecidableEq, Repr

/-- The monitor after an event, if the event can happen. When a tick and a cancellation are both
there, either may be taken. -/
def step? (monitor : Monitor) : Event → Option Monitor
  | .listed interfaces =>
    if monitor.phase = .listing then some (monitor.check interfaces) else none
  | .tick =>
    if monitor.phase = .waiting then some { monitor with phase := .listing } else none
  | .cancel => some { monitor with cancelled := true }
  | .yield =>
    if monitor.phase = .waiting ∧ monitor.cancelled then some { monitor with phase := .ended }
    else none

def isOver (monitor : Monitor) : Bool :=
  match monitor.phase with
  | .ended | .signalled => true
  | .listing | .waiting => false

end Monitor

end Sinkhole
