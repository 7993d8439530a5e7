import Sinkhole.Error
import Sinkhole.Time

/-! # Watchdog

When the tunnel was idle for a whole poll timeout, an empty datagram is sent to the default server
through the tunnel. A packet read after it proves the path alive; a second timeout with the probe
unanswered is the verdict that the server cannot be reached. Poll timeouts grow fourfold with
every probe.
-/
namespace Sinkhole

def penaltyStep : Nat := millis 200
def penaltyMax : Nat := seconds 5

def pollTimeoutStart : Nat := seconds 1
def pollTimeoutEnd : Nat := seconds 4096
def pollTimeoutGrowth : Nat := 4

/-- The poll timeout while a probe is unanswered. -/
def pollTimeoutWaiting : Nat := seconds 7

def probePort : UInt16 := 53

/-- Whom a session's probes ask, and through which address. -/
structure WatchdogTarget where
  probe : Endpoint
  resolver : IpAddress
deriving DecidableEq, Repr

structure Watchdog where
  enabled : Bool
  penalty : Nat
  pollTimeout : Nat
  lastSent : Option Nat
  lastReceived : Option Nat
  target : Option WatchdogTarget
deriving DecidableEq, Repr

namespace Watchdog

def initial : Watchdog := ⟨false, 0, pollTimeoutStart, none, none, none⟩

def reset (watchdog : Watchdog) (enabled : Bool) : Watchdog :=
  { watchdog with
    enabled := enabled
    pollTimeout := pollTimeoutStart
    lastSent := none
    lastReceived := none }

/-- How long a session has to wait before it starts. -/
def currentPenalty (watchdog : Watchdog) : Nat :=
  if watchdog.enabled then watchdog.penalty else 0

/-- Once the penalty is served, the next one is longer. -/
def raisePenalty (watchdog : Watchdog) : Watchdog :=
  if watchdog.enabled then
    { watchdog with penalty := min (watchdog.penalty + penaltyStep) penaltyMax }
  else watchdog

/-- Resets for a new session and serves its penalty; the instant is when that is done. -/
def prepare (watchdog : Watchdog) (enabled : Bool) (now : Nat) : Nat × Watchdog :=
  let watchdog := watchdog.reset enabled
  (now + watchdog.currentPenalty, watchdog.raisePenalty)

def setTarget (watchdog : Watchdog) (probe resolver : IpAddress) : Watchdog :=
  { watchdog with target := some ⟨⟨probe, probePort⟩, resolver⟩ }

/-- A probe was sent and nothing was read since. -/
def probeOutstanding (watchdog : Watchdog) : Bool :=
  match watchdog.lastReceived, watchdog.lastSent with
  | _, none => false
  | none, some _ => true
  | some received, some sent => received < sent

/-- How long the event loop may stay idle; `none` is for ever. -/
def idleLimit (watchdog : Watchdog) : Option Nat :=
  if !watchdog.enabled then none
  else if watchdog.probeOutstanding then some pollTimeoutWaiting
  else some watchdog.pollTimeout

def packetRead (watchdog : Watchdog) (now : Nat) : Watchdog :=
  if watchdog.enabled then { watchdog with lastReceived := some now } else watchdog

/-- Sends a probe. The prober has a state of its own. -/
abbrev Prober (σ : Type) := Endpoint → σ → Option IoError × σ

/-- What a timeout led to. -/
structure TimeoutOutcome (σ : Type) where
  watchdog : Watchdog
  /-- The prober, as the timeout left it. -/
  prober : σ
  failure : Option Error
deriving DecidableEq, Repr

/-- The probe that was tried, if any, when the prober keeps the probes that it is to send. -/
def TimeoutOutcome.probe (outcome : TimeoutOutcome (List Endpoint)) : Option Endpoint :=
  outcome.prober.head?

/-- The event loop was idle for a whole poll timeout. -/
def timeout {σ : Type} (watchdog : Watchdog) (now : Nat) (send : Prober σ) (state : σ) :
    TimeoutOutcome σ :=
  match watchdog.enabled, watchdog.target with
  | false, _ => ⟨watchdog, state, none⟩
  | true, none => ⟨watchdog, state, none⟩
  | true, some target =>
    if watchdog.probeOutstanding then
      ⟨{ watchdog with pollTimeout := pollTimeoutStart }, state,
        some (.network (.watchdogTimeout target.resolver))⟩
    else
      let watchdog := { watchdog with
        pollTimeout := if watchdog.pollTimeout < pollTimeoutEnd then
            min (watchdog.pollTimeout * pollTimeoutGrowth) pollTimeoutEnd
          else watchdog.pollTimeout }
      let (failure, state) := send target.probe state
      match failure with
      | some cause => ⟨watchdog, state, some (.network (.sendFailed cause.message))⟩
      | none => ⟨{ watchdog with lastSent := some now }, state, none⟩

/-- A timeout before a prober that keeps nothing but the probes that it is to send. `send` is what
sending a probe gives. -/
def idleTimeout (watchdog : Watchdog) (now : Nat) (send : Endpoint → Option IoError) :
    TimeoutOutcome (List Endpoint) :=
  watchdog.timeout now (fun probe sent => (send probe, sent ++ [probe])) []

end Watchdog

end Sinkhole
