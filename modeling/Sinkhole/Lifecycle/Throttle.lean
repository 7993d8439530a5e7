import Sinkhole.Time

/-! # Spacing of connection attempts

An attempt that comes sooner than the current backoff doubles it and waits for what is left of the
new one. An attempt after a quiet period quarters the backoff, and one after more than the longest
backoff resets it.
-/
namespace Sinkhole

def minBackoff : Nat := seconds 1

def maxBackoff : Nat := seconds 128

structure Throttle where
  lastAttempt : Option Nat
  backoff : Nat
deriving DecidableEq, Repr

namespace Throttle

def initial : Throttle := ⟨none, minBackoff⟩

/-- Registers an attempt and says how long to wait before it, if at all. -/
def nextDelay (throttle : Throttle) (now : Nat) : Option Nat × Throttle :=
  match throttle.lastAttempt with
  | none => (none, { throttle with lastAttempt := some now })
  | some last =>
    let elapsed := now - last
    if elapsed < throttle.backoff then
      let backoff := min (throttle.backoff * 2) maxBackoff
      (some (backoff - elapsed), ⟨some now, backoff⟩)
    else
      let backoff :=
        if maxBackoff < elapsed then minBackoff else max (throttle.backoff / 4) minBackoff
      (none, ⟨some now, backoff⟩)

/-- Waits as long as the backoff requires; the instant is when the attempt may go ahead. -/
def wait (throttle : Throttle) (now : Nat) : Nat × Throttle :=
  match throttle.nextDelay now with
  | (none, throttle) => (now, throttle)
  | (some delay, throttle) => (timerFires (now + delay), throttle)

end Throttle

end Sinkhole
