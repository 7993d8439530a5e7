/-! # Time

An instant is the number of nanoseconds since the clock started, and a duration is a number of
nanoseconds. Timers have millisecond resolution and never fire early.
-/
namespace Sinkhole

def millis (n : Nat) : Nat := n * 1000000

def seconds (n : Nat) : Nat := n * 1000000000

/-- The instant at which a timer set for `deadline` fires. -/
def timerFires (deadline : Nat) : Nat :=
  (deadline + 999999) / 1000000 * 1000000

theorem le_timerFires (deadline : Nat) : deadline ≤ timerFires deadline := by
  simp only [timerFires]
  omega

theorem timerFires_millis (n : Nat) : timerFires (millis n) = millis n := by
  simp only [timerFires, millis]
  omega

end Sinkhole
