import Sinkhole.Proofs.Lifecycle.Attempts

/-! # Attempts after a stop request

The event loop of a session looks at a stop request before anything else, and a session that failed
is not followed by another one once a stop was requested. While the worker connects or waits for a
network, however, the end of its wait may be taken instead of the stop request, so that one more
session can be attempted: never more than one, and exactly from the phases that lead to an attempt.
-/
namespace Sinkhole

/-- How many sessions can still be attempted after a stop request. -/
def WorkerPhase.attemptsLeft : WorkerPhase → Nat
  | .created | .backingOff _ | .servingPenalty _ | .establishing | .waitingForNetwork => 1
  | .closing _ (.ok .reconnect) | .closing _ (.ok .networkLost) => 1
  | .closing _ (.ok .stopped) | .closing _ (.error _) | .running _ | .finished => 0

namespace WorkerCore

variable {core after : WorkerCore} {action : Action} {phase : WorkerPhase} {effects : List Effect}

theorem attemptsLeft_afterSession {session : LiveSession} {outcome : Except Error SessionEnd}
    (hafter : AfterSession true outcome phase effects) :
    phase.attemptsLeft ≤ (WorkerPhase.closing session outcome).attemptsLeft := by
  cases hafter with
  | failed hstop _ _ => cases hstop
  | stopped => exact Nat.le_refl 0
  | networkLost => exact Nat.le_refl 1
  | requested deadline => exact Nat.le_refl 1
  | interrupted _ => exact Nat.le_refl 0
  | gaveUp _ _ => exact Nat.le_refl 0

/-- A stop request stays, and an attempt uses up the one that was left. -/
theorem attemptsLeft_of_step (hstep : Step core action after effects)
    (hstop : core.stopRequested = true) :
    after.stopRequested = true ∧
      attempts effects + after.phase.attemptsLeft ≤ core.phase.attemptsLeft := by
  cases hstep with
  -- A session hears nothing and sees no event once a stop was requested.
  | ended _ => cases hstop
  | heard _ _ _ => cases hstop
  | looped _ => cases hstop
  | stopRequested => exact ⟨rfl, Nat.le_of_eq (Nat.zero_add _)⟩
  | stoppedIdle _ => exact ⟨rfl, Nat.zero_le _⟩
  | notified notice => exact ⟨hstop, Nat.le_of_eq (Nat.zero_add _)⟩
  | @requestClosing session after outcome =>
    refine ⟨hstop, Nat.le_of_eq ?_⟩
    rcases outcome with error | reason
    · rfl
    · cases reason <;> rfl
  | notEstablished _ hafter =>
    refine ⟨hstop, ?_⟩
    obtain rfl : _ = true := hstop
    rw [attempts_configured, (attempts_afterSession hafter).1]
    cases hafter with
    | failed hfalse _ _ => cases hfalse
    | interrupted _ => exact Nat.le_refl 1
    | gaveUp hfalse _ => cases hfalse
  | closed hafter =>
    refine ⟨hstop, ?_⟩
    obtain rfl : _ = true := hstop
    rw [(attempts_afterSession hafter).1, Nat.zero_add]
    exact attemptsLeft_afterSession hafter
  | _ => exact ⟨hstop, Nat.le_refl _⟩

end WorkerCore

namespace Worker

variable {engine : Engine} {since : Nat} {worker last : Worker} {shown : List Effect}
  {run : List (Moment × Action)}

theorem attempts_le_attemptsLeft (hstop : worker.stopRequested = true)
    (hrun : worker.run? engine run = some (last, shown)) :
    attempts shown ≤ worker.phase.attemptsLeft := by
  have hkept : last.core.stopRequested = true ∧
      attempts shown + last.core.phase.attemptsLeft ≤ worker.phase.attemptsLeft := by
    refine run_induction (fun _ core shown => core.stopRequested = true ∧
      attempts shown + core.phase.attemptsLeft ≤ worker.phase.attemptsLeft) ?_ ?_ hrun
    · exact ⟨hstop, Nat.le_of_eq (Nat.zero_add _)⟩
    · rintro actions core shown action after later ⟨hstop, hleft⟩ hstep
      obtain ⟨hafter, hlater⟩ := WorkerCore.attemptsLeft_of_step hstep hstop
      refine ⟨hafter, ?_⟩
      rw [attempts_append]
      omega
  exact (Nat.le_add_right _ _).trans hkept.2

end Worker

end Sinkhole
