import Sinkhole.Proofs.Lifecycle.Backoff

/-! # How far apart attempts are

The time between two attempts is measured from where the first one was registered, so a delay that
was imposed on it counts as if its session had run that much longer. A session that fails at once
after a delay may therefore be followed by the next attempt without any, and the backoff shrinks
though nothing ever worked. Main statement: attempts are spaced, and the backoff grows under
failure, exactly when no session fails that early.
-/
namespace Sinkhole

/-- An attempt that goes ahead at `start`, the last part of the way there being its delay. -/
structure Attempt where
  throttle : Throttle
  delay : Nat
  start : Nat

namespace Attempt

def registered (throttle : Throttle) (now : Nat) : Attempt :=
  let (delay, throttle) := throttle.nextDelay now
  ⟨throttle, delay.getD 0, now + delay.getD 0⟩

def next (attempt : Attempt) (lifetime : Nat) : Attempt :=
  registered attempt.throttle (attempt.start + lifetime)

/-- The attempts of an engine that starts at `now` and whose sessions have these lifetimes. -/
def nth (now : Nat) (lifetimes : Nat → Nat) : Nat → Attempt
  | 0 => registered .initial now
  | n + 1 => (nth now lifetimes n).next (lifetimes n)

variable {attempt : Attempt} {lifetime now : Nat} {lifetimes : Nat → Nat}

/-- Where the end of its delay is one that a timer can hit, the attempt waits as the engine does. -/
theorem wait_eq (throttle : Throttle) (now : Nat)
    (h : timerFires (registered throttle now).start = (registered throttle now).start) :
    throttle.wait now = ((registered throttle now).start, (registered throttle now).throttle) := by
  unfold Throttle.wait
  unfold registered at h ⊢
  generalize throttle.nextDelay now = answer at h ⊢
  rcases answer with ⟨delay, next⟩
  cases delay with
  | none => rfl
  | some delay =>
    simp only [Option.getD_some] at h ⊢
    rw [h]

structure Paced (attempt : Attempt) : Prop where
  exists_last : ∃ last, attempt.throttle.lastAttempt = some last ∧
    attempt.start = last + attempt.delay
  minBackoff_le : minBackoff ≤ attempt.throttle.backoff
  le_maxBackoff : attempt.throttle.backoff ≤ maxBackoff

theorem minBackoff_le_maxBackoff : minBackoff ≤ maxBackoff := by decide

theorem paced_registered_initial (now : Nat) : (registered .initial now).Paced where
  exists_last := ⟨now, rfl, rfl⟩
  minBackoff_le := Nat.le_refl minBackoff
  le_maxBackoff := minBackoff_le_maxBackoff

theorem Paced.next_of_lt (h : attempt.Paced)
    (hlt : attempt.delay + lifetime < attempt.throttle.backoff) :
    attempt.next lifetime =
      ⟨⟨some (attempt.start + lifetime), min (attempt.throttle.backoff * 2) maxBackoff⟩,
        min (attempt.throttle.backoff * 2) maxBackoff - (attempt.delay + lifetime),
        attempt.start + lifetime +
          (min (attempt.throttle.backoff * 2) maxBackoff - (attempt.delay + lifetime))⟩ := by
  obtain ⟨last, hlast, hstart⟩ := h.exists_last
  -- The delay counts as part of the time since the attempt was registered.
  have helapsed : attempt.start + lifetime - last = attempt.delay + lifetime := by omega
  rw [next, registered, Throttle.nextDelay_of_lt hlast (helapsed ▸ hlt), helapsed]
  rfl

theorem Paced.next_of_le (h : attempt.Paced)
    (hle : attempt.throttle.backoff ≤ attempt.delay + lifetime) :
    ∃ backoff, minBackoff ≤ backoff ∧ backoff ≤ maxBackoff ∧ attempt.next lifetime =
      ⟨⟨some (attempt.start + lifetime), backoff⟩, 0, attempt.start + lifetime⟩ := by
  obtain ⟨last, hlast, hstart⟩ := h.exists_last
  have helapsed : attempt.start + lifetime - last = attempt.delay + lifetime := by omega
  have hmin := minBackoff_le_maxBackoff
  have hmax := h.le_maxBackoff
  refine ⟨if maxBackoff < attempt.delay + lifetime then minBackoff
    else max (attempt.throttle.backoff / 4) minBackoff, ?_, ?_, ?_⟩
  · split <;> omega
  · split <;> omega
  · rw [next, registered, Throttle.nextDelay_of_le hlast (helapsed ▸ hle), helapsed]
    rfl

theorem Paced.paced_next (h : attempt.Paced) (lifetime : Nat) : (attempt.next lifetime).Paced := by
  have hmin := h.minBackoff_le
  have hmax := h.le_maxBackoff
  by_cases hlt : attempt.delay + lifetime < attempt.throttle.backoff
  · rw [h.next_of_lt hlt]
    refine ⟨⟨_, rfl, rfl⟩, ?_, Nat.min_le_right _ _⟩
    show minBackoff ≤ min (attempt.throttle.backoff * 2) maxBackoff
    omega
  · obtain ⟨backoff, hleast, hmost, hnext⟩ := h.next_of_le (by omega : _ ≤ _ + lifetime)
    rw [hnext]
    exact ⟨⟨_, rfl, rfl⟩, hleast, hmost⟩

theorem paced_nth (now : Nat) (lifetimes : Nat → Nat) (n : Nat) : (nth now lifetimes n).Paced := by
  induction n with
  | zero => exact paced_registered_initial now
  | succ n ih => exact ih.paced_next (lifetimes n)

/-- The session fails in less than the least backoff, but the delay before it makes up for that:
together they reach the backoff, or the delay alone leaves less than the least backoff of the
longest one. -/
def FailsEarly (attempt : Attempt) (lifetime : Nat) : Prop :=
  lifetime < minBackoff ∧
    (attempt.throttle.backoff ≤ attempt.delay + lifetime ∨
      maxBackoff < attempt.delay + minBackoff)

theorem Paced.spaced_iff (h : attempt.Paced) :
    attempt.start + minBackoff ≤ (attempt.next lifetime).start ↔
      ¬ attempt.FailsEarly lifetime := by
  have hmin := h.minBackoff_le
  have hmax := h.le_maxBackoff
  unfold FailsEarly
  by_cases hlt : attempt.delay + lifetime < attempt.throttle.backoff
  · rw [h.next_of_lt hlt]
    dsimp only
    omega
  · obtain ⟨backoff, -, -, hnext⟩ := h.next_of_le (by omega : _ ≤ _ + lifetime)
    rw [hnext]
    dsimp only
    omega

theorem Paced.backoff_next (h : attempt.Paced) (hshort : lifetime < minBackoff)
    (hearly : ¬ attempt.FailsEarly lifetime) :
    (attempt.next lifetime).throttle.backoff = min (attempt.throttle.backoff * 2) maxBackoff := by
  have hlt : attempt.delay + lifetime < attempt.throttle.backoff := by
    unfold FailsEarly at hearly
    omega
  rw [h.next_of_lt hlt]

theorem backoff_nth (hshort : ∀ n, lifetimes n < minBackoff)
    (hearly : ∀ n, ¬ (nth now lifetimes n).FailsEarly (lifetimes n)) (n : Nat) :
    (nth now lifetimes n).throttle.backoff = min (minBackoff * 2 ^ n) maxBackoff := by
  induction n with
  | zero => rfl
  | succ n ih =>
    have hnext := (paced_nth now lifetimes n).backoff_next (hshort n) (hearly n)
    rw [nth, hnext, ih, Nat.pow_succ, ← Nat.mul_assoc]
    omega

theorem maxBackoff_le_doubled {n : Nat} (h : 7 ≤ n) : maxBackoff ≤ minBackoff * 2 ^ n := by
  have hpow : 2 ^ 7 ≤ 2 ^ n := Nat.pow_le_pow_right (by decide) h
  have hlast : maxBackoff = minBackoff * 2 ^ 7 := by decide
  rw [hlast]
  exact Nat.mul_le_mul_left minBackoff hpow

end Attempt

open Attempt

/-- Attempts are never closer than the least backoff, the backoff does not shrink while all
sessions fail faster than that, and if they always do it gets to the longest one and stays there. -/
structure SpacesAttempts (now : Nat) (lifetimes : Nat → Nat) : Prop where
  spaced : ∀ n, (nth now lifetimes n).start + minBackoff ≤ (nth now lifetimes (n + 1)).start
  grows : ∀ n, (∀ k ≤ n, lifetimes k < minBackoff) →
    (nth now lifetimes n).throttle.backoff ≤ (nth now lifetimes (n + 1)).throttle.backoff
  escalates : (∀ n, lifetimes n < minBackoff) →
    ∃ n, ∀ m, n ≤ m → (nth now lifetimes m).throttle.backoff = maxBackoff

/-- Attempts are spaced as they should be exactly when no session fails early. -/
theorem spacesAttempts_iff (now : Nat) (lifetimes : Nat → Nat) :
    SpacesAttempts now lifetimes ↔
      ∀ n, ¬ (nth now lifetimes n).FailsEarly (lifetimes n) := by
  constructor
  · intro hspaces n
    exact (paced_nth now lifetimes n).spaced_iff.1 (hspaces.spaced n)
  · intro hearly
    refine ⟨fun n => (paced_nth now lifetimes n).spaced_iff.2 (hearly n), ?_, ?_⟩
    · intro n hshort
      have hpaced := paced_nth now lifetimes n
      have hnext := hpaced.backoff_next (hshort n (Nat.le_refl n)) (hearly n)
      have hmax := hpaced.le_maxBackoff
      rw [nth, hnext]
      omega
    · intro hshort
      refine ⟨7, fun m hm => ?_⟩
      rw [backoff_nth hshort hearly m]
      exact Nat.min_eq_right (maxBackoff_le_doubled hm)

/-- Sessions that fail at once: the second attempt waits two seconds, the third not at all. -/
theorem not_spacesAttempts_failsAtOnce : ¬ SpacesAttempts 0 fun _ => 0 := by
  intro hspaces
  have hearly := (paced_nth 0 (fun _ => 0) 1).spaced_iff.1 (hspaces.spaced 1)
  exact hearly ⟨by decide, Or.inl (by decide)⟩

end Sinkhole
