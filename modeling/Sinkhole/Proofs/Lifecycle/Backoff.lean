import Mathlib
import Sinkhole.Lifecycle.Throttle

/-! # Levels of the backoff

Attempts may be registered at any instants, also at earlier and earlier ones. The backoff stands on
one of eight levels, the powers of two from one second to 128. An attempt that comes too soon goes
up by one level and waits for what is left of it; any other goes down by two, since a quarter of a
level is the second one below, and right down to the first after more than the longest backoff.
Main statement: what a throttle answers and what it keeps, after any attempts.
-/
namespace Sinkhole.Throttle

def backoffAt (level : Nat) : Nat := seconds (2 ^ level)

def topLevel : Nat := 7

theorem backoffAt_zero : backoffAt 0 = minBackoff := rfl

theorem backoffAt_topLevel : backoffAt topLevel = maxBackoff := rfl

variable {level : Nat}

theorem backoffAt_succ (level : Nat) : backoffAt (level + 1) = backoffAt level * 2 := by
  simp only [backoffAt, seconds, Nat.pow_succ]
  omega

theorem monotone_backoffAt : Monotone backoffAt := fun _ _ h =>
  Nat.mul_le_mul_right _ (Nat.pow_le_pow_right (by decide) h)

theorem backoffAt_le_maxBackoff (h : level ≤ topLevel) : backoffAt level ≤ maxBackoff := by
  rw [← backoffAt_topLevel]
  exact monotone_backoffAt h

theorem minBackoff_le_backoffAt (level : Nat) : minBackoff ≤ backoffAt level := by
  rw [← backoffAt_zero]
  exact monotone_backoffAt (Nat.zero_le level)

theorem min_backoffAt_mul (level : Nat) :
    min (backoffAt level * 2) maxBackoff = backoffAt (min (level + 1) topLevel) := by
  rw [← backoffAt_succ, ← backoffAt_topLevel, monotone_backoffAt.map_min]

theorem max_backoffAt_div (level : Nat) :
    max (backoffAt level / 4) minBackoff = backoffAt (level - 2) := by
  match level with
  | 0 => rfl
  | 1 => rfl
  | level + 2 =>
    have hquarter : backoffAt (level + 2) / 4 = backoffAt level := by
      rw [backoffAt_succ, backoffAt_succ]
      omega
    rw [hquarter, Nat.add_sub_cancel, Nat.max_eq_left (minBackoff_le_backoffAt level)]

def after (throttle : Throttle) (instants : List Nat) : Throttle :=
  instants.foldl (fun throttle now => (throttle.nextDelay now).2) throttle

def delays (throttle : Throttle) : List Nat → List (Option Nat)
  | [] => []
  | now :: instants => (throttle.nextDelay now).1 :: (throttle.nextDelay now).2.delays instants

variable {throttle : Throttle} {last now delay : Nat}

theorem after_concat (throttle : Throttle) (instants : List Nat) (now : Nat) :
    throttle.after (instants ++ [now]) = ((throttle.after instants).nextDelay now).2 := by
  rw [after, after, List.foldl_append]
  rfl

theorem after_append (throttle : Throttle) (instants more : List Nat) :
    throttle.after (instants ++ more) = (throttle.after instants).after more := by
  rw [after, after, after, List.foldl_append]

theorem lastAttempt_nextDelay (throttle : Throttle) (now : Nat) :
    (throttle.nextDelay now).2.lastAttempt = some now := by
  rw [nextDelay]
  split
  · rfl
  · dsimp only
    split <;> rfl

theorem lastAttempt_after (instants : List Nat) :
    (initial.after instants).lastAttempt = instants.getLast? := by
  induction instants using List.reverseRecOn with
  | nil => rfl
  | append_singleton instants now =>
    rw [after_concat, lastAttempt_nextDelay, List.getLast?_concat]

theorem nextDelay_of_none (h : throttle.lastAttempt = none) :
    throttle.nextDelay now = (none, ⟨some now, throttle.backoff⟩) := by
  rw [nextDelay, h]

theorem nextDelay_of_lt (h : throttle.lastAttempt = some last)
    (hlt : now - last < throttle.backoff) :
    throttle.nextDelay now =
      (some (min (throttle.backoff * 2) maxBackoff - (now - last)),
        ⟨some now, min (throttle.backoff * 2) maxBackoff⟩) := by
  rw [nextDelay, h]
  exact if_pos hlt

theorem nextDelay_of_le (h : throttle.lastAttempt = some last)
    (hle : throttle.backoff ≤ now - last) :
    throttle.nextDelay now =
      (none, ⟨some now, if maxBackoff < now - last then minBackoff
        else max (throttle.backoff / 4) minBackoff⟩) := by
  rw [nextDelay, h]
  exact if_neg (Nat.not_lt.2 hle)

structure IsAt (throttle : Throttle) (level : Nat) : Prop where
  le_topLevel : level ≤ topLevel
  backoff_eq : throttle.backoff = backoffAt level

theorem isAt_initial : initial.IsAt 0 := ⟨Nat.zero_le _, rfl⟩

theorem IsAt.backoff_le_maxBackoff (h : throttle.IsAt level) : throttle.backoff ≤ maxBackoff := by
  rw [h.backoff_eq]
  exact backoffAt_le_maxBackoff h.le_topLevel

theorem IsAt.raised (h : throttle.IsAt level) (hlast : throttle.lastAttempt = some last)
    (hlt : now - last < throttle.backoff) :
    (throttle.nextDelay now).2.IsAt (min (level + 1) topLevel) := by
  rw [nextDelay_of_lt hlast hlt, h.backoff_eq, min_backoffAt_mul]
  exact ⟨Nat.min_le_right _ _, rfl⟩

theorem IsAt.lowered (h : throttle.IsAt level) (hlast : throttle.lastAttempt = some last)
    (hle : throttle.backoff ≤ now - last) :
    ∃ lower ≤ level - 2, (throttle.nextDelay now).2.IsAt lower := by
  rw [nextDelay_of_le hlast hle]
  split
  · exact ⟨0, Nat.zero_le _, Nat.zero_le _, rfl⟩
  · refine ⟨level - 2, Nat.le_refl _, (Nat.sub_le level 2).trans h.le_topLevel, ?_⟩
    rw [h.backoff_eq]
    exact max_backoffAt_div level

theorem exists_isAt_nextDelay (h : throttle.IsAt level) (now : Nat) :
    ∃ next, (throttle.nextDelay now).2.IsAt next := by
  cases hlast : throttle.lastAttempt with
  | none =>
    rw [nextDelay_of_none hlast]
    exact ⟨level, h.le_topLevel, h.backoff_eq⟩
  | some last =>
    rcases Nat.lt_or_ge (now - last) throttle.backoff with hlt | hle
    · exact ⟨_, h.raised hlast hlt⟩
    · obtain ⟨lower, -, hlower⟩ := h.lowered hlast hle
      exact ⟨lower, hlower⟩

theorem exists_isAt_after (instants : List Nat) :
    ∃ level, (initial.after instants).IsAt level := by
  induction instants using List.reverseRecOn with
  | nil => exact ⟨0, isAt_initial⟩
  | append_singleton instants now ih =>
    obtain ⟨level, hlevel⟩ := ih
    rw [after_concat]
    exact exists_isAt_nextDelay hlevel now

theorem IsAt.lowered_of_delays {count : Nat} {instants : List Nat} (h : throttle.IsAt level)
    (hlast : throttle.lastAttempt = some last)
    (hnone : throttle.delays instants = List.replicate count none) :
    ∃ lower ≤ level - 2 * count, (throttle.after instants).IsAt lower := by
  induction count generalizing throttle level last instants with
  | zero =>
    cases instants with
    | nil => exact ⟨level, Nat.le_refl _, h⟩
    | cons now instants => cases hnone
  | succ count ih =>
    cases instants with
    | nil => cases hnone
    | cons now instants =>
      rw [delays, List.replicate_succ, List.cons.injEq] at hnone
      have hle : throttle.backoff ≤ now - last := by
        by_contra hlt
        rw [nextDelay_of_lt hlast (Nat.not_le.1 hlt)] at hnone
        cases hnone.1
      obtain ⟨next, hnext, hat⟩ := h.lowered hlast hle
      obtain ⟨lower, hlower, hat⟩ := ih hat (lastAttempt_nextDelay throttle now) hnone.2
      refine ⟨lower, ?_, hat⟩
      omega

/-- What a call answers and keeps that comes so long after the one before. -/
structure Registers (before : Throttle) (elapsed : Nat) (delay : Option Nat) (next : Throttle) :
    Prop where
  delayed_iff : delay.isSome ↔ elapsed < before.backoff
  bounds : ∀ rest ∈ delay, 0 < rest ∧ rest ≤ maxBackoff
  reaches : ∀ rest ∈ delay,
    elapsed + rest = next.backoff ∧ next.backoff = min (2 * before.backoff) maxBackoff
  resets : maxBackoff < elapsed → next.backoff = minBackoff

theorem IsAt.registers (h : throttle.IsAt level) (hlast : throttle.lastAttempt = some last)
    (now : Nat) :
    throttle.Registers (now - last) (throttle.nextDelay now).1 (throttle.nextDelay now).2 := by
  have hmax := h.backoff_le_maxBackoff
  rcases Nat.lt_or_ge (now - last) throttle.backoff with hlt | hle
  · rw [nextDelay_of_lt hlast hlt]
    -- The doubled backoff is above the old one even where it is cut, so some delay is left.
    have hgrown : throttle.backoff ≤ min (throttle.backoff * 2) maxBackoff :=
      Nat.le_min.2 ⟨by omega, hmax⟩
    have hcut : min (throttle.backoff * 2) maxBackoff ≤ maxBackoff := Nat.min_le_right _ _
    refine ⟨iff_of_true rfl hlt, ?_, ?_, ?_⟩
    · rintro rest ⟨⟩
      omega
    · rintro rest ⟨⟩
      refine ⟨?_, ?_⟩
      · dsimp only
        omega
      · rw [Nat.mul_comm]
    · intro hlong
      omega
  · rw [nextDelay_of_le hlast hle]
    refine ⟨iff_of_false nofun (Nat.not_lt.2 hle), nofun, nofun, ?_⟩
    intro hlong
    exact if_pos hlong

/-- What holds of a throttle after attempts at these instants, and of the calls that come next. -/
structure KeepsBackoff (instants : List Nat) : Prop where
  onLevel : ∃ level ≤ 7, (initial.after instants).backoff = seconds (2 ^ level)
  first : instants = [] → ∀ now, ((initial.after instants).nextDelay now).1 = none
  later : ∀ last ∈ instants.getLast?, ∀ now, (initial.after instants).Registers (now - last)
    ((initial.after instants).nextDelay now).1 ((initial.after instants).nextDelay now).2
  settles : instants ≠ [] → ∀ more, (initial.after instants).delays more = List.replicate 4 none →
    (initial.after (instants ++ more)).backoff = minBackoff

theorem keepsBackoff (instants : List Nat) : KeepsBackoff instants := by
  obtain ⟨level, hlevel⟩ := exists_isAt_after instants
  have hlast := lastAttempt_after instants
  refine ⟨⟨level, hlevel.le_topLevel, hlevel.backoff_eq⟩, ?_, ?_, ?_⟩
  · rintro rfl now
    exact congrArg Prod.fst (nextDelay_of_none hlast)
  · intro last hmem now
    rw [hmem] at hlast
    exact hlevel.registers hlast now
  · intro hne more hnone
    rw [List.getLast?_eq_some_getLast hne] at hlast
    obtain ⟨lower, hlower, hat⟩ := hlevel.lowered_of_delays hlast hnone
    -- Four times two levels are more than there are.
    have hzero : lower = 0 := by
      have htop : level ≤ 7 := hlevel.le_topLevel
      omega
    rw [after_append, hat.backoff_eq, hzero, backoffAt_zero]

end Sinkhole.Throttle
