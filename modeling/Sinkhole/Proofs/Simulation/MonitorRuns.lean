import Mathlib
import Sinkhole.Proofs.Lifecycle.Cancelling
import Sinkhole.Simulation.MonitorRun

/-! # Simulated monitors

The clock of a simulated monitor stands still until nothing is due any more, so each action at one
instant must bring that closer: `actionsLeft` goes down with every one. Main statement: whatever a
simulated monitor does is what a monitor can do, and nothing that is due until an instant is left
out.
-/
namespace Sinkhole

section Steps

variable {σ : Type} {step : σ → Option σ} {property : σ → Prop} {left : σ → Nat} {state : σ}

theorem stepsWithin_keeps (hstep : ∀ state next, property state → step state = some next →
    property next) (fuel : Nat) (hstart : property state) :
    property (stepsWithin step fuel state) := by
  induction fuel generalizing state with
  | zero => exact hstart
  | succ fuel ih =>
    rw [stepsWithin]
    cases hnext : step state with
    | none => exact hstart
    | some next => exact ih (hstep state next hstart hnext)

/-- Where every step takes from what is left, nothing is left after as many. -/
theorem step_stepsWithin {fuel : Nat} (hstep : ∀ state next, property state →
    step state = some next → property next ∧ left next < left state)
    (hstart : property state) (hfuel : left state ≤ fuel) :
    step (stepsWithin step fuel state) = none := by
  induction fuel generalizing state with
  | zero =>
    rw [stepsWithin, Option.eq_none_iff_forall_ne_some]
    intro next hnext
    have hless := (hstep state next hstart hnext).2
    omega
  | succ fuel ih =>
    rw [stepsWithin]
    cases hnext : step state with
    | none => exact hnext
    | some next =>
      obtain ⟨hkept, hless⟩ := hstep state next hstart hnext
      exact ih hkept (by omega)

end Steps

namespace MonitorRun

variable {run next : MonitorRun} {host : InterfaceHost} {now target : Nat}

/-- The next event can always happen when it is due, and what is left of the run goes with it. -/
theorem act?_cases (h : run.act? now host = some next) :
    next.interval = run.interval ∧ run.monitor.step? run.nextEvent = some next.monitor ∧
      (run.monitor.phase = .listing ∧
          next.nextTick = some (run.nextTick.getD (now + run.interval)) ∨
        run.monitor.phase = .waiting ∧ next.monitor.phase = .ended ∨
        run.monitor.phase = .waiting ∧ next.monitor.phase = .listing ∧
          ∃ tick ≤ now, run.nextTick = some tick ∧ next.nextTick = some (tick + run.interval)) := by
  obtain ⟨hdue, hnext⟩ := Option.ite_none_right_eq_some.1 h
  obtain ⟨monitor, hstep, rfl⟩ := Option.map_eq_some_iff.1 hnext
  refine ⟨rfl, hstep, ?_⟩
  cases hphase : run.monitor.phase with
  | listing =>
    left
    simp [nextEvent, hphase]
  | waiting =>
    right
    cases hcancelled : run.monitor.cancelled with
    | true =>
      have hevent : run.nextEvent = .yield := by simp [nextEvent, hphase, hcancelled]
      rw [hevent, Monitor.step?, if_pos ⟨hphase, hcancelled⟩] at hstep
      cases hstep
      exact .inl ⟨rfl, rfl⟩
    | false =>
      have hevent : run.nextEvent = .tick := by simp [nextEvent, hphase, hcancelled]
      rw [isDue, hphase, hcancelled, Bool.false_or, Option.any_eq_true] at hdue
      obtain ⟨tick, htick, hle⟩ := hdue
      rw [hevent, Monitor.step?, if_pos hphase] at hstep
      cases hstep
      exact .inr ⟨rfl, rfl, tick, of_decide_eq_true hle, htick, by simp [hevent, htick]⟩
  | ended => simp [isDue, due?, hphase] at hdue
  | signalled => simp [isDue, due?, hphase] at hdue

theorem nextEvent_ne_cancel (run : MonitorRun) : run.nextEvent ≠ .cancel := by
  rw [nextEvent]
  split
  · exact nofun
  · split <;> exact nofun

theorem cancelled_of_act? (h : run.act? now host = some next) :
    next.monitor.cancelled = run.monitor.cancelled := by
  obtain ⟨-, hstep, -⟩ := act?_cases h
  rcases Monitor.step_cases hstep with ⟨interfaces, -, -, hcheck⟩ | ⟨-, -, hlisting⟩ |
    ⟨hcancel, -⟩ | ⟨-, -, hended⟩
  · rw [hcheck, Monitor.check_cancelled]
  · rw [hlisting]
  · exact absurd hcancel (nextEvent_ne_cancel run)
  · rw [hended]

theorem isSome_act?_of_isDue (host : InterfaceHost) (h : run.isDue now = true) :
    (run.act? now host).isSome = true := by
  rw [act?, if_pos h, Option.isSome_map]
  cases hphase : run.monitor.phase with
  | listing => simp [nextEvent, hphase, Monitor.step?]
  | waiting =>
    cases hcancelled : run.monitor.cancelled <;>
      simp [nextEvent, hphase, hcancelled, Monitor.step?]
  | ended => simp [isDue, due?, hphase] at h
  | signalled => simp [isDue, due?, hphase] at h

theorem isSome_act?_iff (host : InterfaceHost) :
    (run.act? now host).isSome = true ↔ run.isDue now = true := by
  refine ⟨fun hsome => ?_, isSome_act?_of_isDue host⟩
  obtain ⟨next, hnext⟩ := Option.isSome_iff_exists.1 hsome
  exact (Option.ite_none_right_eq_some.1 hnext).1

theorem lt_of_isDue_eq_false (h : run.isDue now = false) : ∀ due ∈ run.due?, now < due := by
  intro due hdue
  rw [isDue] at h
  by_contra hle
  have hpast : run.due?.any (· ≤ now) = true :=
    (Option.any_eq_true _ _).2 ⟨due, hdue, decide_eq_true (Nat.le_of_not_lt hle)⟩
  cases hphase : run.monitor.phase with
  | waiting =>
    rw [due?, hphase] at hpast
    simp [hphase, hpast] at h
  | _ => simp [hphase, hpast] at h

theorem ticksDue_of_taken {tick : Nat} (hinterval : 0 < run.interval)
    (hsame : next.interval = run.interval) (htick : run.nextTick = some tick) (hle : tick ≤ now)
    (hnext : next.nextTick = some (tick + run.interval)) :
    next.ticksDue now + 1 = run.ticksDue now := by
  simp only [ticksDue, htick, hnext, hsame, if_pos hle]
  split
  · rename_i hmissed
    rw [show now - tick = now - (tick + run.interval) + run.interval by omega,
      Nat.add_div_right _ hinterval]
  · rename_i hlast
    rw [Nat.div_eq_of_lt (by omega)]

theorem ticksDue_of_set (hinterval : 0 < run.interval) (hsame : next.interval = run.interval)
    (hnext : next.nextTick = some (run.nextTick.getD (now + run.interval))) :
    next.ticksDue now = run.ticksDue now := by
  cases htick : run.nextTick with
  | none =>
    simp only [ticksDue, htick, hnext, Option.getD_none]
    exact if_neg (by omega)
  | some tick => simp only [ticksDue, htick, hnext, hsame, Option.getD_some]

theorem phase_check_ne_listing (monitor : Monitor) (interfaces : List Interface) :
    (monitor.check interfaces).phase ≠ .listing := by
  rw [Monitor.check]
  split
  · simp
  · split <;> simp

theorem actionsLeft_le_of_not_listing (h : run.monitor.phase ≠ .listing) :
    run.actionsLeft now ≤ 2 * run.ticksDue now + 1 := by
  rw [actionsLeft]
  cases hphase : run.monitor.phase with
  | listing => exact absurd hphase h
  | waiting => exact Nat.le_refl _
  | ended => exact Nat.zero_le _
  | signalled => exact Nat.zero_le _

theorem actionsLeft_lt (hinterval : 0 < run.interval) (h : run.act? now host = some next) :
    next.actionsLeft now < run.actionsLeft now := by
  obtain ⟨hsame, hstep, hcases⟩ := act?_cases h
  rcases hcases with ⟨hphase, htick⟩ | ⟨hphase, hnext⟩ | ⟨hphase, hnext, tick, hle, htick, hlater⟩
  · have hticks := ticksDue_of_set hinterval hsame htick
    rcases Monitor.step_cases hstep with ⟨interfaces, -, -, hcheck⟩ | ⟨-, hother, -⟩ |
      ⟨hcancel, -⟩ | ⟨-, hother, -⟩
    · have hnot : next.monitor.phase ≠ .listing := hcheck ▸ phase_check_ne_listing _ interfaces
      have hle : next.actionsLeft now ≤ 2 * next.ticksDue now + 1 :=
        actionsLeft_le_of_not_listing hnot
      have hleft : run.actionsLeft now = 2 * run.ticksDue now + 2 := by rw [actionsLeft, hphase]
      omega
    · cases hphase.symm.trans hother
    · exact absurd hcancel (nextEvent_ne_cancel run)
    · cases hphase.symm.trans hother
  · simp only [actionsLeft, hphase, hnext]
    omega
  · have hticks := ticksDue_of_taken hinterval hsame htick hle hlater
    simp only [actionsLeft, hphase, hnext]
    omega

/-- A monitor signals on a listing, and then nothing is left for it to do. -/
theorem actionsLeft_of_signalled (h : run.act? now host = some next)
    (hsignalled : next.monitor.phase = .signalled) :
    next.actionsLeft now + 2 ≤ run.actionsLeft now := by
  obtain ⟨-, -, hcases⟩ := act?_cases h
  rcases hcases with ⟨hphase, -⟩ | ⟨-, hended⟩ | ⟨-, hlisting, -⟩
  · simp only [actionsLeft, hphase, hsignalled]
    omega
  · cases hsignalled.symm.trans hended
  · cases hsignalled.symm.trans hlisting

theorem isDue_or_isOver_of_act? (h : run.act? now host = some next)
    (hcancelled : run.monitor.cancelled = true) :
    next.isDue now = true ∨ next.monitor.isOver = true := by
  have hkept := (cancelled_of_act? h).trans hcancelled
  obtain ⟨-, hstep, hcases⟩ := act?_cases h
  cases hphase : next.monitor.phase with
  | waiting => exact .inl (by simp [isDue, hphase, hkept])
  | ended => exact .inr (by simp [Monitor.isOver, hphase])
  | signalled => exact .inr (by simp [Monitor.isOver, hphase])
  | listing =>
    rcases hcases with ⟨hlisting, -⟩ | ⟨-, hended⟩ | ⟨hwaiting, -⟩
    · rw [nextEvent, hlisting, Monitor.step?, if_pos hlisting] at hstep
      have hcheck := Option.some.inj hstep
      exact absurd (hcheck ▸ hphase) (phase_check_ne_listing _ _)
    · cases hphase.symm.trans hended
    · have hevent : run.nextEvent = .yield := by simp [nextEvent, hwaiting, hcancelled]
      rw [hevent, Monitor.step?, if_pos ⟨hwaiting, hcancelled⟩] at hstep
      have hended := congrArg Monitor.phase (Option.some.inj hstep)
      cases hended.trans hphase

theorem listing_of_cancelled (hcancelled : run.monitor.cancelled = true)
    (hdue : run.isDue now = false) (hover : run.monitor.isOver = false) :
    run.monitor.phase = .listing := by
  cases hphase : run.monitor.phase with
  | listing => rfl
  | waiting => simp [isDue, hphase, hcancelled] at hdue
  | ended => simp [Monitor.isOver, hphase] at hover
  | signalled => simp [Monitor.isOver, hphase] at hover

/-- What a simulated monitor may come to: events that a monitor can go through, at the pace of
before. -/
structure Follows (first last : MonitorRun) : Prop where
  interval : last.interval = first.interval
  events : ∃ events, first.monitor.through? events = some last.monitor

theorem Follows.refl (run : MonitorRun) : run.Follows run := ⟨rfl, [], rfl⟩

theorem Follows.trans {first middle last : MonitorRun} (h : first.Follows middle)
    (hrest : middle.Follows last) : first.Follows last := by
  obtain ⟨hinterval, front, hfront⟩ := h
  obtain ⟨hinterval', back, hback⟩ := hrest
  refine ⟨hinterval'.trans hinterval, front ++ back, ?_⟩
  rw [Monitor.through?_append, hfront]
  exact hback

theorem follows_of_act? (h : run.act? now host = some next) : run.Follows next := by
  obtain ⟨hsame, hstep, -⟩ := act?_cases h
  refine ⟨hsame, [run.nextEvent], ?_⟩
  rw [Monitor.through?_cons, hstep]
  rfl

theorem follows_settle (run : MonitorRun) (host : InterfaceHost) (now : Nat) :
    run.Follows (run.settle host now) :=
  stepsWithin_keeps (fun _ _ hbefore hstep => hbefore.trans (follows_of_act? hstep)) _ (.refl run)

theorem isDue_settle (hinterval : 0 < run.interval) : (run.settle host now).isDue now = false := by
  have hnone : (run.settle host now).act? now host = none :=
    step_stepsWithin
      (fun _ _ hpositive hstep =>
        ⟨(follows_of_act? hstep).interval ▸ hpositive, actionsLeft_lt hpositive hstep⟩)
      hinterval le_rfl
  rw [← Bool.not_eq_true, ← isSome_act?_iff host, hnone]
  exact Bool.false_ne_true

theorem follows_cancel (run : MonitorRun) : run.Follows run.cancel := ⟨rfl, [.cancel], rfl⟩

/-- A monitor that a simulation can have. -/
structure Proper (run : MonitorRun) : Prop where
  interval : 0 < run.interval
  events : ∃ schedule, Monitor.after? schedule = some run.monitor

theorem proper_start {interval : Nat} (hinterval : 0 < interval) (now : Nat)
    (host : InterfaceHost) : (start interval now host).Proper := ⟨hinterval, [], rfl⟩

theorem Proper.follows (h : run.Proper) (hfollows : run.Follows next) : next.Proper := by
  obtain ⟨hinterval, front, hfront⟩ := h
  obtain ⟨hsame, back, hback⟩ := hfollows
  refine ⟨hsame ▸ hinterval, front ++ back, ?_⟩
  rw [Monitor.after?_append, hfront]
  exact hback

theorem follows_runUntil (host : InterfaceHost) (target moves now : Nat) (run : MonitorRun) :
    run.Follows (runUntil host target moves now run) := by
  induction moves generalizing now run with
  | zero => exact follows_settle run host now
  | succ moves ih =>
    rw [runUntil]
    split
    · split
      · exact (follows_settle run host now).trans (ih _ _)
      · exact follows_settle run host now
    · exact follows_settle run host now

/-- Each move of the clock is to a later instant, so there are enough of them. -/
theorem lt_due_runUntil {moves : Nat} (hinterval : 0 < run.interval)
    (hmoves : target - now ≤ moves) :
    ∀ due ∈ (runUntil host target moves now run).due?, target < due := by
  have hlater : ∀ due ∈ (run.settle host now).due?, now < due :=
    lt_of_isDue_eq_false (isDue_settle hinterval)
  induction moves generalizing now run with
  | zero =>
    intro due hdue
    have hlt := hlater due hdue
    omega
  | succ moves ih =>
    rw [runUntil]
    split
    · rename_i due hdue
      have hlt := hlater due hdue
      have hpositive : 0 < (run.settle host now).interval :=
        (follows_settle run host now).interval ▸ hinterval
      split
      · rw [max_eq_right hlt.le]
        exact ih hpositive (by omega) (lt_of_isDue_eq_false (isDue_settle hpositive))
      · rename_i hnot
        intro other hother
        rw [hdue] at hother
        obtain rfl := Option.some.inj hother
        exact Nat.lt_of_not_le hnot
    · rename_i hnone
      intro due hdue
      rw [hnone] at hdue
      cases hdue

/-- A simulated monitor goes through events that a monitor can go through, and what is due by the
target was done. -/
theorem advance_done (hinterval : 0 < run.interval) (host : InterfaceHost) (now target : Nat) :
    (∃ events, run.monitor.through? events = some (run.advance host now target).monitor) ∧
      ∀ due ∈ (run.advance host now target).due?, target < due :=
  ⟨(follows_runUntil host target _ now run).events, lt_due_runUntil hinterval le_rfl⟩

end MonitorRun

end Sinkhole
