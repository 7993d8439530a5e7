import Mathlib.Data.List.Induction
import Sinkhole.Lifecycle.Monitor

/-! # Cancelled monitors

A schedule says in which order listings come back, ticks fall and the monitor is cancelled. Of all
that only the listings matter to the verdict: the first that has a tunnel interface names the one
to watch, and a later one in which that is not up makes the monitor signal.

A monitor takes notice of its cancellation only where it waits for a tick. It may be asking for the
interfaces when it is cancelled, and it may take a tick that comes together with the cancellation;
the listing that comes back then is judged like any other. So a cancelled monitor returns without a
signal exactly when no listing after the cancellation finds the watched interface down.
-/
namespace Sinkhole

namespace Monitor

def through? (monitor : Monitor) (events : List Event) : Option Monitor :=
  events.foldlM step? monitor

def after? (schedule : List Event) : Option Monitor := initial.through? schedule

def Event.listing? : Event → Option (List Interface)
  | .listed interfaces => some interfaces
  | .tick | .cancel | .yield => none

def listings (schedule : List Event) : List (List Interface) := schedule.filterMap Event.listing?

def watchedIn? (seen : List (List Interface)) : Option String := seen.findSome? tunnelInterface?

/-- After some listings, the next one shows that the watched interface is not up. -/
def FindsDown (seen : List (List Interface)) (interfaces : List Interface) : Prop :=
  ∃ name ∈ watchedIn? seen, isUp name interfaces = false

/-- Some listing in the second part of a schedule finds the watched interface down. -/
def HasVerdict (front back : List Event) : Prop :=
  ∃ earlier interfaces later, back = earlier ++ .listed interfaces :: later ∧
    FindsDown (listings (front ++ earlier)) interfaces

/-- Some listing that comes back after a cancellation finds the watched interface down. -/
def HasLateVerdict (schedule : List Event) : Prop :=
  ∃ before rest, schedule = before ++ .cancel :: rest ∧ HasVerdict (before ++ [.cancel]) rest

/-- The monitor has not signalled, and where it waits it can return. -/
structure IsSilent (monitor : Monitor) : Prop where
  unsignalled : monitor.phase ≠ .signalled
  returns : monitor.phase = .waiting →
    monitor.step? .yield = some { monitor with phase := .ended }

/-- A monitor that has not signalled when it is cancelled is silent after the schedule. -/
def SilentOnceCancelled (schedule : List Event) : Prop :=
  ∀ before rest cancelled last, schedule = before ++ .cancel :: rest →
    after? before = some cancelled → cancelled.phase ≠ .signalled →
      after? schedule = some last → last.IsSilent

section Verdicts

variable {front middle back seen : List Event} {event : Event} {interfaces : List Interface}

@[simp] theorem listings_append (front back : List Event) :
    listings (front ++ back) = listings front ++ listings back := List.filterMap_append

theorem watchedIn?_concat (seen : List (List Interface)) (interfaces : List Interface) :
    watchedIn? (seen ++ [interfaces]) = (watchedIn? seen).or (tunnelInterface? interfaces) := by
  rw [watchedIn?, List.findSome?_append, List.findSome?_singleton, ← watchedIn?]

theorem hasVerdict_append_iff :
    HasVerdict front (middle ++ back) ↔
      HasVerdict front middle ∨ HasVerdict (front ++ middle) back := by
  constructor
  · rintro ⟨earlier, interfaces, later, heq, hdown⟩
    rcases List.append_eq_append_iff.1 heq with ⟨rest, rfl, rfl⟩ | ⟨rest, rfl, hrest⟩
    · exact .inr ⟨rest, interfaces, later, rfl, by rwa [List.append_assoc]⟩
    · rcases List.cons_eq_append_iff.1 hrest with ⟨rfl, rfl⟩ | ⟨rest, rfl, rfl⟩
      · exact .inr ⟨[], interfaces, later, rfl, by simpa only [List.append_nil] using hdown⟩
      · exact .inl ⟨earlier, interfaces, rest, rfl, hdown⟩
  · rintro (⟨earlier, interfaces, later, rfl, hdown⟩ | ⟨earlier, interfaces, later, rfl, hdown⟩)
    · exact ⟨earlier, interfaces, later ++ back, List.append_assoc _ _ _, hdown⟩
    · exact ⟨middle ++ earlier, interfaces, later, (List.append_assoc _ _ _).symm,
        by rwa [← List.append_assoc]⟩

theorem hasVerdict_singleton_iff :
    HasVerdict front [event] ↔
      ∃ interfaces, event = .listed interfaces ∧ FindsDown (listings front) interfaces := by
  constructor
  · rintro ⟨earlier, interfaces, later, heq, hdown⟩
    obtain ⟨rfl, hsingle⟩ | ⟨rest, -, hnil⟩ := List.cons_eq_append_iff.1 heq
    · rw [List.append_nil] at hdown
      exact ⟨interfaces, (List.cons.inj hsingle).1.symm, hdown⟩
    · exact absurd hnil.symm (List.append_ne_nil_of_right_ne_nil rest (List.cons_ne_nil _ _))
  · rintro ⟨interfaces, rfl, hdown⟩
    exact ⟨[], interfaces, [], rfl, by rwa [List.append_nil]⟩

theorem not_hasVerdict_nil : ¬ HasVerdict front [] := by
  rintro ⟨earlier, interfaces, later, heq, -⟩
  exact List.append_ne_nil_of_right_ne_nil earlier (List.cons_ne_nil _ later) heq.symm

theorem HasVerdict.exists_listed (h : HasVerdict front back) :
    ∃ interfaces, .listed interfaces ∈ back := by
  obtain ⟨earlier, interfaces, later, rfl, -⟩ := h
  exact ⟨interfaces, List.mem_append_right _ List.mem_cons_self⟩

end Verdicts

section Steps

variable {monitor next last : Monitor} {event : Event} {events schedule : List Event}
  {interfaces : List Interface}

theorem check_watched (monitor : Monitor) (interfaces : List Interface) :
    (monitor.check interfaces).watched = monitor.watched.or (tunnelInterface? interfaces) := by
  obtain ⟨phase, watched, cancelled⟩ := monitor
  cases watched with
  | none => rfl
  | some name => cases hup : isUp name interfaces <;> simp only [check, hup] <;> rfl

theorem check_cancelled (monitor : Monitor) (interfaces : List Interface) :
    (monitor.check interfaces).cancelled = monitor.cancelled := by
  obtain ⟨phase, watched, cancelled⟩ := monitor
  cases watched with
  | none => rfl
  | some name => cases hup : isUp name interfaces <;> simp only [check, hup] <;> rfl

theorem check_phase_eq_signalled :
    (monitor.check interfaces).phase = .signalled ↔
      ∃ name ∈ monitor.watched, isUp name interfaces = false := by
  obtain ⟨phase, watched, cancelled⟩ := monitor
  cases watched with
  | none => simp [check]
  | some name => cases hup : isUp name interfaces <;> simp [check, hup]

theorem step_cases (h : monitor.step? event = some next) :
    (∃ interfaces, event = .listed interfaces ∧ monitor.phase = .listing ∧
      next = monitor.check interfaces) ∨
    (event = .tick ∧ monitor.phase = .waiting ∧ next = { monitor with phase := .listing }) ∨
    (event = .cancel ∧ next = { monitor with cancelled := true }) ∨
    (event = .yield ∧ monitor.phase = .waiting ∧ next = { monitor with phase := .ended }) := by
  cases event with
  | listed interfaces =>
    obtain ⟨hphase, hnext⟩ := Option.ite_none_right_eq_some.1 h
    exact .inl ⟨interfaces, rfl, hphase, (Option.some.inj hnext).symm⟩
  | tick =>
    obtain ⟨hphase, hnext⟩ := Option.ite_none_right_eq_some.1 h
    exact .inr (.inl ⟨rfl, hphase, (Option.some.inj hnext).symm⟩)
  | cancel => exact .inr (.inr (.inl ⟨rfl, (Option.some.inj h).symm⟩))
  | yield =>
    obtain ⟨⟨hphase, -⟩, hnext⟩ := Option.ite_none_right_eq_some.1 h
    exact .inr (.inr (.inr ⟨rfl, hphase, (Option.some.inj hnext).symm⟩))

theorem through?_cons :
    monitor.through? (event :: events) = (monitor.step? event).bind (·.through? events) := rfl

theorem through?_append (monitor : Monitor) (front back : List Event) :
    monitor.through? (front ++ back) = (monitor.through? front).bind (·.through? back) :=
  List.foldlM_append

theorem after?_append (front back : List Event) :
    after? (front ++ back) = (after? front).bind (·.through? back) :=
  through?_append initial front back

/-- A monitor that is over stays so, and nothing but a cancellation can still come. -/
theorem through?_of_isOver (hover : monitor.isOver = true)
    (h : monitor.through? events = some last) :
    last.phase = monitor.phase ∧ ∀ event ∈ events, event = .cancel := by
  induction events generalizing monitor with
  | nil => exact ⟨congrArg phase (Option.some.inj h).symm, fun _ h => absurd h List.not_mem_nil⟩
  | cons event events ih =>
    obtain ⟨next, hstep, hrest⟩ := Option.bind_eq_some_iff.1 h
    rcases step_cases hstep with ⟨_, rfl, hphase, -⟩ | ⟨rfl, hphase, -⟩ | ⟨rfl, rfl⟩ |
      ⟨rfl, hphase, -⟩
    case inr.inr.inl =>
      have hnext : ({ monitor with cancelled := true } : Monitor).isOver = true := hover
      obtain ⟨hphase, hcancels⟩ := ih hnext hrest
      exact ⟨hphase, List.forall_mem_cons.2 ⟨rfl, hcancels⟩⟩
    all_goals
      rw [isOver, hphase] at hover
      exact absurd hover Bool.false_ne_true

/-- What a monitor holds after a schedule. -/
structure Reflects (monitor : Monitor) (schedule : List Event) : Prop where
  watched : monitor.watched = watchedIn? (listings schedule)
  cancelled : monitor.cancelled = true ↔ .cancel ∈ schedule
  signalled : monitor.phase = .signalled ↔ HasVerdict [] schedule

theorem reflects_initial : initial.Reflects [] where
  watched := rfl
  cancelled := by simp [initial]
  signalled := iff_of_false nofun not_hasVerdict_nil

theorem Reflects.step (h : monitor.Reflects schedule) (hstep : monitor.step? event = some next) :
    next.Reflects (schedule ++ [event]) := by
  have hverdict : HasVerdict [] (schedule ++ [event]) ↔ monitor.phase = .signalled ∨
      ∃ interfaces, event = .listed interfaces ∧ FindsDown (listings schedule) interfaces := by
    rw [hasVerdict_append_iff, hasVerdict_singleton_iff, h.signalled, List.nil_append]
  rcases step_cases hstep with ⟨interfaces, rfl, hphase, rfl⟩ | ⟨rfl, hphase, rfl⟩ | ⟨rfl, rfl⟩ |
    ⟨rfl, hphase, rfl⟩
  case inl =>
    refine ⟨?_, ?_, ?_⟩
    · rw [check_watched, h.watched, listings_append, ← watchedIn?_concat]
      rfl
    · rw [check_cancelled, h.cancelled]
      simp
    · rw [hverdict, check_phase_eq_signalled, h.watched, hphase]
      simp [FindsDown]
  -- no other event brings a listing, so there is nothing new to judge
  all_goals
    refine ⟨?_, ?_, ?_⟩
    · rw [listings_append]
      exact h.watched.trans (congrArg watchedIn? (List.append_nil _).symm)
    · simp [h.cancelled]
    · rw [hverdict]
      simp_all

theorem reflects_of_after (h : after? schedule = some monitor) : monitor.Reflects schedule := by
  induction schedule using List.reverseRecOn generalizing monitor with
  | nil => exact Option.some.inj h ▸ reflects_initial
  | append_singleton schedule event ih =>
    rw [after?_append] at h
    obtain ⟨before, hbefore, hlast⟩ := Option.bind_eq_some_iff.1 h
    rw [through?_cons] at hlast
    obtain ⟨next, hstep, hnext⟩ := Option.bind_eq_some_iff.1 hlast
    exact Option.some.inj hnext ▸ (ih hbefore).step hstep

theorem Reflects.isSilent (h : monitor.Reflects schedule) (hcancel : .cancel ∈ schedule)
    (hnot : monitor.phase ≠ .signalled) : monitor.IsSilent :=
  ⟨hnot, fun hwaits => if_pos ⟨hwaits, h.cancelled.2 hcancel⟩⟩

theorem through?_of_no_tick (hphase : monitor.phase = .waiting ∨ monitor.phase = .ended)
    (hticks : .tick ∉ events) (h : monitor.through? events = some last) :
    last.phase = .waiting ∨ last.phase = .ended := by
  induction events generalizing monitor with
  | nil => exact Option.some.inj h ▸ hphase
  | cons event events ih =>
    obtain ⟨next, hstep, hrest⟩ := Option.bind_eq_some_iff.1 h
    obtain ⟨hfirst, hticks⟩ := not_or.1 (List.mem_cons.not.1 hticks)
    refine ih ?_ hticks hrest
    rcases step_cases hstep with ⟨_, -, hlisting, -⟩ | ⟨rfl, -, -⟩ | ⟨-, rfl⟩ | ⟨-, -, rfl⟩
    · rw [hlisting] at hphase
      exact hphase.elim nofun nofun
    · exact absurd rfl hfirst
    · exact hphase
    · exact .inr rfl

end Steps

section Silence

variable {schedule before rest : List Event} {waiting last : Monitor}

theorem silentOnceCancelled_of_waiting (hbefore : after? before = some waiting)
    (hwaits : waiting.phase = .waiting) (hticks : .tick ∉ rest) :
    SilentOnceCancelled (before ++ .cancel :: rest) := by
  intro _ _ _ last _ _ _ h
  have hlast : last.Reflects (before ++ .cancel :: rest) := reflects_of_after h
  refine hlast.isSilent (List.mem_append_right _ List.mem_cons_self) fun hsignalled => ?_
  rw [after?_append, hbefore] at h
  have hphase : last.phase = .waiting ∨ last.phase = .ended :=
    through?_of_no_tick (.inl hwaits) (by simpa using hticks) h
  rw [hsignalled] at hphase
  exact hphase.elim nofun nofun

/-- A cancelled monitor is silent exactly when no listing that it still hears of finds the watched
interface down. -/
theorem silentOnceCancelled_iff (h : after? schedule = some last) :
    SilentOnceCancelled schedule ↔ ¬ HasLateVerdict schedule := by
  have hlast : last.Reflects schedule := reflects_of_after h
  constructor
  · rintro hsilent ⟨before, rest, rfl, hlate⟩
    have hverdict : HasVerdict [] (before ++ [.cancel] ++ rest) :=
      hasVerdict_append_iff.2 (.inr hlate)
    have hsplit := h
    rw [after?_append] at hsplit
    obtain ⟨cancelled, hbefore, hrest⟩ := Option.bind_eq_some_iff.1 hsplit
    -- had it signalled before, no listing could still come
    have hnot : cancelled.phase ≠ .signalled := fun hsignalled => by
      have hover : cancelled.isOver = true := by rw [isOver, hsignalled]
      obtain ⟨interfaces, hlisted⟩ := hlate.exists_listed
      exact Event.noConfusion ((through?_of_isOver hover hrest).2 _
        (List.mem_cons_of_mem _ hlisted))
    rw [← List.append_cons] at hverdict
    exact (hsilent before rest cancelled last rfl hbefore hnot h).unsignalled
      (hlast.signalled.2 hverdict)
  · rintro hnone before rest cancelled last' rfl hbefore hnot h'
    refine (reflects_of_after h').isSilent (List.mem_append_right _ List.mem_cons_self)
      fun hsignalled => ?_
    have hverdict := (reflects_of_after h').signalled.1 hsignalled
    rw [List.append_cons, hasVerdict_append_iff, hasVerdict_append_iff] at hverdict
    rcases hverdict with (hearly | hcancel) | hlate
    · exact hnot ((reflects_of_after hbefore).signalled.2 hearly)
    · obtain ⟨interfaces, hlisted, -⟩ := hasVerdict_singleton_iff.1 hcancel
      exact Event.noConfusion hlisted
    · exact hnone ⟨before, rest, rfl, hlate⟩

/-- The monitor is cancelled between two ticks. -/
def cancelledWhileWaiting : List Event :=
  [.listed [⟨"tun0", true⟩], .tick, .listed [⟨"tun0", true⟩], .cancel, .yield]

/-- No listing comes back after the cancellation, and the monitor is silent at the end. -/
theorem silentOnceCancelled_iff_cancelledWhileWaiting :
    after? cancelledWhileWaiting = some ⟨.ended, some "tun0", true⟩ ∧
      (SilentOnceCancelled cancelledWhileWaiting ↔ ¬ HasLateVerdict cancelledWhileWaiting) ∧
      IsSilent ⟨.ended, some "tun0", true⟩ := by
  have h : after? cancelledWhileWaiting = some ⟨.ended, some "tun0", true⟩ := by decide +kernel
  have hbefore : after? (cancelledWhileWaiting.take 3) = some ⟨.waiting, some "tun0", false⟩ := by
    decide +kernel
  have hnone : ¬ HasLateVerdict cancelledWhileWaiting := by
    rintro ⟨before, rest, heq, hverdict⟩
    obtain ⟨interfaces, hlisted⟩ := hverdict.exists_listed
    have horder : cancelledWhileWaiting.Pairwise fun earlier later =>
        earlier = .cancel → later = .yield := by decide
    rw [heq, List.pairwise_append, List.pairwise_cons] at horder
    exact Event.noConfusion (horder.2.1.1 _ hlisted rfl)
  have hsilent := (silentOnceCancelled_iff h).2 hnone
  exact ⟨h, silentOnceCancelled_iff h, hsilent _ [.yield] _ _ rfl hbefore nofun h⟩

/-- The monitor is cancelled when it has asked for the interfaces, and the tunnel is gone. -/
def cancelledWhileListing : List Event :=
  [.listed [⟨"tun0", true⟩], .tick, .cancel, .listed []]

theorem not_silentOnceCancelled_cancelledWhileListing :
    ∃ last, after? cancelledWhileListing = some last ∧
      ¬ SilentOnceCancelled cancelledWhileListing := by
  have h : after? cancelledWhileListing = some ⟨.signalled, some "tun0", true⟩ := by
    decide +kernel
  have hbefore : after? [.listed [⟨"tun0", true⟩], .tick] =
      some ⟨.listing, some "tun0", false⟩ := by decide +kernel
  exact ⟨_, h, fun hsilent => (hsilent _ [.listed []] _ _ rfl hbefore nofun h).unsignalled rfl⟩

end Silence

end Monitor

end Sinkhole
