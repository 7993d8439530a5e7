import Mathlib
import Sinkhole.Proofs.Lifecycle.Cancelling
import Sinkhole.Proofs.Lifecycle.Interfaces

/-! # What a monitor makes of its listings

As long as nobody cancels it, a monitor has no choice: it hears one listing after another, and a
tick comes between each two. So what it does is known from the listings alone. The first of them
that has a tunnel interface says which one to watch, which is never reconsidered. The first later
one in which that interface is not up makes the monitor signal, and that is the last that happens.
-/
namespace Sinkhole

namespace Monitor

/-- What comes to an uncancelled monitor after so many events, if the host lists its interfaces as
told. -/
def pollEvent (told : Nat → List Interface) (place : Nat) : Event :=
  if place % 2 = 0 then .listed (told (place / 2)) else .tick

def polling (told : Nat → List Interface) (count : Nat) : List Event :=
  (List.range count).map (pollEvent told)

/-- The listings of a schedule are the first of those told. -/
def Hears (told : Nat → List Interface) (schedule : List Event) : Prop :=
  ∀ place interfaces, (listings schedule)[place]? = some interfaces → interfaces = told place

/-- The monitor signals when it hears the listing at a place. -/
def SignalsAt (told : Nat → List Interface) (place : Nat) : Prop :=
  ∃ monitor, after? (polling told (2 * place + 1)) = some monitor ∧ monitor.phase = .signalled

def ShowsDown (name : String) (interfaces : List Interface) : Prop :=
  ¬ ∃ interface ∈ interfaces, interface.name = name ∧ interface.up = true

/-- From the listing at a place on the monitor watches an interface. -/
structure Watches (told : Nat → List Interface) (first : Nat) (name : String) : Prop where
  watched : ∀ count monitor, after? (polling told count) = some monitor →
    monitor.watched = if count ≤ 2 * first then none else some name
  signals : ∀ place, SignalsAt told place ↔
    IsLeast {later | first < later ∧ ShowsDown name (told later)} place

/-- What an uncancelled monitor does when the host lists its interfaces as told. -/
structure Judges (told : Nat → List Interface) : Prop where
  /-- Nothing else can happen. -/
  forced : ∀ schedule monitor, after? schedule = some monitor → .cancel ∉ schedule →
    Hears told schedule → schedule = polling told schedule.length
  /-- The monitor goes on until it signals, and no further. -/
  runs : ∀ count, (after? (polling told count)).isSome ↔
    ∀ place, SignalsAt told place → count ≤ 2 * place + 1
  silent : (∀ place, ¬ HasTunnel (told place)) → ∀ place, ¬ SignalsAt told place
  watches : ∀ first, IsLeast {place | HasTunnel (told place)} first →
    ∃ name number, IsNewest (told first) name number ∧ Watches told first name

variable {told : Nat → List Interface} {monitor next : Monitor} {schedule : List Event}
  {interfaces : List Interface} {name : String} {count place first : Nat}

theorem polling_succ (told : Nat → List Interface) (count : Nat) :
    polling told (count + 1) = polling told count ++ [pollEvent told count] := by
  rw [polling, List.range_succ, List.map_append]
  rfl

theorem polling_append (told : Nat → List Interface) (count more : Nat) :
    polling told (count + more) =
      polling told count ++ (List.range more).map fun later => pollEvent told (count + later) := by
  rw [polling, List.range_add, List.map_append, List.map_map]
  rfl

theorem pollEvent_even (told : Nat → List Interface) (place : Nat) :
    pollEvent told (2 * place) = .listed (told place) := by
  rw [pollEvent, if_pos (by omega), Nat.mul_div_cancel_left place Nat.two_pos]

theorem pollEvent_odd (told : Nat → List Interface) (place : Nat) :
    pollEvent told (2 * place + 1) = .tick := by
  rw [pollEvent, if_neg (by omega)]

theorem pollEvent_ne_cancel : pollEvent told place ≠ .cancel := by
  rw [pollEvent]
  split <;> nofun

theorem after?_polling_succ :
    after? (polling told (count + 1)) =
      (after? (polling told count)).bind (·.step? (pollEvent told count)) := by
  rw [polling_succ, after?_append]
  refine congrArg _ (funext fun monitor => ?_)
  rw [through?_cons]
  cases monitor.step? (pollEvent told count) <;> rfl

theorem listings_polling (told : Nat → List Interface) (count : Nat) :
    listings (polling told count) = (List.range ((count + 1) / 2)).map told := by
  induction count with
  | zero => rfl
  | succ count ih =>
    rw [polling_succ, listings_append, ih]
    rcases Nat.even_or_odd' count with ⟨place, rfl | rfl⟩
    · rw [pollEvent_even, show (2 * place + 1) / 2 = place by omega,
        show (2 * place + 1 + 1) / 2 = place + 1 by omega, List.range_succ, List.map_append]
      rfl
    · rw [pollEvent_odd, show (2 * place + 1 + 1) / 2 = place + 1 by omega,
        show (2 * place + 1 + 1 + 1) / 2 = place + 1 by omega]
      exact List.append_nil _

theorem check_phase_of_up (h : ¬ ∃ name ∈ monitor.watched, isUp name interfaces = false) :
    (monitor.check interfaces).phase = .waiting := by
  obtain ⟨phase, watched, cancelled⟩ := monitor
  cases watched with
  | none => rfl
  | some name =>
    have hup : isUp name interfaces = true := by simpa using h
    rw [check]
    exact congrArg Monitor.phase (if_pos hup)

theorem phase_of_polling (h : after? (polling told count) = some monitor) :
    monitor.phase = .signalled ∨
      monitor.phase = if count % 2 = 0 then .listing else .waiting := by
  cases count with
  | zero => exact .inr (Option.some.inj h ▸ rfl)
  | succ count =>
    rw [after?_polling_succ] at h
    obtain ⟨before, -, hstep⟩ := Option.bind_eq_some_iff.1 h
    rcases Nat.even_or_odd' count with ⟨place, rfl | rfl⟩
    · rw [pollEvent_even] at hstep
      obtain ⟨-, hnext⟩ := Option.ite_none_right_eq_some.1 hstep
      obtain rfl := Option.some.inj hnext
      rw [if_neg (by omega)]
      by_cases hdown : ∃ name ∈ before.watched, isUp name (told place) = false
      · exact .inl (check_phase_eq_signalled.2 hdown)
      · exact .inr (check_phase_of_up hdown)
    · rw [pollEvent_odd] at hstep
      obtain ⟨-, hnext⟩ := Option.ite_none_right_eq_some.1 hstep
      obtain rfl := Option.some.inj hnext
      rw [if_pos (by omega)]
      exact .inr rfl

/-- Listings are asked for after an even number of events, ticks after an odd one. -/
theorem even_of_listing (h : after? (polling told count) = some monitor)
    (hphase : monitor.phase = .listing) : count % 2 = 0 := by
  have hor := phase_of_polling h
  rw [hphase] at hor
  by_contra hodd
  simp [hodd] at hor

theorem odd_of_waiting (h : after? (polling told count) = some monitor)
    (hphase : monitor.phase = .waiting) : ¬ count % 2 = 0 := by
  have hor := phase_of_polling h
  rw [hphase] at hor
  intro heven
  simp [heven] at hor

/-- Without a cancellation the monitor has no choice. -/
theorem eq_polling_of_after (h : after? schedule = some monitor) (hcancel : .cancel ∉ schedule)
    (hhears : Hears told schedule) : schedule = polling told schedule.length := by
  induction schedule using List.reverseRecOn generalizing monitor with
  | nil => rfl
  | append_singleton schedule event ih =>
    obtain ⟨before, hbefore, hlast⟩ := Option.bind_eq_some_iff.1 ((after?_append _ _).symm.trans h)
    obtain ⟨next, hstep, -⟩ := Option.bind_eq_some_iff.1 (through?_cons.symm.trans hlast)
    rw [List.mem_append, List.mem_singleton, not_or] at hcancel
    have hfront : schedule = polling told schedule.length := by
      refine ih hbefore hcancel.1 fun place interfaces hplace => hhears place interfaces ?_
      rw [listings_append, List.getElem?_append_left (List.getElem?_eq_some_iff.1 hplace).1, hplace]
    rw [List.length_append, List.length_singleton, polling_succ, ← hfront]
    refine congrArg (schedule ++ [·]) ?_
    rw [hfront] at hbefore
    rcases step_cases hstep with ⟨interfaces, rfl, hlisting, -⟩ | ⟨rfl, hwaiting, -⟩ | ⟨rfl, -⟩ |
      ⟨rfl, -, -⟩
    · -- a listing is heard where one was asked for, and it is the next one told
      have heven := even_of_listing hbefore hlisting
      have hlength : (listings schedule).length = schedule.length / 2 := by
        rw [hfront, listings_polling, List.length_map, List.length_range, ← hfront]
        omega
      have htold : interfaces = told (schedule.length / 2) := by
        refine hhears _ _ ?_
        rw [listings_append, List.getElem?_append_right hlength.le, hlength, Nat.sub_self]
        rfl
      rw [pollEvent, if_pos heven, htold]
    · rw [pollEvent, if_neg (odd_of_waiting hbefore hwaiting)]
    · exact absurd rfl hcancel.2
    · -- only a cancelled monitor ends by itself
      obtain ⟨⟨-, hcancelled⟩, -⟩ := Option.ite_none_right_eq_some.1 hstep
      rw [← hfront] at hbefore
      exact absurd ((reflects_of_after hbefore).cancelled.1 hcancelled) hcancel.1

def FindsDownAt (told : Nat → List Interface) (place : Nat) : Prop :=
  FindsDown ((List.range place).map told) (told place)

def asking (told : Nat → List Interface) (place : Nat) : Monitor :=
  ⟨.listing, watchedIn? ((List.range place).map told), false⟩

theorem check_asking (h : ¬ FindsDownAt told place) :
    (asking told place).check (told place) =
      { asking told (place + 1) with phase := .waiting } := by
  have hphase : ((asking told place).check (told place)).phase = .waiting := check_phase_of_up h
  have hwatched : ((asking told place).check (told place)).watched =
      watchedIn? ((List.range (place + 1)).map told) := by
    rw [check_watched, List.range_succ, List.map_append]
    exact (watchedIn?_concat _ _).symm
  have hcancelled : ((asking told place).check (told place)).cancelled = false :=
    check_cancelled _ _
  generalize (asking told place).check (told place) = checked at *
  obtain ⟨phase, watched, cancelled⟩ := checked
  obtain rfl : phase = .waiting := hphase
  obtain rfl : watched = watchedIn? ((List.range (place + 1)).map told) := hwatched
  obtain rfl : cancelled = false := hcancelled
  rfl

theorem after?_polling_listed (h : after? (polling told (2 * place)) = some (asking told place)) :
    after? (polling told (2 * place + 1)) = some ((asking told place).check (told place)) := by
  rw [after?_polling_succ, h, pollEvent_even]
  rfl

theorem after?_polling_of_none (h : ∀ earlier < place, ¬ FindsDownAt told earlier) :
    after? (polling told (2 * place)) = some (asking told place) := by
  induction place with
  | zero => rfl
  | succ place ih =>
    have hbefore := ih fun earlier hearlier => h earlier (Nat.lt_succ_of_lt hearlier)
    rw [Nat.mul_succ, after?_polling_succ, after?_polling_listed hbefore,
      check_asking (h place (Nat.lt_succ_self place)), pollEvent_odd]
    rfl

theorem le_of_signalsAt (h : SignalsAt told place) (hsome : (after? (polling told count)).isSome) :
    count ≤ 2 * place + 1 := by
  by_contra hgreater
  obtain ⟨monitor, hmonitor, hphase⟩ := h
  obtain ⟨last, hlast⟩ := Option.isSome_iff_exists.1 hsome
  obtain ⟨more, rfl⟩ := Nat.exists_eq_add_of_lt (Nat.lt_of_not_le hgreater)
  rw [Nat.add_assoc, polling_append, after?_append, hmonitor, Option.bind_some] at hlast
  have hover : monitor.isOver = true := by rw [isOver, hphase]
  refine pollEvent_ne_cancel ((through?_of_isOver hover hlast).2 (pollEvent told (2 * place + 1)) ?_)
  exact List.mem_map.2 ⟨0, List.mem_range.2 (Nat.succ_pos more), rfl⟩

theorem signalsAt_of_isLeast (h : IsLeast {place | FindsDownAt told place} place) :
    SignalsAt told place := by
  refine ⟨_, after?_polling_listed (after?_polling_of_none fun earlier hlt hearlier => ?_), ?_⟩
  · exact absurd (h.2 hearlier) (Nat.not_le.2 hlt)
  · exact check_phase_eq_signalled.2 h.1

theorem exists_signalsAt (h : FindsDownAt told place) :
    ∃ earlier ≤ place, SignalsAt told earlier := by
  have hfound : ∃ place, FindsDownAt told place := ⟨place, h⟩
  classical
  exact ⟨Nat.find hfound, Nat.find_min' hfound h, signalsAt_of_isLeast (Nat.isLeast_find hfound)⟩

theorem signalsAt_iff : SignalsAt told place ↔ IsLeast {place | FindsDownAt told place} place := by
  refine ⟨fun hsignals => ?_, signalsAt_of_isLeast⟩
  obtain ⟨monitor, hmonitor, hphase⟩ := hsignals
  have hnone : ∀ earlier < place, ¬ FindsDownAt told earlier := by
    intro earlier hlt hearlier
    obtain ⟨first, hle, hfirst⟩ := exists_signalsAt hearlier
    have hend := le_of_signalsAt hfirst (Option.isSome_of_eq_some hmonitor)
    omega
  rw [after?_polling_listed (after?_polling_of_none hnone)] at hmonitor
  obtain rfl := Option.some.inj hmonitor
  refine ⟨check_phase_eq_signalled.1 hphase, ?_⟩
  intro other hother
  by_contra hlt
  exact hnone other (Nat.lt_of_not_le hlt) hother

theorem isSome_after?_polling_iff : (after? (polling told count)).isSome ↔
    ∀ place, SignalsAt told place → count ≤ 2 * place + 1 := by
  refine ⟨fun hsome place hsignals => le_of_signalsAt hsignals hsome, fun hle => ?_⟩
  have hnone : ∀ earlier, 2 * earlier + 1 < count → ¬ FindsDownAt told earlier := by
    intro earlier hlt hearlier
    obtain ⟨first, hfirst, hsignals⟩ := exists_signalsAt hearlier
    have hend := hle first hsignals
    omega
  rcases Nat.even_or_odd' count with ⟨place, rfl | rfl⟩
  · rw [after?_polling_of_none fun earlier hlt => hnone earlier (by omega)]
    rfl
  · rw [after?_polling_listed (after?_polling_of_none fun earlier hlt => hnone earlier (by omega))]
    rfl

theorem isUp_eq_false_iff : isUp name interfaces = false ↔ ShowsDown name interfaces := by
  simp [isUp, ShowsDown]

theorem watchedIn?_told (hfirst : IsLeast {place | HasTunnel (told place)} first)
    (hname : tunnelInterface? (told first) = some name) (count : Nat) :
    watchedIn? ((List.range count).map told) = if count ≤ first then none else some name := by
  induction count with
  | zero => rw [if_pos (Nat.zero_le first)]; rfl
  | succ count ih =>
    rw [List.range_succ, List.map_append]
    refine (watchedIn?_concat _ _).trans ?_
    rw [ih]
    rcases Nat.lt_trichotomy count first with hlt | rfl | hgt
    · have hnone : tunnelInterface? (told count) = none :=
        tunnelInterface?_eq_none_iff.2 fun htunnel => absurd (hfirst.2 htunnel) (Nat.not_le.2 hlt)
      rw [if_pos hlt.le, if_pos (Nat.succ_le_of_lt hlt), hnone]
      rfl
    · rw [if_pos le_rfl, if_neg (Nat.not_succ_le_self count), hname]
      rfl
    · rw [if_neg (Nat.not_le.2 hgt), if_neg (by omega)]
      rfl

theorem findsDownAt_iff (hfirst : IsLeast {place | HasTunnel (told place)} first)
    (hname : tunnelInterface? (told first) = some name) :
    FindsDownAt told place ↔ first < place ∧ ShowsDown name (told place) := by
  rw [FindsDownAt, FindsDown, watchedIn?_told hfirst hname, ← isUp_eq_false_iff]
  by_cases hle : place ≤ first
  · simp [hle, Nat.not_lt.2 hle]
  · simp [hle, Nat.lt_of_not_le hle]

theorem watches_told (hfirst : IsLeast {place | HasTunnel (told place)} first)
    (hname : tunnelInterface? (told first) = some name) : Watches told first name where
  watched := by
    intro count monitor hmonitor
    rw [(reflects_of_after hmonitor).watched, listings_polling, watchedIn?_told hfirst hname]
    exact if_congr (by omega) rfl rfl
  signals := by
    intro place
    simp only [signalsAt_iff, findsDownAt_iff hfirst hname]

/-- An uncancelled monitor signals once, when it first hears that the interface is not up which it
found in the first listing with a tunnel interface. -/
theorem judges_polling (told : Nat → List Interface) : Judges told where
  forced _ _ h hcancel hhears := eq_polling_of_after h hcancel hhears
  runs _ := isSome_after?_polling_iff
  silent := by
    intro hnone place hsignals
    obtain ⟨⟨name, hname, -⟩, -⟩ := signalsAt_iff.1 hsignals
    obtain ⟨interfaces, hmem, htunnel⟩ := List.exists_of_findSome?_eq_some hname
    obtain ⟨earlier, -, rfl⟩ := List.mem_map.1 hmem
    rw [tunnelInterface?_eq_none_iff.2 (hnone earlier)] at htunnel
    cases htunnel
  watches := by
    intro first hfirst
    obtain ⟨name, hname⟩ := Option.ne_none_iff_exists'.1
      (mt tunnelInterface?_eq_none_iff.1 (not_not_intro hfirst.1))
    obtain ⟨number, hnewest⟩ := exists_isNewest hname
    exact ⟨name, number, hnewest, watches_told hfirst hname⟩

/-- Three names with the same number stand in the second listing, and a newer tunnel comes in the
third, in which the watched name is both up and down. -/
def lateTunnel : Nat → List Interface
  | 0 => [⟨"wlan0", true⟩, ⟨"tunnel", true⟩]
  | 1 => [⟨"tun3", true⟩, ⟨"tun+3", true⟩, ⟨"tun03", true⟩, ⟨"tun0", true⟩]
  | 2 => [⟨"tun03", true⟩, ⟨"tun12", true⟩, ⟨"tun03", false⟩]
  | _ => [⟨"tun12", true⟩, ⟨"tun3", true⟩, ⟨"tun03", false⟩]

example : after? (polling lateTunnel 7) = some ⟨.signalled, some "tun03", false⟩ := by
  decide +kernel

end Monitor

end Sinkhole
