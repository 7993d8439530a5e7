import Sinkhole.Proofs.Simulation.Instants
import Sinkhole.Proofs.Simulation.MonitorRuns

/-! # What a simulated engine does at one instant

Whatever is due can happen, and every action brings nearer the end of what is due, as `actionsLeft`
counts it. So a simulation that settles has done all that was due.
-/
namespace Sinkhole

/-- What a session that opens adds: its monitor asks for the interfaces, and may end then. -/
def WorkerPhase.opens : WorkerPhase → Nat
  | .establishing => 2
  | _ => 0

theorem WorkerPhase.opens_of_isIdle {phase : WorkerPhase} (h : phase.isIdle = true) :
    phase.opens = 0 := by
  cases phase <;> first | rfl | cases h

namespace EngineRun

variable {run next : EngineRun} {action : Action} {before : WorkerPhase}

inductive FollowCase (run : EngineRun) : WorkerPhase → EngineRun → Prop where
  | opened {session : LiveSession} (hphase : run.worker.phase = .running session) :
      FollowCase run .establishing { run with
        monitor := some (.start MonitorRun.checkInterval run.now run.host.listing)
        tunnel := some ⟨run.host.writer run.buildersMade, [], false⟩
        buildersMade := run.buildersMade + 1
        tunnels := run.tunnels + 1 }
  | notOpened (hphase : ∀ session, run.worker.phase ≠ .running session) :
      FollowCase run .establishing { run with buildersMade := run.buildersMade + 1 }
  | ends {before : WorkerPhase} {session : LiveSession} {outcome : Except Error SessionEnd}
      (hphase : run.worker.phase = .closing session outcome) :
      FollowCase run before { run with monitor := run.monitor.map MonitorRun.cancel }
  | closed {session : LiveSession} {outcome : Except Error SessionEnd}
      (hphase : ∀ session outcome, run.worker.phase ≠ .closing session outcome) :
      FollowCase run (.closing session outcome) { run with monitor := none, tunnel := none }
  | goesOn {before : WorkerPhase}
      (hphase : ∀ session outcome, run.worker.phase ≠ .closing session outcome) :
      FollowCase run before run

theorem followCase (run : EngineRun) (before : WorkerPhase) :
    FollowCase run before (run.follow before) := by
  cases before with
  | establishing =>
    cases hphase : run.worker.phase with
    | running session =>
      simp only [follow, hphase]
      exact .opened hphase
    | establishing =>
      simp only [follow, hphase]
      exact .goesOn (by simp [hphase])
    | _ =>
      simp only [follow, hphase]
      exact .notOpened (by simp [hphase])
  | closing session outcome =>
    cases hphase : run.worker.phase with
    | closing session outcome =>
      simp only [follow, hphase]
      exact .ends hphase
    | _ =>
      simp only [follow, hphase]
      exact .closed (by simp [hphase])
  | _ =>
    cases hphase : run.worker.phase with
    | closing session outcome =>
      simp only [follow, hphase]
      exact .ends hphase
    | _ =>
      simp only [follow, hphase]
      exact .goesOn (by simp [hphase])

/-- Following the worker changes nothing of it, and nothing that was seen. -/
structure Beside (run next : EngineRun) : Prop where
  worker : next.worker = run.worker
  engine : next.engine = run.engine
  now : next.now = run.now
  sightings : next.sightings = run.sightings

theorem beside_follow (run : EngineRun) (before : WorkerPhase) :
    run.Beside (run.follow before) := by
  have hcase := followCase run before
  generalize run.follow before = next at hcase ⊢
  cases hcase <;> exact ⟨rfl, rfl, rfl, rfl⟩

def besideLeft (run : EngineRun) : Nat :=
  (run.tunnel.map (·.unread.length)).getD 0 + (run.monitor.map (·.actionsLeft run.now)).getD 0

theorem actionsLeft_eq (run : EngineRun) :
    run.actionsLeft = run.worker.ahead run.now + run.besideLeft :=
  Nat.add_assoc _ _ _

theorem actionsLeft_start (interval now : Nat) (host : InterfaceHost) :
    (MonitorRun.start interval now host).actionsLeft now = 2 := rfl

theorem besideLeft_follow (run : EngineRun) (before : WorkerPhase) :
    (run.follow before).besideLeft ≤ run.besideLeft + before.opens := by
  have hcase := followCase run before
  generalize run.follow before = next at hcase ⊢
  cases hcase with
  | opened _ =>
    simp only [besideLeft, Option.map_some, Option.getD_some, actionsLeft_start, List.length_nil,
      WorkerPhase.opens]
    omega
  | notOpened _ => exact Nat.le_add_right _ 2
  | ends _ =>
    have hsame : (run.monitor.map MonitorRun.cancel).map (·.actionsLeft run.now) =
        run.monitor.map (·.actionsLeft run.now) := by
      rw [Option.map_map]
      rfl
    simp only [besideLeft, hsame]
    exact Nat.le_add_right _ _
  | closed _ => exact Nat.zero_le _
  | goesOn _ => exact Nat.le_add_right _ _

/-- The worker that an action leads to, with the read and the sightings that come with it. -/
def after (run : EngineRun) (action : Action) (worker : Worker) (shown : List Effect) :
    EngineRun :=
  { run with
    worker := worker
    tunnel := afterRead run.tunnel action
    sightings := run.sightings ++ shown.map fun effect => ⟨run.now, run.tunnels - 1, effect⟩ }

theorem exists_of_take? (h : run.take? action = some next) : ∃ worker shown,
    run.worker.step? run.engine run.moment action = some (worker, shown) ∧
      next = (run.after action worker shown).follow run.worker.phase := by
  obtain ⟨⟨worker, shown⟩, hstep, hdone⟩ := Option.bind_eq_some_iff.1 h
  exact ⟨worker, shown, hstep, (Option.some.inj hdone).symm⟩

theorem besideLeft_after (run : EngineRun) (action : Action) (worker : Worker)
    (shown : List Effect) : (run.after action worker shown).besideLeft ≤ run.besideLeft := by
  have hread : ((run.tunnel.map fun tunnel => { tunnel with unread := tunnel.unread.drop 1 }).map
      (·.unread.length)).getD 0 ≤ (run.tunnel.map (·.unread.length)).getD 0 := by
    cases run.tunnel with
    | none => exact le_rfl
    | some tunnel => exact (List.drop_sublist 1 tunnel.unread).length_le
  refine Nat.add_le_add_right ?_ _
  simp only [after, afterRead]
  split
  · exact hread
  · exact hread
  · exact le_rfl

theorem besideLeft_after_packet {tunnel : SimulatedTunnel} {octets : Bytes} (worker : Worker)
    (shown : List Effect) (htunnel : run.tunnel = some tunnel)
    (hnext : SimulatedTunnel.next? tunnel = some (.packet octets)) (hsome : octets ≠ []) :
    (run.after (.event (.packet octets)) worker shown).besideLeft < run.besideLeft := by
  refine Nat.add_lt_add_right ?_ _
  simp only [after, afterRead, htunnel, Option.map_some, Option.getD_some]
  rw [SimulatedTunnel.next?] at hnext
  split at hnext
  · rename_i read rest hunread
    rw [hunread]
    exact Nat.lt_succ_self _
  · obtain ⟨-, hclosed⟩ := Option.ite_none_right_eq_some.1 hnext
    cases hclosed
    exact absurd rfl hsome

/-- What the worker may do now of itself. -/
inductive Ready (run : EngineRun) : Action → Prop where
  | begin (hphase : run.worker.phase = .created) : Ready run .begin
  | takeStop (hstop : run.worker.stopRequested = true)
      (hphase : run.worker.phase.isIdle = true ∨ ∃ session, run.worker.phase = .running session) :
      Ready run .takeStop
  | hear (hstop : run.worker.stopRequested = false) (hnotices : run.worker.notices ≠ [])
      (hphase : run.worker.phase = .waitingForNetwork ∨
        ∃ session, run.worker.phase = .running session) : Ready run .hear
  | backoffOver {deadline : Nat} (hphase : run.worker.phase = .backingOff deadline)
      (hdue : deadline ≤ run.now) : Ready run .backoffOver
  | penaltyOver {deadline : Nat} (hphase : run.worker.phase = .servingPenalty deadline)
      (hdue : deadline ≤ run.now) : Ready run .penaltyOver
  | establish (hphase : run.worker.phase = .establishing) : Ready run .establish
  | event {session : LiveSession} {event : LoopEvent} (hphase : run.worker.phase = .running session)
      (hstop : run.worker.stopRequested = false) (hnotices : run.worker.notices = [])
      (hevent : run.loopEvent? session = some event) : Ready run (.event event)
  | monitorOver {session : LiveSession} {outcome : Except Error SessionEnd}
      (hphase : run.worker.phase = .closing session outcome)
      (hover : run.monitor.all (·.monitor.isOver) = true) : Ready run .monitorOver

theorem ready_of_nextAction? (h : run.nextAction? = some action) : run.Ready action := by
  have hstops {phase : WorkerPhase} (hphase : run.worker.phase = phase)
      (hidle : phase.isIdle = true)
      (htaken : (if run.worker.stopRequested then some Action.takeStop else none) = some action) :
      run.Ready action := by
    obtain ⟨hstop, hdone⟩ := Option.ite_none_right_eq_some.1 htaken
    cases hdone
    exact .takeStop hstop (.inl (hphase ▸ hidle))
  simp only [nextAction?] at h
  split at h
  · cases h
    exact .begin ‹_›
  · split at h
    · cases h
      exact .backoffOver ‹_› ‹_›
    · exact hstops ‹_› rfl h
  · split at h
    · cases h
      exact .penaltyOver ‹_› ‹_›
    · exact hstops ‹_› rfl h
  · cases h
    exact .establish ‹_›
  · rename_i session hphase
    split at h
    · cases h
      exact .takeStop ‹_› (.inr ⟨session, hphase⟩)
    · rename_i hstop
      rw [Bool.not_eq_true] at hstop
      split at h
      · rename_i hnotices
        cases h
        exact .hear hstop (by simpa using hnotices) (.inr ⟨session, hphase⟩)
      · rename_i hnotices
        obtain ⟨event, hevent, rfl⟩ := Option.map_eq_some_iff.1 h
        exact .event hphase hstop (by simpa using hnotices) hevent
  · obtain ⟨hover, hdone⟩ := Option.ite_none_right_eq_some.1 h
    cases hdone
    exact .monitorOver ‹_› hover
  · rename_i hphase
    split at h
    · cases h
      exact .takeStop ‹_› (.inl (hphase ▸ rfl))
    · rename_i hstop
      obtain ⟨hnotices, hdone⟩ := Option.ite_none_right_eq_some.1 h
      cases hdone
      exact .hear (by simpa using hstop) (by simpa using hnotices) (.inl hphase)
  · cases h

/-- What the loop of a session may find. -/
inductive Finds (run : EngineRun) (session : LiveSession) : LoopEvent → Prop where
  | completion (hwaiting : session.state.completions.waiting ≠ []) : Finds run session .completion
  | packet {tunnel : SimulatedTunnel} {octets : Bytes} (htunnel : run.tunnel = some tunnel)
      (hnext : SimulatedTunnel.next? tunnel = some (.packet octets)) :
      Finds run session (.packet octets)
  | readFailed {cause : IoError} : Finds run session (.readFailed cause)
  | idle (hdue : (idleDeadline? run.worker session).any (· ≤ run.now) = true) :
      Finds run session .idle

theorem finds_of_loopEvent? {session : LiveSession} {event : LoopEvent}
    (h : run.loopEvent? session = some event) : run.Finds session event := by
  rw [loopEvent?] at h
  split at h
  · rename_i hwaiting
    cases h
    exact .completion (by simpa using hwaiting)
  · split at h
    · rename_i octets hnext
      obtain ⟨tunnel, htunnel, hread⟩ := Option.bind_eq_some_iff.1 hnext
      cases h
      exact .packet htunnel hread
    · cases h
      exact .readFailed
    · obtain ⟨hdue, hdone⟩ := Option.ite_none_right_eq_some.1 h
      cases hdone
      exact .idle hdue

theorem Finds.isSome_handleEvent {session : LiveSession} {event : LoopEvent}
    (h : run.Finds session event) (engine : Engine) (worker : Worker) (moment : Moment) :
    (Worker.handleEvent engine worker moment session event).isSome = true := by
  cases h with
  | completion hwaiting =>
    rw [Worker.handleEvent]
    split
    · exact absurd ‹_› hwaiting
    · rfl
  | packet _ _ =>
    simp only [Worker.handleEvent]
    split <;> rfl
  | readFailed => rfl
  | idle _ =>
    simp only [Worker.handleEvent]
    split <;> rfl

/-- What the worker may do of itself can happen. -/
theorem Ready.isSome_take? (h : run.Ready action) : (run.take? action).isSome = true := by
  suffices hstep : (run.worker.step? run.engine run.moment action).isSome = true by
    obtain ⟨outcome, houtcome⟩ := Option.isSome_iff_exists.1 hstep
    simp [take?, houtcome]
  cases h with
  | begin hphase => simp [Worker.step?, Worker.begin?, hphase]
  | takeStop hstop hphase =>
    rw [Worker.step?, Worker.takeStop?, if_pos hstop]
    rcases hphase with hidle | ⟨session, hphase⟩
    · cases hphase : run.worker.phase <;> rw [hphase] at hidle <;> first | rfl | cases hidle
    · rw [hphase]
      rfl
  | hear hstop hnotices hphase =>
    obtain ⟨notice, notices, hcons⟩ := List.exists_cons_of_ne_nil hnotices
    rw [Worker.step?, Worker.hear?, hcons]
    rcases hphase with hphase | ⟨session, hphase⟩ <;> simp [hphase, hstop]
  | backoffOver hphase hdue => simp [Worker.step?, Worker.backoffOver?, hphase, moment, hdue]
  | penaltyOver hphase hdue => simp [Worker.step?, Worker.penaltyOver?, hphase, moment, hdue]
  | establish hphase => simp [Worker.step?, Worker.establish?, hphase]
  | event hphase hstop hnotices hevent =>
    have hhandled := (finds_of_loopEvent? hevent).isSome_handleEvent
    simp [Worker.step?, Worker.event?, hphase, hstop, hnotices, hhandled]
  | monitorOver hphase hover => simp [Worker.step?, Worker.monitorOver?, hphase]

/-- What the worker does of itself brings it nearer to its rest. -/
theorem Ready.advances {worker : Worker} {shown : List Effect} (h : run.Ready action)
    (hpatient : run.worker.Patient)
    (hstep : run.worker.step? run.engine run.moment action = some (worker, shown)) :
    worker.Patient ∧
      worker.ahead run.now + (run.after action worker shown).besideLeft + run.worker.phase.opens <
        run.worker.ahead run.now + run.besideLeft := by
  have hbeside := besideLeft_after run action worker shown
  have hgain {gain : Nat} (hadvances : run.worker.Advances worker run.now gain)
      (hopens : run.worker.phase.opens = gain) : worker.Patient ∧
      worker.ahead run.now + (run.after action worker shown).besideLeft + run.worker.phase.opens <
        run.worker.ahead run.now + run.besideLeft := by
    have hless := hadvances.ahead_lt
    exact ⟨hadvances.patient, by omega⟩
  cases h with
  | begin hphase => exact hgain (Worker.advances_begin hpatient hstep) (hphase ▸ rfl)
  | takeStop hstop hphase =>
    refine hgain (Worker.advances_takeStop hpatient _ hstep) ?_
    rcases hphase with hidle | ⟨session, hphase⟩
    · exact WorkerPhase.opens_of_isIdle hidle
    · rw [hphase]
      rfl
  | hear _ _ hphase =>
    refine hgain (Worker.advances_hear hpatient hstep) ?_
    rcases hphase with hphase | ⟨session, hphase⟩ <;> rw [hphase] <;> rfl
  | backoffOver hphase _ => exact hgain (Worker.advances_backoffOver hpatient hstep) (hphase ▸ rfl)
  | penaltyOver hphase _ => exact hgain (Worker.advances_penaltyOver hpatient hstep) (hphase ▸ rfl)
  | establish hphase => exact hgain (Worker.advances_establish hpatient hstep) (hphase ▸ rfl)
  | monitorOver hphase _ => exact hgain (Worker.advances_monitorOver hpatient hstep) (hphase ▸ rfl)
  | @event session event hphase hstop hnotices hevent =>
    have hopens : run.worker.phase.opens = 0 := hphase ▸ rfl
    have hhandled : Worker.handleEvent run.engine run.worker run.moment session event =
        some (worker, shown) := by
      simpa [Worker.step?, Worker.event?, hphase, hstop, hnotices] using hstep
    cases finds_of_loopEvent? hevent with
    | completion _ => exact hgain (Worker.advances_completion hpatient hphase hhandled) hopens
    | readFailed => exact hgain (Worker.advances_readFailed hpatient hphase hhandled) hopens
    | idle hdue => exact hgain (Worker.advances_idle hpatient hphase hdue hhandled) hopens
    | @packet tunnel octets htunnel hnext =>
      obtain ⟨hrests, hends⟩ := Worker.advances_packet hpatient hphase hhandled
      by_cases hsome : octets = []
      · exact hgain (hends hsome) hopens
      · have hless := besideLeft_after_packet worker shown htunnel hnext hsome
        have hle : worker.ahead run.now ≤ run.worker.ahead run.now := hrests.ahead_le
        exact ⟨hrests.patient, by omega⟩

/-- What every action keeps: no wait is empty, and the monitor of a session that ended is
cancelled. -/
structure Steady (run : EngineRun) : Prop where
  patient : run.worker.Patient
  proper : ∀ monitor ∈ run.monitor, monitor.Proper
  cancelled : ∀ session outcome, run.worker.phase = .closing session outcome →
    ∀ monitor ∈ run.monitor, monitor.monitor.cancelled = true

theorem proper_follow (hmonitor : ∀ monitor ∈ run.monitor, monitor.Proper)
    (before : WorkerPhase) : ∀ monitor ∈ (run.follow before).monitor, monitor.Proper := by
  have hcase := followCase run before
  generalize run.follow before = next at hcase ⊢
  cases hcase with
  | opened _ =>
    have hinterval : 0 < MonitorRun.checkInterval := by decide
    rintro _ ⟨⟩
    exact MonitorRun.proper_start hinterval _ _
  | notOpened _ => exact hmonitor
  | ends _ =>
    intro monitor hmem
    obtain ⟨earlier, hearlier, rfl⟩ := Option.map_eq_some_iff.1 hmem
    exact (hmonitor earlier hearlier).follows earlier.follows_cancel
  | closed _ => exact nofun
  | goesOn _ => exact hmonitor

theorem cancelled_follow (hbefore : before = .establishing →
      ∀ session outcome, run.worker.phase ≠ .closing session outcome) :
    ∀ session outcome, (run.follow before).worker.phase = .closing session outcome →
      ∀ monitor ∈ (run.follow before).monitor, monitor.monitor.cancelled = true := by
  intro session outcome hclosing
  rw [(beside_follow run before).worker] at hclosing
  have hcase := followCase run before
  generalize run.follow before = next at hcase ⊢
  cases hcase with
  | opened hphase => cases hphase.symm.trans hclosing
  | notOpened _ => exact absurd hclosing (hbefore rfl session outcome)
  | ends _ =>
    intro monitor hmem
    obtain ⟨earlier, -, rfl⟩ := Option.map_eq_some_iff.1 hmem
    rfl
  | closed _ => exact nofun
  | goesOn hphase => exact absurd hclosing (hphase session outcome)

theorem steady_of_take? (hsteady : run.Steady) (htake : run.take? action = some next)
    (hpatient : next.worker.Patient) : next.Steady := by
  obtain ⟨worker, shown, hstep, rfl⟩ := exists_of_take? htake
  have hproper : ∀ monitor ∈ (run.after action worker shown).monitor, monitor.Proper :=
    hsteady.proper
  exact ⟨hpatient, proper_follow hproper _, cancelled_follow fun hbefore =>
    Worker.phase_ne_closing_of_establishing hbefore hstep⟩

theorem Ready.advances_take? (h : run.Ready action) (hsteady : run.Steady)
    (htake : run.take? action = some next) :
    next.Steady ∧ next.actionsLeft < run.actionsLeft := by
  obtain ⟨worker, shown, hstep, rfl⟩ := exists_of_take? htake
  obtain ⟨hpatient, hless⟩ := h.advances hsteady.patient hstep
  have hbeside := beside_follow (run.after action worker shown) run.worker.phase
  refine ⟨steady_of_take? hsteady htake (hbeside.worker ▸ hpatient), ?_⟩
  have hleft := besideLeft_follow (run.after action worker shown) run.worker.phase
  rw [actionsLeft_eq, actionsLeft_eq, hbeside.worker, hbeside.now]
  dsimp only [after] at hleft hless ⊢
  omega

theorem nextAction?_of_establishing (h : run.worker.phase = .establishing) :
    run.nextAction? = some .establish := by
  simp only [nextAction?, h]

theorem actionsLeft_of_notified {notice : Notice} (hsteady : run.Steady)
    (htake : run.take? (.notify notice) = some next) :
    next.Steady ∧ next.actionsLeft ≤ run.actionsLeft + 1 + run.worker.phase.opens := by
  obtain ⟨worker, shown, hstep, hnext⟩ := exists_of_take? htake
  cases hstep
  have hbeside := beside_follow
    (run.after (.notify notice) { run.worker with notices := run.worker.notices ++ [notice] } [])
    run.worker.phase
  have hleft := besideLeft_follow
    (run.after (.notify notice) { run.worker with notices := run.worker.notices ++ [notice] } [])
    run.worker.phase
  rw [← hnext] at hbeside hleft
  have hworker := hbeside.worker
  dsimp only [after] at hworker
  refine ⟨steady_of_take? hsteady htake (hworker ▸ ⟨hsteady.patient.backoff, hsteady.patient.poll⟩),
    ?_⟩
  have hahead := Worker.ahead_notified run.worker notice run.now
  have hsame : (run.after (.notify notice)
      { run.worker with notices := run.worker.notices ++ [notice] } []).besideLeft =
        run.besideLeft := rfl
  rw [actionsLeft_eq, actionsLeft_eq, hworker, hbeside.now]
  dsimp only [after] at hleft hsame hahead ⊢
  omega

/-- A monitor that signals gives up more than the worker has to hear. -/
theorem advances_takeMonitor? (hsteady : run.Steady) (hnone : run.nextAction? = none)
    (htake : run.takeMonitor? = some next) :
    next.Steady ∧ next.actionsLeft < run.actionsLeft := by
  obtain ⟨monitor, hmonitor, htake⟩ := Option.bind_eq_some_iff.1 htake
  obtain ⟨later, hact, htake⟩ := Option.bind_eq_some_iff.1 htake
  have hproper := hsteady.proper monitor hmonitor
  have hlater : ∀ monitor ∈ some later, monitor.Proper := by
    rintro _ ⟨⟩
    exact hproper.follows (MonitorRun.follows_of_act? hact)
  have hcancelled : ∀ session outcome, run.worker.phase = .closing session outcome →
      ∀ monitor ∈ some later, monitor.monitor.cancelled = true := by
    rintro session outcome hclosing _ ⟨⟩
    rw [MonitorRun.cancelled_of_act? hact]
    exact hsteady.cancelled session outcome hclosing monitor hmonitor
  have hkept : Steady { run with monitor := some later } :=
    ⟨hsteady.patient, hlater, hcancelled⟩
  have hopens : run.worker.phase.opens = 0 := by
    cases hphase : run.worker.phase with
    | establishing =>
      rw [nextAction?_of_establishing hphase] at hnone
      cases hnone
    | _ => rfl
  have hbefore : run.actionsLeft = run.worker.ahead run.now +
      ((run.tunnel.map (·.unread.length)).getD 0 + monitor.actionsLeft run.now) := by
    rw [actionsLeft_eq, besideLeft, hmonitor]
    rfl
  split at htake
  · rename_i hsignalled
    have hless := MonitorRun.actionsLeft_of_signalled hact hsignalled
    obtain ⟨hnext, hle⟩ := actionsLeft_of_notified hkept htake
    refine ⟨hnext, ?_⟩
    have hafter : actionsLeft { run with monitor := some later } = run.worker.ahead run.now +
        ((run.tunnel.map (·.unread.length)).getD 0 + later.actionsLeft run.now) :=
      actionsLeft_eq _
    dsimp only at hle
    omega
  · have hless := MonitorRun.actionsLeft_lt hproper.interval hact
    cases htake
    refine ⟨hkept, ?_⟩
    rw [hbefore, actionsLeft_eq, besideLeft, Option.map_some, Option.getD_some]
    dsimp only
    omega

theorem advances_act? (hsteady : run.Steady) (hact : run.act? = some next) :
    next.Steady ∧ next.actionsLeft < run.actionsLeft := by
  rw [act?] at hact
  split at hact
  · exact (ready_of_nextAction? ‹_›).advances_take? hsteady hact
  · exact advances_takeMonitor? hsteady ‹_› hact

theorem steady_settle (hsteady : run.Steady) : run.settle.Steady :=
  stepsWithin_keeps (fun _ _ h hact => (advances_act? h hact).1) _ hsteady

/-- Nothing that is due is left out. -/
theorem act?_settle (hsteady : run.Steady) : run.settle.act? = none :=
  step_stepsWithin (fun _ _ h hact => advances_act? h hact) hsteady le_rfl

theorem act?_eq_none_iff :
    run.act? = none ↔ run.nextAction? = none ∧ run.takeMonitor? = none := by
  rw [act?]
  cases hnext : run.nextAction? with
  | none => simp
  | some action =>
    have hsome := (ready_of_nextAction? hnext).isSome_take?
    simpa using Option.isSome_iff_ne_none.1 hsome

theorem takeMonitor?_eq_none_iff :
    run.takeMonitor? = none ↔ ∀ monitor ∈ run.monitor, monitor.isDue run.now = false := by
  cases hmonitor : run.monitor with
  | none => simp [takeMonitor?, hmonitor]
  | some monitor =>
    have hdue : (monitor.act? run.now run.host.listing).isSome = true ↔
        monitor.isDue run.now = true := MonitorRun.isSome_act?_iff _
    cases hact : monitor.act? run.now run.host.listing with
    | none => simpa [takeMonitor?, hmonitor, hact] using hdue
    | some later =>
      rw [hact] at hdue
      have hsome : run.takeMonitor? ≠ none := by
        simp only [takeMonitor?, hmonitor, hact, Option.bind_eq_bind, Option.bind_some]
        split <;> exact nofun
      simp [hsome, hdue.1 rfl]

theorem lt_workerDue (h : run.nextAction? = none) :
    ∀ due ∈ (match run.worker.phase with
      | .backingOff deadline => some deadline
      | .servingPenalty deadline => some deadline
      | .running session => idleDeadline? run.worker session
      | _ => none : Option Nat), run.now < due := by
  cases hphase : run.worker.phase with
  | backingOff deadline =>
    rintro _ ⟨⟩
    by_contra hle
    simp [nextAction?, hphase, Nat.le_of_not_lt hle] at h
  | servingPenalty deadline =>
    rintro _ ⟨⟩
    by_contra hle
    simp [nextAction?, hphase, Nat.le_of_not_lt hle] at h
  | running session =>
    intro due hdue
    by_contra hle
    have hpast : (idleDeadline? run.worker session).any (· ≤ run.now) = true :=
      (Option.any_eq_true _ _).2 ⟨due, hdue, decide_eq_true (Nat.le_of_not_lt hle)⟩
    have hfinds : (run.loopEvent? session).isSome = true := by
      rw [loopEvent?]
      split
      · rfl
      · split <;> rfl
    obtain ⟨event, hevent⟩ := Option.isSome_iff_exists.1 hfinds
    simp only [nextAction?, hphase, hevent, Option.map_some] at h
    split at h
    · cases h
    · split at h <;> cases h
  | _ => exact nofun

theorem lt_due_of_act?_eq_none (h : run.act? = none) : ∀ due ∈ run.due?, run.now < due := by
  obtain ⟨hnone, hmonitor⟩ := act?_eq_none_iff.1 h
  have hworker := lt_workerDue hnone
  have hlater : ∀ due ∈ run.monitor.bind MonitorRun.due?, run.now < due := by
    intro due hdue
    obtain ⟨monitor, hsome, hdue⟩ := Option.bind_eq_some_iff.1 hdue
    have hidle := takeMonitor?_eq_none_iff.1 hmonitor monitor hsome
    exact MonitorRun.lt_of_isDue_eq_false hidle due hdue
  intro due hdue
  simp only [due?] at hdue
  split at hdue
  · rename_i first second hfirst hsecond
    cases hdue
    exact lt_min (hworker first hfirst) (hlater second hsecond)
  · rename_i first hfirst hsecond
    cases hdue
    exact hworker due hfirst
  · exact hlater due hdue

end EngineRun

end Sinkhole
