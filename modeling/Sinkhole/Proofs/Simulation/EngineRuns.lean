import Sinkhole.Proofs.Lifecycle.Stopping
import Sinkhole.Proofs.Simulation.EngineSteps

/-! # Simulated engines

A simulation does what is due, takes what it is told, and lets time pass where nothing is due.
Main statements: whatever it is told to do, it gets there by such moves alone, nothing is due in the
end, and its worker is that of a run which shows what the simulation shows; and a stop comes to its
end.
-/
namespace Sinkhole

/-- How many monitors a worker that is to stop may still have to wait for. -/
def WorkerPhase.endsLeft : WorkerPhase → Nat
  | .closing _ (.ok .reconnect) => 2
  | .created | .backingOff _ | .servingPenalty _ | .establishing | .running _ | .closing _ _ => 1
  | .waitingForNetwork | .finished => 0

/-- A worker that hears nothing more comes nearer to its end with every session that ends. -/
theorem WorkerCore.endsLeft_of_step {core after : WorkerCore} {action : Action}
    {effects : List Effect} (hstep : Step core action after effects)
    (hstop : core.stopRequested = true) (hdeaf : action ≠ .hear) :
    after.stopRequested = true ∧ after.phase.endsLeft ≤ core.phase.endsLeft ∧
      (action = .monitorOver → after.phase.endsLeft < core.phase.endsLeft) := by
  cases hstep with
  | ended _ => exact absurd rfl hdeaf
  | heard _ _ _ => exact absurd rfl hdeaf
  | networkReturned _ => exact absurd rfl hdeaf
  | stillWaiting _ => exact absurd rfl hdeaf
  | looped _ => cases hstop
  | stopRequested => exact ⟨rfl, le_rfl, nofun⟩
  | stoppedIdle _ => exact ⟨rfl, Nat.zero_le _, nofun⟩
  | notEstablished _ hafter =>
    cases hafter with
    | interrupted _ => exact ⟨hstop, Nat.zero_le _, nofun⟩
    | failed hfalse _ _ => cases hfalse.symm.trans hstop
    | gaveUp hfalse _ => cases hfalse.symm.trans hstop
  | @requestClosing session after outcome =>
    refine ⟨hstop, ?_, nofun⟩
    rcases outcome with error | reason
    · exact le_rfl
    · cases reason <;> exact le_rfl
  | @closed session outcome phase _ _ _ _ hafter =>
    have hless : phase.endsLeft < (WorkerPhase.closing session outcome).endsLeft := by
      cases hafter with
      | failed hfalse _ _ => cases hfalse.symm.trans hstop
      | _ => exact Nat.lt_succ_self _
    exact ⟨hstop, hless.le, fun _ => hless⟩
  | _ => exact ⟨hstop, le_rfl, nofun⟩

namespace EngineRun

inductive Order where
  | advanceTo (target : Nat)
  | notify (notice : Notice)
  | requestStop
  | stop
  | feed (read : TunnelRead)
  | closeTunnel
  /-- The host is another one from now on. -/
  | meet (host : SimulatedHost)

def obey (run : EngineRun) : Order → EngineRun
  | .advanceTo target => run.advanceTo target
  | .notify notice => run.notify notice
  | .requestStop => run.requestStop
  | .stop => run.stop
  | .feed read => run.feed read
  | .closeTunnel => run.closeTunnel
  | .meet host => { run with host := host }

/-- One thing that can happen to a simulation. Time passes where nothing is due, and not beyond
what comes due next. -/
inductive Move (run : EngineRun) : EngineRun → Prop where
  | acts {next : EngineRun} (hact : run.act? = some next) : Move run next
  | passes {now : Nat} (hle : run.now ≤ now) (hrest : run.act? = none)
      (hdue : ∀ due ∈ run.due?, now ≤ due) : Move run { run with now := now }
  | notified {notice : Notice} {next : EngineRun}
      (htake : run.take? (.notify notice) = some next) : Move run next
  | stopRequested {next : EngineRun} (htake : run.take? .requestStop = some next) :
      Move run { next with monitor := next.monitor.map MonitorRun.cancel }
  | tunnelChanged (change : SimulatedTunnel → SimulatedTunnel) :
      Move run { run with tunnel := run.tunnel.map change }
  | met (host : SimulatedHost) : Move run { run with host := host }

abbrev Reaches : EngineRun → EngineRun → Prop := Relation.ReflTransGen Move

variable {run next first middle last : EngineRun}

theorem steady_of_requestStop (hsteady : run.Steady) (htake : run.take? .requestStop = some next) :
    Steady { next with monitor := next.monitor.map MonitorRun.cancel } := by
  have hpatient : next.worker.Patient := by
    obtain ⟨worker, shown, hstep, rfl⟩ := exists_of_take? htake
    cases hstep
    rw [(beside_follow _ _).worker]
    exact ⟨hsteady.patient.backoff, hsteady.patient.poll⟩
  have hnext := steady_of_take? hsteady htake hpatient
  refine ⟨hnext.patient, ?_, ?_⟩
  · intro monitor hmem
    obtain ⟨earlier, hearlier, rfl⟩ := Option.map_eq_some_iff.1 hmem
    exact (hnext.proper earlier hearlier).follows earlier.follows_cancel
  · intro session outcome _ monitor hmem
    obtain ⟨earlier, -, rfl⟩ := Option.map_eq_some_iff.1 hmem
    rfl

theorem steady_of_move (hsteady : run.Steady) (hmove : run.Move next) : next.Steady := by
  cases hmove with
  | acts hact => exact (advances_act? hsteady hact).1
  | passes _ _ _ => exact ⟨hsteady.patient, hsteady.proper, hsteady.cancelled⟩
  | notified htake => exact (actionsLeft_of_notified hsteady htake).1
  | stopRequested htake => exact steady_of_requestStop hsteady htake
  | tunnelChanged change => exact ⟨hsteady.patient, hsteady.proper, hsteady.cancelled⟩
  | met host => exact ⟨hsteady.patient, hsteady.proper, hsteady.cancelled⟩

theorem reaches_settle (run : EngineRun) : run.Reaches run.settle :=
  stepsWithin_keeps (fun _ _ hbefore hact => hbefore.tail (.acts hact)) _ .refl

/-- The worker has gone through a run which shows what the simulation shows. -/
structure Shows (first last : EngineRun) : Prop where
  engine : last.engine = first.engine
  now_le : first.now ≤ last.now
  run : ∃ steps shown, first.worker.run? first.engine steps = some (last.worker, shown) ∧
    last.sightings.map Sighting.effect = first.sightings.map Sighting.effect ++ shown ∧
    Timed first.now steps ∧ ∀ step ∈ steps, step.1.now ≤ last.now

theorem Shows.of_same (hengine : next.engine = run.engine) (hworker : next.worker = run.worker)
    (hsightings : next.sightings = run.sightings) (hnow : run.now ≤ next.now) : run.Shows next := by
  refine ⟨hengine, hnow, [], [], ?_, ?_, .singleton _, fun _ hstep => absurd hstep List.not_mem_nil⟩
  · rw [hworker]
    rfl
  · rw [hsightings, List.append_nil]

theorem timed_append {since now : Nat} {front back : List (Moment × Action)}
    (hfront : Timed since front) (hsince : since ≤ now)
    (hle : ∀ step ∈ front, step.1.now ≤ now) (hback : Timed now back) :
    Timed since (front ++ back) := by
  induction front generalizing since with
  | nil =>
    cases back with
    | nil => exact .singleton _
    | cons step rest =>
      obtain ⟨hnow, hrest⟩ := timed_cons_iff.1 hback
      exact timed_cons_iff.2 ⟨hsince.trans hnow, hrest⟩
  | cons step rest ih =>
    obtain ⟨hnow, hrest⟩ := timed_cons_iff.1 hfront
    rw [List.forall_mem_cons] at hle
    exact timed_cons_iff.2 ⟨hnow, ih hrest hle.1 hle.2⟩

theorem Shows.trans (h : first.Shows middle) (hrest : middle.Shows last) : first.Shows last := by
  obtain ⟨hengine, hnow, front, shown, hfront, hshown, htimed, hle⟩ := h
  obtain ⟨hengine', hnow', back, later, hback, hlater, htimed', hle'⟩ := hrest
  refine ⟨hengine'.trans hengine, hnow.trans hnow', front ++ back, shown ++ later, ?_, ?_,
    timed_append htimed hnow hle htimed', ?_⟩
  · rw [Worker.run?_append, hfront, Option.bind_some, ← hengine, hback]
    rfl
  · rw [hlater, hshown, List.append_assoc]
  · rw [List.forall_mem_append]
    exact ⟨fun step hstep => (hle step hstep).trans hnow', hle'⟩

theorem shows_of_take? {action : Action} (htake : run.take? action = some next) :
    run.Shows next ∧ next.now = run.now := by
  obtain ⟨worker, shown, hstep, rfl⟩ := exists_of_take? htake
  have hbeside := beside_follow (run.after action worker shown) run.worker.phase
  refine ⟨⟨hbeside.engine, hbeside.now.ge, [(run.moment, action)], shown, ?_, ?_, ?_, ?_⟩,
    hbeside.now⟩
  · rw [hbeside.worker]
    simp [Worker.run?, hstep, after]
  · rw [hbeside.sightings]
    simp [after, Function.comp_def]
  · exact timed_cons_iff.2 ⟨le_rfl, .singleton _⟩
  · exact List.forall_mem_singleton.2 hbeside.now.ge

theorem shows_of_act? (hact : run.act? = some next) : run.Shows next ∧ next.now = run.now := by
  rw [act?] at hact
  split at hact
  · exact shows_of_take? hact
  · obtain ⟨monitor, -, hact⟩ := Option.bind_eq_some_iff.1 hact
    obtain ⟨later, -, hact⟩ := Option.bind_eq_some_iff.1 hact
    have hsame : run.Shows { run with monitor := some later } := .of_same rfl rfl rfl le_rfl
    split at hact
    · obtain ⟨hshows, hnow⟩ := shows_of_take? hact
      exact ⟨hsame.trans hshows, hnow⟩
    · cases hact
      exact ⟨hsame, rfl⟩

theorem shows_of_move (hmove : run.Move next) : run.Shows next := by
  cases hmove with
  | acts hact => exact (shows_of_act? hact).1
  | passes hle _ _ => exact .of_same rfl rfl rfl hle
  | notified htake => exact (shows_of_take? htake).1
  | stopRequested htake =>
    exact (shows_of_take? htake).1.trans (.of_same rfl rfl rfl le_rfl)
  | tunnelChanged change => exact .of_same rfl rfl rfl le_rfl
  | met host => exact .of_same rfl rfl rfl le_rfl

theorem shows_of_reaches (hreaches : first.Reaches last) : first.Shows last := by
  induction hreaches with
  | refl => exact .of_same rfl rfl rfl le_rfl
  | tail _ hmove ih => exact ih.trans (shows_of_move hmove)

theorem now_settle (run : EngineRun) : run.settle.now = run.now :=
  stepsWithin_keeps (fun _ _ hbefore hact => (shows_of_act? hact).2.trans hbefore) _ rfl

/-- A simulation in which nothing is due. -/
structure AtRest (run : EngineRun) : Prop where
  steady : run.Steady
  act?_eq_none : run.act? = none

theorem AtRest.lt_due (h : run.AtRest) : ∀ due ∈ run.due?, run.now < due :=
  lt_due_of_act?_eq_none h.act?_eq_none

/-- The simulation gets there by moves, and comes to rest. -/
structure Comes (first last : EngineRun) : Prop where
  reaches : first.Reaches last
  atRest : last.AtRest

theorem Comes.trans (h : first.Comes middle) (hrest : middle.Comes last) : first.Comes last :=
  ⟨h.reaches.trans hrest.reaches, hrest.atRest⟩

theorem comes_settle (hsteady : first.Steady) (hmove : first.Move run) : first.Comes run.settle :=
  ⟨(reaches_settle run).head hmove, steady_settle (steady_of_move hsteady hmove),
    act?_settle (steady_of_move hsteady hmove)⟩

theorem AtRest.passes_due {due : Nat} (h : run.AtRest) (hdue : run.due? = some due) :
    run.Move { run with now := due } := by
  refine .passes (h.lt_due due hdue).le h.act?_eq_none ?_
  rw [hdue]
  rintro _ ⟨⟩
  exact le_rfl

theorem AtRest.comes_due {due : Nat} (h : run.AtRest) (hdue : run.due? = some due) :
    run.Comes (settle { run with now := due }) :=
  comes_settle h.steady (h.passes_due hdue)

/-- Each move of the clock is to a later instant, so there are enough of them. -/
theorem comes_runUntil {target moves : Nat} (h : run.AtRest) (hmoves : target - run.now ≤ moves) :
    run.Comes (runUntil target moves run) ∧
      ∀ due ∈ (runUntil target moves run).due?, target < due := by
  induction moves generalizing run with
  | zero =>
    refine ⟨⟨.refl, h⟩, fun due hdue => ?_⟩
    have hlt := h.lt_due due hdue
    omega
  | succ moves ih =>
    rw [runUntil]
    split
    · rename_i due hdue
      have hlt := h.lt_due due hdue
      split
      · have hcomes := h.comes_due hdue
        have hnow : (settle { run with now := due }).now = due := now_settle _
        obtain ⟨hrest, hlater⟩ := ih hcomes.atRest (by omega)
        exact ⟨hcomes.trans hrest, hlater⟩
      · rename_i hnot
        refine ⟨⟨.refl, h⟩, ?_⟩
        rw [hdue]
        rintro _ ⟨⟩
        exact Nat.lt_of_not_le hnot
    · rename_i hnone
      refine ⟨⟨.refl, h⟩, ?_⟩
      rw [hnone]
      exact nofun

theorem comes_advanceTo (h : run.AtRest) (target : Nat) : run.Comes (run.advanceTo target) := by
  obtain ⟨hcomes, hlater⟩ := comes_runUntil h (le_refl (target - run.now))
  refine hcomes.trans (comes_settle hcomes.atRest.steady ?_)
  refine .passes (le_max_left _ _) hcomes.atRest.act?_eq_none fun due hdue => ?_
  exact max_le (hcomes.atRest.lt_due due hdue).le (hlater due hdue).le

theorem comes_runToEnd (h : run.AtRest) (moves : Nat) : run.Comes (runToEnd moves run) := by
  induction moves generalizing run with
  | zero => exact ⟨.refl, h⟩
  | succ moves ih =>
    rw [runToEnd]
    split
    · exact ⟨.refl, h⟩
    · rename_i due hdue _
      have hcomes := h.comes_due hdue
      exact hcomes.trans (ih hcomes.atRest)
    · exact ⟨.refl, h⟩

theorem comes_notify (h : run.AtRest) (notice : Notice) : run.Comes (run.notify notice) := by
  rw [notify]
  split
  · exact comes_settle h.steady (.notified ‹_›)
  · exact ⟨.refl, h⟩

theorem comes_requestStop (h : run.AtRest) : run.Comes run.requestStop := by
  rw [requestStop]
  split
  · exact comes_settle h.steady (.stopRequested ‹_›)
  · exact ⟨.refl, h⟩

theorem comes_feed (h : run.AtRest) (read : TunnelRead) : run.Comes (run.feed read) := by
  rw [feed]
  split
  · exact comes_settle h.steady (.tunnelChanged _)
  · exact ⟨.refl, h⟩

theorem comes_meet (h : run.AtRest) (host : SimulatedHost) :
    run.Comes { run with host := host } := by
  obtain ⟨hnone, hmonitor⟩ := act?_eq_none_iff.1 h.act?_eq_none
  rw [takeMonitor?_eq_none_iff] at hmonitor
  exact ⟨.single (.met host), steady_of_move h.steady (.met host),
    act?_eq_none_iff.2 ⟨hnone, takeMonitor?_eq_none_iff.2 hmonitor⟩⟩

theorem comes_obey (h : run.AtRest) (order : Order) : run.Comes (run.obey order) := by
  cases order with
  | advanceTo target => exact comes_advanceTo h target
  | notify notice => exact comes_notify h notice
  | requestStop => exact comes_requestStop h
  | stop =>
    have hcomes := comes_requestStop h
    exact hcomes.trans (comes_runToEnd hcomes.atRest 2)
  | feed read => exact comes_feed h read
  | closeTunnel => exact comes_settle h.steady (.tunnelChanged _)
  | meet host => exact comes_meet h host

theorem comes_obeyed (h : run.AtRest) (orders : List Order) :
    run.Comes (orders.foldl obey run) := by
  induction orders generalizing run with
  | nil => exact ⟨.refl, h⟩
  | cons order rest ih =>
    have hcomes := comes_obey h order
    exact hcomes.trans (ih hcomes.atRest)

theorem exists_of_start {settings : Settings} {host : SimulatedHost}
    (h : start settings host = .ok run) : ∃ worker,
      Worker.new settings (host.platform 0).networks = .ok worker ∧
        run = settle ⟨.ofSettings settings, host, 0, worker, none, none, 0, 0, []⟩ := by
  rw [start] at h
  cases hnew : Worker.new settings (host.platform 0).networks with
  | error error =>
    rw [hnew] at h
    cases h
  | ok worker =>
    rw [hnew] at h
    exact ⟨worker, rfl, (Except.ok.inj h).symm⟩

theorem steady_of_new {settings : Settings} {networks : List Network} {worker : Worker}
    (hnew : Worker.new settings networks = .ok worker) (engine : Engine) (host : SimulatedHost) :
    Steady ⟨engine, host, 0, worker, none, none, 0, 0, []⟩ := by
  obtain ⟨forwarder, rfl⟩ := Worker.exists_of_new hnew
  have hbackoff : 0 < minBackoff := by decide
  have hpoll : 0 < pollTimeoutStart := by decide
  refine ⟨⟨hbackoff, hpoll⟩, ?_, ?_⟩
  · rintro _ ⟨⟩
  · rintro _ _ ⟨⟩

theorem atRest_of_start {settings : Settings} {host : SimulatedHost}
    (hstart : start settings host = .ok run) : run.AtRest := by
  obtain ⟨worker, hnew, rfl⟩ := exists_of_start hstart
  have hsteady := steady_of_new hnew (.ofSettings settings) host
  exact ⟨steady_settle hsteady, act?_settle hsteady⟩

/-- Whatever a simulation is told to do, it does by moves alone, so that the clock skips nothing,
and in the end nothing is due. Its worker has gone through a run, and what was seen of the
simulation is what the run shows; its monitor is one that a monitor can come to be. -/
theorem obeyed_of_start {settings : Settings} {host : SimulatedHost}
    (hstart : start settings host = .ok first) (orders : List Order) :
    first.Reaches (orders.foldl obey first) ∧ (orders.foldl obey first).act? = none ∧
      (∀ due ∈ (orders.foldl obey first).due?, (orders.foldl obey first).now < due) ∧
      ∃ worker steps, Worker.new settings (host.platform 0).networks = .ok worker ∧
        worker.run? (.ofSettings settings) steps = some ((orders.foldl obey first).worker,
          (orders.foldl obey first).sightings.map Sighting.effect) ∧ Timed 0 steps ∧
        ∀ monitor ∈ (orders.foldl obey first).monitor,
          ∃ schedule, Monitor.after? schedule = some monitor.monitor := by
  have hcomes := comes_obeyed (atRest_of_start hstart) orders
  obtain ⟨worker, hnew, rfl⟩ := exists_of_start hstart
  refine ⟨hcomes.reaches, hcomes.atRest.act?_eq_none, hcomes.atRest.lt_due, worker, ?_⟩
  have hproper := hcomes.atRest.steady.proper
  obtain ⟨-, -, steps, shown, hrun, hshown, htimed, -⟩ :=
    shows_of_reaches ((reaches_settle _).trans hcomes.reaches)
  refine ⟨steps, hnew, ?_, htimed, fun monitor hmonitor => (hproper monitor hmonitor).events⟩
  rw [hshown]
  exact hrun

/-- A simulation that was told to stop has fewer monitors than this to wait for, or as many and the
next one is about to end. -/
structure Ending (run : EngineRun) (bound : Nat) : Prop where
  stopRequested : run.worker.stopRequested = true
  nears : run.worker.phase.endsLeft < bound ∨ run.worker.phase.endsLeft ≤ bound ∧
    (∃ session outcome, run.worker.phase = .closing session outcome) ∧
    ∀ monitor ∈ run.monitor, monitor.isDue run.now = true ∨ monitor.monitor.isOver = true

theorem Ready.eq_monitorOver {action : Action} {session : LiveSession}
    {outcome : Except Error SessionEnd} (h : run.Ready action)
    (hphase : run.worker.phase = .closing session outcome) : action = .monitorOver := by
  cases h with
  | begin hother => cases hother.symm.trans hphase
  | takeStop _ hother =>
    rcases hother with hidle | ⟨session, hrunning⟩
    · rw [hphase] at hidle
      cases hidle
    · cases hrunning.symm.trans hphase
  | hear _ _ hother =>
    rcases hother with hwaiting | ⟨session, hrunning⟩
    · cases hwaiting.symm.trans hphase
    · cases hrunning.symm.trans hphase
  | backoffOver hother _ => cases hother.symm.trans hphase
  | penaltyOver hother _ => cases hother.symm.trans hphase
  | establish hother => cases hother.symm.trans hphase
  | event hother _ _ _ => cases hother.symm.trans hphase
  | monitorOver _ _ => rfl

theorem Ready.ending {action : Action} {bound : Nat} (hready : run.Ready action)
    (h : run.Ending bound) (htake : run.take? action = some next) : next.Ending bound := by
  obtain ⟨worker, shown, hstep, rfl⟩ := exists_of_take? htake
  have hdeaf : action ≠ .hear := by
    rintro rfl
    cases hready with
    | hear hstop _ _ => cases hstop.symm.trans h.stopRequested
  obtain ⟨hstop, hle, hless⟩ :=
    WorkerCore.endsLeft_of_step (Worker.step_core hstep) h.stopRequested hdeaf
  have hworker := (beside_follow (run.after action worker shown) run.worker.phase).worker
  refine ⟨by rw [hworker]; exact hstop, .inl ?_⟩
  rw [hworker]
  rcases h.nears with hfewer | ⟨hmost, ⟨session, outcome, hphase⟩, -⟩
  · exact hle.trans_lt hfewer
  · exact (hless (hready.eq_monitorOver hphase)).trans_le hmost

theorem monitor_follow_of_closing {before : WorkerPhase} {session : LiveSession}
    {outcome : Except Error SessionEnd} (hphase : run.worker.phase = .closing session outcome)
    (hbefore : before ≠ .establishing) :
    (run.follow before).monitor = run.monitor.map MonitorRun.cancel := by
  have hcase := followCase run before
  generalize run.follow before = next at hcase ⊢
  cases hcase with
  | opened _ => exact absurd rfl hbefore
  | notOpened _ => exact absurd rfl hbefore
  | ends _ => rfl
  | closed hother => exact absurd hphase (hother session outcome)
  | goesOn hother => exact absurd hphase (hother session outcome)

theorem ending_takeMonitor? {bound : Nat} (hsteady : run.Steady) (h : run.Ending bound)
    (htake : run.takeMonitor? = some next) : next.Ending bound := by
  obtain ⟨monitor, hmonitor, htake⟩ := Option.bind_eq_some_iff.1 htake
  obtain ⟨later, hact, htake⟩ := Option.bind_eq_some_iff.1 htake
  have hlater : (∃ session outcome, run.worker.phase = .closing session outcome) →
      later.isDue run.now = true ∨ later.monitor.isOver = true := by
    rintro ⟨session, outcome, hphase⟩
    exact MonitorRun.isDue_or_isOver_of_act? hact
      (hsteady.cancelled session outcome hphase monitor hmonitor)
  split at htake
  · rename_i hsignalled
    obtain ⟨worker, shown, hstep, hnext⟩ := exists_of_take? htake
    have hphase : worker.phase = run.worker.phase ∧
        worker.stopRequested = run.worker.stopRequested := by
      cases hstep
      exact ⟨rfl, rfl⟩
    have hworker : next.worker = worker := by
      rw [hnext, (beside_follow _ _).worker]
      rfl
    refine ⟨by rw [hworker, hphase.2, h.stopRequested], ?_⟩
    rw [hworker, hphase.1]
    refine h.nears.imp_right ?_
    rintro ⟨hmost, ⟨session, outcome, hclosing⟩, -⟩
    refine ⟨hmost, ⟨session, outcome, hclosing⟩, ?_⟩
    have hmonitors : next.monitor = some later.cancel := by
      rw [hnext, monitor_follow_of_closing (hphase.1.trans hclosing) (hclosing ▸ nofun)]
      rfl
    rw [hmonitors]
    rintro _ ⟨⟩
    exact .inr (by simp [MonitorRun.cancel, Monitor.isOver, hsignalled])
  · cases htake
    refine ⟨h.stopRequested, h.nears.imp_right ?_⟩
    rintro ⟨hmost, hclosing, -⟩
    refine ⟨hmost, hclosing, ?_⟩
    rintro _ ⟨⟩
    exact hlater hclosing

theorem ending_act? {bound : Nat} (hsteady : run.Steady) (h : run.Ending bound)
    (hact : run.act? = some next) : next.Ending bound := by
  rw [act?] at hact
  split at hact
  · exact (ready_of_nextAction? ‹_›).ending h hact
  · exact ending_takeMonitor? hsteady h hact

theorem ending_settle {bound : Nat} (hsteady : run.Steady) (h : run.Ending bound) :
    run.settle.Ending bound := by
  have hstep (before after : EngineRun) (hboth : before.Steady ∧ before.Ending bound)
      (hact : before.act? = some after) : after.Steady ∧ after.Ending bound :=
    ⟨(advances_act? hboth.1 hact).1, ending_act? hboth.1 hboth.2 hact⟩
  exact (stepsWithin_keeps hstep _ ⟨hsteady, h⟩).2

theorem AtRest.endsLeft_lt {bound : Nat} (hrest : run.AtRest) (h : run.Ending bound) :
    run.worker.phase.endsLeft < bound := by
  rcases h.nears with hfewer | ⟨-, ⟨session, outcome, hphase⟩, hmonitor⟩
  · exact hfewer
  · obtain ⟨hnone, hidle⟩ := act?_eq_none_iff.1 hrest.act?_eq_none
    rw [takeMonitor?_eq_none_iff] at hidle
    have hover : run.monitor.all (·.monitor.isOver) = true := by
      rw [Option.all_eq_true]
      intro monitor hsome
      refine (hmonitor monitor hsome).resolve_left ?_
      rw [hidle monitor hsome]
      exact Bool.false_ne_true
    simp [nextAction?, hphase, hover] at hnone

theorem closing_of_stopRequested (hnone : run.nextAction? = none)
    (hstop : run.worker.stopRequested = true) (hphase : run.worker.phase ≠ .finished) :
    ∃ session outcome, run.worker.phase = .closing session outcome := by
  cases hother : run.worker.phase with
  | closing session outcome => exact ⟨session, outcome, rfl⟩
  | finished => exact absurd hother hphase
  | backingOff deadline =>
    simp only [nextAction?, hother, hstop, if_true] at hnone
    split at hnone <;> cases hnone
  | servingPenalty deadline =>
    simp only [nextAction?, hother, hstop, if_true] at hnone
    split at hnone <;> cases hnone
  | _ => simp [nextAction?, hother, hstop] at hnone

theorem endsLeft_pos_of_closing (session : LiveSession) (outcome : Except Error SessionEnd) :
    0 < (WorkerPhase.closing session outcome).endsLeft := by
  rcases outcome with error | reason
  · exact Nat.one_pos
  · cases reason <;> exact Nat.zero_lt_succ _

/-- Where a simulation that was told to stop is at rest and goes on, a listing is on its way. -/
theorem AtRest.exists_due (hrest : run.AtRest) (hstop : run.worker.stopRequested = true)
    (hphase : run.worker.phase ≠ .finished) : 0 < run.worker.phase.endsLeft ∧
      ∃ due, run.due? = some due ∧
        Ending { run with now := due } run.worker.phase.endsLeft := by
  obtain ⟨hnone, hidle⟩ := act?_eq_none_iff.1 hrest.act?_eq_none
  obtain ⟨session, outcome, hclosing⟩ := closing_of_stopRequested hnone hstop hphase
  rw [takeMonitor?_eq_none_iff] at hidle
  have hnot : run.monitor.all (·.monitor.isOver) = false := by
    simpa [nextAction?, hclosing] using hnone
  obtain ⟨monitor, hmonitor, hover⟩ := (Option.all_eq_false _ _).1 hnot
  rw [Bool.eq_false_iff, ne_eq, Bool.not_eq_true] at hover
  have hcancelled := hrest.steady.cancelled session outcome hclosing monitor hmonitor
  have hlisting := MonitorRun.listing_of_cancelled hcancelled (hidle monitor hmonitor) hover
  have harrives : monitor.due? = some monitor.arriving.1 := by
    rw [MonitorRun.due?, hlisting]
  have hpast : monitor.isDue monitor.arriving.1 = true := by
    simp [MonitorRun.isDue, hlisting, harrives]
  rw [hclosing]
  refine ⟨endsLeft_pos_of_closing session outcome, monitor.arriving.1, ?_, hstop, .inr ?_⟩
  · simp [due?, hclosing, hmonitor, harrives]
  · dsimp only
    rw [hclosing, hmonitor]
    refine ⟨le_rfl, ⟨session, outcome, rfl⟩, ?_⟩
    rintro _ ⟨⟩
    exact .inl hpast

theorem finished_runToEnd {moves : Nat} (h : run.AtRest) (hstop : run.worker.stopRequested = true)
    (hmoves : run.worker.phase.endsLeft ≤ moves) :
    (runToEnd moves run).worker.phase = .finished := by
  induction moves generalizing run with
  | zero =>
    by_contra hphase
    exact absurd (h.exists_due hstop hphase).1 (by omega)
  | succ moves ih =>
    rw [runToEnd]
    split
    · assumption
    · rename_i due hdue hphase
      obtain ⟨-, later, hlater, hending⟩ := h.exists_due hstop hphase
      obtain rfl : due = later := Option.some.inj (hdue.symm.trans hlater)
      have hcomes := h.comes_due hdue
      have hsettled := ending_settle (steady_of_move h.steady (h.passes_due hdue)) hending
      have hless := hcomes.atRest.endsLeft_lt hsettled
      exact ih hcomes.atRest hsettled.stopRequested (by omega)
    · rename_i hdue hphase
      obtain ⟨-, later, hlater, -⟩ := h.exists_due hstop hphase
      rw [hdue] at hlater
      cases hlater

theorem endsLeft_lt_three (phase : WorkerPhase) : phase.endsLeft < 3 := by
  cases phase with
  | closing session outcome =>
    rcases outcome with error | reason
    · simp [WorkerPhase.endsLeft]
    · cases reason <;> simp [WorkerPhase.endsLeft]
  | _ => simp [WorkerPhase.endsLeft]

theorem finished_stop (h : run.AtRest) : run.stop.worker.phase = .finished := by
  have hrest := (comes_requestStop h).atRest
  have hending : run.requestStop.Ending 3 := by
    rw [requestStop]
    split
    · rename_i next htake
      refine ending_settle (steady_of_requestStop h.steady htake) ⟨?_, .inl (endsLeft_lt_three _)⟩
      obtain ⟨worker, shown, hstep, rfl⟩ := exists_of_take? htake
      cases hstep
      dsimp only
      rw [(beside_follow _ _).worker]
      rfl
    · rename_i hnone
      cases hnone
  exact finished_runToEnd hrest hending.stopRequested (Nat.le_of_lt_succ (endsLeft_lt_three _))

/-- A simulation that is told to stop comes to its end, whatever it was told before. -/
theorem finished_of_stop {settings : Settings} {host : SimulatedHost}
    (hstart : start settings host = .ok first) (orders : List Order) :
    ((orders ++ [Order.stop]).foldl obey first).worker.phase = .finished := by
  rw [List.foldl_append]
  exact finished_stop (comes_obeyed (atRest_of_start hstart) orders).atRest

end EngineRun

end Sinkhole
