import Sinkhole.Proofs.Lifecycle.Steps

/-! # The engine does not give up

Whatever fails in a session or on the way to one, another session may follow. The worker therefore
comes to its end only where a stop was requested. What carries this is an invariant of its steps:
an outcome that waits for the monitor of its session is no final failure, and without a stop request
it is no stop either.
-/
namespace Sinkhole

variable {engine : Engine}

namespace WorkerCore

variable {core after : WorkerCore} {action : Action} {phase : WorkerPhase} {stop : Bool}
  {outcome : Except Error SessionEnd} {effects : List Effect}

/-- A session that failed did so in a way that another session may follow. -/
def FailedRecoverably (core : WorkerCore) : Prop :=
  ∀ session error, core.phase = .closing session (.error error) → error.isRecoverable = true

theorem failedRecoverably_of_turn {control : Control} {notices : List Notice}
    (hturn : Turn phase effects) : FailedRecoverably ⟨phase, control, notices, stop⟩ := by
  intro session error hphase
  cases hturn with
  | goesOn _ _ => cases hphase
  | fails hrecoverable _ =>
    cases hphase
    exact hrecoverable

theorem failedRecoverably_of_afterSession {control : Control} {notices : List Notice}
    (hafter : AfterSession stop outcome phase effects) :
    FailedRecoverably ⟨phase, control, notices, stop⟩ := by
  intro session error hphase
  cases hafter <;> cases hphase

theorem failedRecoverably_of_step (hbefore : core.FailedRecoverably)
    (hstep : Step core action after effects) : after.FailedRecoverably := by
  cases hstep with
  | notified notice => exact hbefore
  | stopRequested => exact hbefore
  | heard _ hturn _ => exact failedRecoverably_of_turn hturn
  | looped hturn => exact failedRecoverably_of_turn hturn
  | notEstablished _ hafter => exact failedRecoverably_of_afterSession hafter
  | closed hafter => exact failedRecoverably_of_afterSession hafter
  | @requestClosing session after outcome =>
    intro left error hphase
    cases hphase
    exact hbefore session error rfl
  | _ => exact fun _ _ hphase => nomatch hphase

/-- No stop was requested, and the worker is neither at its end nor about to be. -/
def GoesOn (core : WorkerCore) : Prop :=
  core.stopRequested = false ∧
    match core.phase with
    | .finished | .closing _ (.ok .stopped) => False
    | _ => True

def ShowsNoEnd (effects : List Effect) : Prop :=
  .status .stopping ∉ effects ∧ .status .stopped ∉ effects

theorem ShowsNoEnd.append {front back : List Effect} (hfront : ShowsNoEnd front)
    (hback : ShowsNoEnd back) : ShowsNoEnd (front ++ back) := by
  rw [ShowsNoEnd, List.mem_append, List.mem_append, not_or, not_or]
  exact ⟨⟨hfront.1, hback.1⟩, hfront.2, hback.2⟩

theorem showsNoEnd_of_quiet (hquiet : ∀ effect ∈ effects, effect.isQuiet) : ShowsNoEnd effects :=
  ⟨fun hmem => Bool.false_ne_true (hquiet _ hmem), fun hmem => Bool.false_ne_true (hquiet _ hmem)⟩

theorem goesOn_of_turn {control : Control} {notices : List Notice} (hturn : Turn phase effects) :
    GoesOn ⟨phase, control, notices, false⟩ ∧ ShowsNoEnd effects := by
  cases hturn with
  | goesOn _ hquiet => exact ⟨⟨rfl, trivial⟩, showsNoEnd_of_quiet hquiet⟩
  | fails _ hquiet => exact ⟨⟨rfl, trivial⟩, showsNoEnd_of_quiet hquiet⟩

theorem goesOn_of_afterSession {control : Control} {notices : List Notice}
    (hstopped : outcome ≠ .ok .stopped)
    (hrecoverable : ∀ error, outcome = .error error → error.isRecoverable = true)
    (hafter : AfterSession false outcome phase effects) :
    GoesOn ⟨phase, control, notices, false⟩ ∧ ShowsNoEnd effects := by
  cases hafter with
  | stopped => exact absurd rfl hstopped
  | networkLost => exact ⟨⟨rfl, trivial⟩, by simp [ShowsNoEnd]⟩
  | requested deadline => exact ⟨⟨rfl, trivial⟩, by simp [ShowsNoEnd]⟩
  | interrupted hstop => cases hstop
  | failed _ _ deadline => exact ⟨⟨rfl, trivial⟩, by simp [ShowsNoEnd]⟩
  | gaveUp _ hfinal =>
    have htry := hrecoverable _ rfl
    rw [hfinal] at htry
    cases htry

theorem goesOn_of_step (hfailed : core.FailedRecoverably) (hbefore : core.GoesOn)
    (haction : action ≠ .requestStop) (hstep : Step core action after effects) :
    after.GoesOn ∧ ShowsNoEnd effects := by
  obtain ⟨hstop, hphase⟩ := hbefore
  have hnothing : ShowsNoEnd [] := ⟨List.not_mem_nil, List.not_mem_nil⟩
  cases hstep with
  | begun deadline => exact ⟨⟨hstop, trivial⟩, by simp [ShowsNoEnd]⟩
  | notified notice => exact ⟨⟨hstop, hphase⟩, hnothing⟩
  | stopRequested => exact absurd rfl haction
  | stoppedIdle _ => cases hstop
  | stoppedRunning => cases hstop
  | @ended session control notice notices reason hend =>
    refine ⟨⟨rfl, ?_⟩, hnothing⟩
    cases reason with
    | stopped => exact control.sessionEnd?_ne_stopped notice hend
    | reconnect => trivial
    | networkLost => trivial
  | heard _ hturn _ => exact goesOn_of_turn hturn
  | networkReturned deadline => exact ⟨⟨hstop, trivial⟩, by simp [ShowsNoEnd]⟩
  | established _ => exact ⟨⟨hstop, trivial⟩, by simp [ShowsNoEnd]⟩
  | @notEstablished phase error trace control notices stop effects hrecoverable hafter =>
    obtain rfl : stop = false := hstop
    have hstopped : (Except.error error : Except Error SessionEnd) ≠ .ok .stopped := nofun
    have htry : ∀ failure, (Except.error error : Except Error SessionEnd) = .error failure →
        failure.isRecoverable = true := by
      rintro failure ⟨⟩
      exact hrecoverable
    obtain ⟨hgoesOn, hshown⟩ := goesOn_of_afterSession hstopped htry hafter
    have hconfigured : ShowsNoEnd [.configured trace] := by simp [ShowsNoEnd]
    exact ⟨hgoesOn, hconfigured.append hshown⟩
  | looped hturn => exact goesOn_of_turn hturn
  | @requestClosing session after outcome =>
    refine ⟨⟨hstop, ?_⟩, hnothing⟩
    rcases outcome with error | reason
    · trivial
    · cases reason <;> exact hphase
  | @closed session outcome phase control notices stop effects hafter =>
    obtain rfl : stop = false := hstop
    refine goesOn_of_afterSession ?_ (fun error herror => hfailed session error (herror ▸ rfl))
      hafter
    rintro rfl
    exact hphase
  | _ => exact ⟨⟨hstop, trivial⟩, hnothing⟩

end WorkerCore

/-- Whatever the host, the tunnel, the sockets and the probes do, each part of a session fails only
in ways that another session may follow. -/
structure FailsRecoverably (engine : Engine) : Prop where
  establish : ∀ platform error, (establish (ρ := Flow) platform engine.settings).1 = .error error →
    error.isRecoverable = true
  handlePacket : ∀ {κ : Type} (classify : Classifier κ) path now packet session classifier
    (forwarder : Forwarder) error, (handlePacket classify (Forwarder.resolve path now) packet
      session classifier forwarder).result = .error error → error.isRecoverable = true
  flush : ∀ (session : SessionState Flow) writer count error,
    (session.flush writer count).2.error? = some error → error.isRecoverable = true
  idleTimeout : ∀ (watchdog : Watchdog) now send error,
    (watchdog.idleTimeout now send).failure = some error → error.isRecoverable = true
  loop : ∀ (worker next : Worker) moment action shown session left error,
    worker.phase = .running session → worker.step? engine moment action = some (next, shown) →
      next.phase = .closing left (.error error) → error.isRecoverable = true

theorem failsRecoverably (engine : Engine) : FailsRecoverably engine where
  establish := fun _ _ herror => isRecoverable_of_establish herror
  handlePacket := by
    intro κ classify path now packet session classifier forwarder error herror
    obtain ⟨cause, rfl⟩ := exists_unreachable_of_handlePacket herror
    rfl
  flush := by
    intro session writer count error herror
    obtain ⟨cause, rfl⟩ := exists_tunnelWrite_of_flush herror
    rfl
  idleTimeout := fun _ _ _ _ hfailure => Watchdog.isRecoverable_of_idleTimeout hfailure
  loop := by
    intro worker next moment action shown session left error hphase hstep hclosing
    have hbefore : worker.core.FailedRecoverably := by
      intro other failure hother
      cases hphase.symm.trans hother
    exact WorkerCore.failedRecoverably_of_step hbefore (Worker.step_core hstep) left error hclosing

namespace Worker

variable {settings : Settings} {networks : List Network} {start last : Worker}
  {run : List (Moment × Action)} {shown : List Effect}

theorem failedRecoverably_of_run (hnew : Worker.new settings networks = .ok start)
    (hrun : start.run? engine run = some (last, shown)) : last.core.FailedRecoverably := by
  refine run_induction (fun _ core _ => core.FailedRecoverably) ?_
    WorkerCore.failedRecoverably_of_step hrun
  rw [core_new hnew]
  exact fun _ _ hphase => nomatch hphase

theorem goesOn_of_run (hnew : Worker.new settings networks = .ok start)
    (hrun : start.run? engine run = some (last, shown))
    (hstop : ∀ step ∈ run, step.2 ≠ .requestStop) :
    last.core.GoesOn ∧ WorkerCore.ShowsNoEnd shown := by
  have hkept : (∀ action ∈ run.map Prod.snd, action ≠ .requestStop) →
      last.core.GoesOn ∧ WorkerCore.ShowsNoEnd shown ∧ last.core.FailedRecoverably := by
    refine run_induction (fun actions core shown => (∀ action ∈ actions, action ≠ .requestStop) →
      core.GoesOn ∧ WorkerCore.ShowsNoEnd shown ∧ core.FailedRecoverably) ?_ ?_ hrun
    · rw [core_new hnew]
      exact fun _ => ⟨⟨rfl, trivial⟩, ⟨List.not_mem_nil, List.not_mem_nil⟩,
        fun _ _ hphase => nomatch hphase⟩
    · intro actions core shown action after later hbefore hone hactions
      rw [List.forall_mem_append, List.forall_mem_singleton] at hactions
      obtain ⟨hgoesOn, hshown, hfailed⟩ := hbefore hactions.1
      obtain ⟨hafter, hlater⟩ := WorkerCore.goesOn_of_step hfailed hgoesOn hactions.2 hone
      exact ⟨hafter, hshown.append hlater, WorkerCore.failedRecoverably_of_step hfailed hone⟩
  obtain ⟨hgoesOn, hshown, -⟩ := hkept fun action haction => by
    obtain ⟨step, hmem, rfl⟩ := List.mem_map.1 haction
    exact hstop step hmem
  exact ⟨hgoesOn, hshown⟩

/-- The engine does not give up on its own. No part of a session fails for good, nor does a session
in any run, and without a stop request the worker neither finishes nor reports an end. -/
theorem neverGivesUp (hnew : Worker.new settings networks = .ok start)
    (hrun : start.run? engine run = some (last, shown)) :
    FailsRecoverably engine ∧ last.core.FailedRecoverably ∧
      ((∀ step ∈ run, step.2 ≠ .requestStop) →
        last.phase ≠ .finished ∧ .status .stopping ∉ shown ∧ .status .stopped ∉ shown) := by
  refine ⟨failsRecoverably engine, failedRecoverably_of_run hnew hrun, fun hstop => ?_⟩
  obtain ⟨⟨-, hphase⟩, hstopping, hstopped⟩ := goesOn_of_run hnew hrun hstop
  refine ⟨fun hfinished => ?_, hstopping, hstopped⟩
  rw [core, hfinished] at hphase
  exact hphase

/-- The host refuses every address at first, and the tunnel of the next session cannot be read. -/
def failsTwice : List (Moment × Action) :=
  let refusing : Platform := { Platform.obliging [.wifi] with
    builder := fun _ _ => some (.other "refused") }
  ({ Moment.obliging [.wifi] 0 with platform := refusing }).takes
      [.begin, .backoffOver, .penaltyOver, .establish] ++
    (Moment.obliging [.wifi] (seconds 5)).takes [.backoffOver, .penaltyOver, .establish,
      .event (.readFailed (.other "failure")), .monitorOver]

theorem neverGivesUp_failsTwice : ∃ start last shown,
    Worker.new {} (Platform.obliging [.wifi]).networks = .ok start ∧
      start.run? (.ofSettings {}) failsTwice = some (last, shown) ∧
      (∀ step ∈ failsTwice, step.2 ≠ .requestStop) ∧
      shown.count (.counted (.reconnects .error)) = 2 ∧
      FailsRecoverably (.ofSettings {}) ∧ last.core.FailedRecoverably ∧
      last.phase ≠ .finished ∧ .status .stopping ∉ shown ∧ .status .stopped ∉ shown := by
  have hnew := new_withDefaults (Platform.obliging [.wifi]).networks
  have hruns : ((withDefaults (Platform.obliging [.wifi]).networks).run? (.ofSettings {})
      failsTwice).map (fun outcome : Outcome =>
        outcome.2.count (.counted (.reconnects .error))) = some 2 := by
    decide +kernel
  obtain ⟨⟨last, shown⟩, hrun, hcount⟩ := Option.map_eq_some_iff.1 hruns
  have hstop : ∀ step ∈ failsTwice, step.2 ≠ .requestStop := by
    simp [failsTwice, Moment.takes]
  obtain ⟨hfails, hfailed, hgoesOn⟩ := neverGivesUp hnew hrun
  exact ⟨_, last, shown, hnew, hrun, hstop, hcount, hfails, hfailed, hgoesOn hstop⟩

end Worker

end Sinkhole
