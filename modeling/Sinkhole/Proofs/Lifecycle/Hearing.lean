import Sinkhole.Proofs.Lifecycle.Networks

/-! # What the worker hears

A session and the wait for a network hear from the same queue and keep the same set of networks. A
step either hears the first notice that was not heard yet or leaves the set alone, so that after any
run the set is what was heard, replayed over the networks that were there at the start. Sets are
compared as sets of classes here, with the replay said on them.
-/
namespace Sinkhole

namespace NetworkSet

def classes (networks : NetworkSet) : Set NetworkClass :=
  {network | networks.contains network = true}

theorem classes_insert (networks : NetworkSet) (network : NetworkClass) :
    (networks.insert network).classes = {network} ∪ networks.classes := by
  ext other
  simp [classes]

theorem classes_erase (networks : NetworkSet) (network : NetworkClass) :
    (networks.erase network).classes = networks.classes \ {network} := by
  ext other
  simp [classes, and_comm]

theorem classes_eq_empty_iff {networks : NetworkSet} :
    networks.classes = ∅ ↔ networks.isEmpty = true := by
  rw [isEmpty_iff, Set.eq_empty_iff_forall_notMem]
  simp [classes]

end NetworkSet

def Notice.replayed (available : Set NetworkClass) : Notice → Set NetworkClass
  | .networkAvailable network => {network} ∪ available
  | .networkLost network => available \ {network}
  | .interfaceDown _ => available

def NetworkClass.transport : NetworkClass → Transport
  | .wifi => .wifi
  | .cellular => .cellular

def seededClasses (networks : List Network) : Set NetworkClass :=
  {network | ∃ active, networks.find? (·.active) = some active ∧
    active.has network.transport = true}

theorem classes_replay (networks : NetworkSet) (notice : Notice) :
    (Control.replay networks notice).classes = notice.replayed networks.classes := by
  cases notice with
  | networkAvailable network => exact networks.classes_insert network
  | networkLost network => exact networks.classes_erase network
  | interfaceDown generation => rfl

theorem classes_foldl_replay (networks : NetworkSet) (notices : List Notice) :
    (notices.foldl Control.replay networks).classes =
      notices.foldl Notice.replayed networks.classes := by
  induction notices generalizing networks with
  | nil => rfl
  | cons notice notices ih => rw [List.foldl_cons, List.foldl_cons, ih, classes_replay]

theorem classes_ofNetworks (networks : List Network) :
    (NetworkSet.ofNetworks networks).classes = seededClasses networks := by
  ext network
  rw [NetworkSet.ofNetworks]
  cases hactive : networks.find? (·.active) with
  | none => cases network <;> simp [NetworkSet.classes, seededClasses, NetworkSet.contains,
      NetworkSet.empty, hactive]
  | some active => cases network <;> simp [NetworkSet.classes, seededClasses, NetworkSet.contains,
      NetworkClass.transport, hactive]

/-- A session ends for want of a network only where none is left. -/
theorem Control.isEmpty_of_networkLost {control : Control} {notice : Notice}
    (h : control.sessionEnd? notice = some .networkLost) :
    (control.hear notice).networks.isEmpty = true := by
  cases notice with
  | networkAvailable network =>
    rw [sessionEnd?] at h
    split at h <;> cases h
  | networkLost network =>
    rw [sessionEnd?] at h
    split at h
    · assumption
    · cases h
  | interfaceDown generation =>
    rw [sessionEnd?] at h
    split at h <;> cases h

/-- A notice that is heard, and the worker before and after. -/
structure Hearing where
  notice : Notice
  before : Worker
  after : Worker

namespace WorkerCore

variable {core after : WorkerCore} {action : Action} {phase : WorkerPhase} {stop : Bool}
  {effects : List Effect}

/-- The number of the session that an action begins. Its monitor signals with that number. -/
def begunBy (after : WorkerCore) : Action → List Nat
  | .establish =>
    match after.phase with
    | .running _ => [after.control.generation]
    | _ => []
  | _ => []

theorem begunBy_of_afterSession {control : Control} {notices : List Notice}
    {outcome : Except Error SessionEnd} (hafter : AfterSession stop outcome phase effects) :
    begunBy ⟨phase, control, notices, stop⟩ action = [] := by
  cases action with
  | establish => cases hafter <;> rfl
  | _ => rfl

theorem generation_of_step (hstep : Step core action after effects) :
    List.range' 1 after.control.generation =
      List.range' 1 core.control.generation ++ after.begunBy action := by
  cases hstep with
  | established _ =>
    rw [List.range'_1_concat, Nat.add_comm]
    rfl
  | notEstablished _ hafter => rw [begunBy_of_afterSession hafter, List.append_nil]
  | _ => exact (List.append_nil _).symm

/-- The last network was lost, and the worker waits for another one or is about to. -/
def LostNetwork (core : WorkerCore) : Prop :=
  match core.phase with
  | .closing _ (.ok .networkLost) | .waitingForNetwork => True
  | _ => False

theorem isEmpty_of_step (hbefore : core.LostNetwork → core.control.networks.isEmpty = true)
    (hstep : Step core action after effects) :
    after.LostNetwork → after.control.networks.isEmpty = true := by
  intro hlost
  cases hstep with
  | notified notice => exact hbefore hlost
  | stopRequested => exact hbefore hlost
  | @ended session control notice notices reason hend =>
    cases reason with
    | networkLost => exact Control.isEmpty_of_networkLost hend
    | _ => exact hlost.elim
  | heard _ hturn _ => cases hturn <;> exact hlost.elim
  | looped hturn => cases hturn <;> exact hlost.elim
  | @stillWaiting control notice notices stop hnone =>
    have hempty := hbefore trivial
    cases notice with
    | networkAvailable network => exact absurd rfl (hnone network)
    | interfaceDown generation => exact hempty
    | networkLost network =>
      rw [NetworkSet.isEmpty_iff] at hempty ⊢
      intro other
      rw [Control.hear, Control.replay, NetworkSet.contains_erase, hempty, Bool.and_false]
  | notEstablished _ hafter => cases hafter <;> exact hlost.elim
  | @requestClosing session after outcome =>
    refine hbefore ?_
    rcases outcome with error | reason
    · exact hlost
    · cases reason <;> exact hlost
  | closed hafter =>
    cases hafter with
    | networkLost => exact hbefore trivial
    | _ => exact hlost.elim
  | _ => exact hlost.elim

theorem waitOver_of_step {control : Control} {notices : List Notice}
    (hstep : Step ⟨.waitingForNetwork, control, notices, stop⟩ action after effects) :
    after.phase ≠ .waitingForNetwork ↔
      action = .takeStop ∨
        action = .hear ∧ ∃ network, notices.head? = some (.networkAvailable network) := by
  cases hstep with
  | notified notice => simp
  | stopRequested => simp
  | stoppedIdle _ => simp
  | networkReturned deadline => simp
  | stillWaiting hnone => simpa using hnone

/-- A session with everything written ends with a notice exactly where the notice says so. -/
theorem ends_of_step {session : LiveSession} {control : Control} {notice : Notice}
    {notices : List Notice} (hwritten : session.state.outbound = [])
    (hstep : Step ⟨.running session, control, notice :: notices, stop⟩ .hear after effects) :
    (∀ reason, control.sessionEnd? notice = some reason →
        ∃ left, after.phase = .closing left (.ok reason)) ∧
      (control.sessionEnd? notice = none → ∃ left, after.phase = .running left) := by
  cases hstep with
  | ended hend =>
    refine ⟨fun reason hreason => ⟨session, ?_⟩, fun hnone => ?_⟩
    · rw [Option.some.inj (hend.symm.trans hreason)]
    · cases hend.symm.trans hnone
  | heard hend _ hgoesOn =>
    refine ⟨fun reason hreason => ?_, fun _ => hgoesOn hwritten⟩
    cases hend.symm.trans hreason

end WorkerCore

namespace Worker

variable {engine : Engine} {settings : Settings} {networks : List Network}
  {start worker : Worker} {run : List (Moment × Action)} {shown : List Effect}

def hearings (engine : Engine) : Worker → List (Moment × Action) → List Hearing :=
  alongRun (fun worker _ action next =>
    (worker.core.heardBy action).map (⟨·, worker, next⟩)) engine

def sessionsBegun (engine : Engine) : Worker → List (Moment × Action) → List Nat :=
  alongRun (fun _ _ action next => next.core.begunBy action) engine

theorem sentIn_concat (run : List (Moment × Action)) (moment : Moment) (action : Action) :
    sentIn (run ++ [(moment, action)]) = sentIn run ++ action.notice?.toList := by
  rw [sentIn, sentIn, List.map_append, List.filterMap_append, List.map_singleton,
    filterMap_notice?_singleton]

theorem map_notice_hearings_concat {next : Worker} {moment : Moment} {action : Action}
    {later : List Effect} (hrun : start.run? engine run = some (worker, shown))
    (hstep : worker.step? engine moment action = some (next, later)) :
    (start.hearings engine (run ++ [(moment, action)])).map Hearing.notice =
      (start.hearings engine run).map Hearing.notice ++ worker.core.heardBy action := by
  rw [hearings, alongRun_concat _ hrun hstep, List.map_append, List.map_map]
  simp [Function.comp_def]

theorem heard_of_run (hnew : Worker.new settings networks = .ok start)
    (hrun : start.run? engine run = some (worker, shown)) :
    worker.core.Heard (.ofNetworks networks) (sentIn run)
      ((start.hearings engine run).map Hearing.notice) := by
  refine run_induction_on (fun run worker _ => worker.core.Heard (.ofNetworks networks)
    (sentIn run) ((start.hearings engine run).map Hearing.notice)) ?_ ?_ hrun
  · rw [core_new hnew]
    exact ⟨rfl, rfl, fun ⟨told, lost, htold, _⟩ => absurd htold (by simp [hearings, alongRun])⟩
  · intro run worker shown moment action after later hbefore hheard hstep
    rw [sentIn_concat, map_notice_hearings_concat hbefore hstep]
    exact WorkerCore.heard_of_step hheard (step_core hstep)

theorem sessionsBegun_eq (hnew : Worker.new settings networks = .ok start)
    (hrun : start.run? engine run = some (worker, shown)) :
    start.sessionsBegun engine run = List.range' 1 worker.control.generation := by
  refine run_induction_on (fun run worker _ =>
    start.sessionsBegun engine run = List.range' 1 worker.control.generation) ?_ ?_ hrun
  · have hcontrol : start.control = .initial networks := congrArg WorkerCore.control (core_new hnew)
    rw [hcontrol]
    rfl
  · intro run worker shown moment action after later hbefore hbegun hstep
    have hafter : List.range' 1 after.control.generation =
        List.range' 1 worker.control.generation ++ after.core.begunBy action :=
      WorkerCore.generation_of_step (step_core hstep)
    rw [sessionsBegun] at hbegun ⊢
    rw [alongRun_concat _ hbefore hstep, hbegun, hafter]

theorem isEmpty_of_waiting (hnew : Worker.new settings networks = .ok start)
    (hrun : start.run? engine run = some (worker, shown))
    (hphase : worker.phase = .waitingForNetwork) : worker.control.networks.isEmpty = true := by
  have hkept : worker.core.LostNetwork → worker.core.control.networks.isEmpty = true := by
    refine run_induction (fun _ core _ =>
      core.LostNetwork → core.control.networks.isEmpty = true) ?_ WorkerCore.isEmpty_of_step hrun
    rw [core_new hnew]
    exact False.elim
  refine hkept ?_
  rw [core, hphase]
  trivial

/-- What a session does with the signal of a monitor that it hears. -/
def ObeysOwnMonitor (engine : Engine) (worker : Worker) : Prop :=
  ∀ moment next shown session number rest, worker.phase = .running session →
    worker.notices = .interfaceDown number :: rest →
    worker.step? engine moment .hear = some (next, shown) →
      (number = worker.control.generation ↔ ∃ left, next.phase = .closing left (.ok .reconnect)) ∧
        (number ≠ worker.control.generation ↔ ∃ left, next.phase = .running left)

theorem obeysOwnMonitor_of_allWritten (hwritten : worker.core.AllWritten) :
    worker.ObeysOwnMonitor engine := by
  intro moment next shown session number rest hphase hnotices hstep
  have hone := step_core hstep
  rw [core, hphase, hnotices] at hone
  obtain ⟨hends, hgoesOn⟩ := WorkerCore.ends_of_step (hwritten session hphase) hone
  by_cases hown : number = worker.control.generation
  · have hend : worker.control.sessionEnd? (.interfaceDown number) = some .reconnect := if_pos hown
    obtain ⟨left, hleft⟩ := hends _ hend
    have hclosing : next.phase = .closing left (.ok .reconnect) := hleft
    simp [hown, hclosing]
  · have hend : worker.control.sessionEnd? (.interfaceDown number) = none := if_neg hown
    obtain ⟨left, hleft⟩ := hgoesOn hend
    have hrunning : next.phase = .running left := hleft
    simp [hown, hrunning]

/-- How a worker has dealt with its notices in a run, and how it deals with the next one. -/
structure HearsAll (engine : Engine) (networks : List Network) (worker start : Worker)
    (run : List (Moment × Action)) : Prop where
  /-- What was sent is what was heard, in that order, with what was not heard yet behind it. -/
  inOrder : sentIn run = (start.hearings engine run).map Hearing.notice ++ worker.notices
  replayed : worker.control.networks.classes =
    ((start.hearings engine run).map Hearing.notice).foldl Notice.replayed (seededClasses networks)
  noneWhileWaiting : worker.phase = .waitingForNetwork → worker.control.networks.classes = ∅
  waitOver : ∀ moment action next shown, worker.phase = .waitingForNetwork →
    worker.step? engine moment action = some (next, shown) →
      (next.phase ≠ .waitingForNetwork ↔ action = .takeStop ∨
        action = .hear ∧ ∃ network, worker.notices.head? = some (.networkAvailable network))
  numbered : start.sessionsBegun engine run = List.range' 1 worker.control.generation
  ownMonitor : worker.ObeysOwnMonitor engine
  /-- The signal of an earlier session's monitor is not for the last session. -/
  notEarlier : ∀ number ∈ (start.sessionsBegun engine run).dropLast,
    number ≠ worker.control.generation

/-- Notices are neither lost nor misapplied. -/
theorem hearsAll (hnew : Worker.new settings networks = .ok start)
    (hrun : start.run? engine run = some (worker, shown)) :
    worker.HearsAll engine networks start run where
  inOrder := (heard_of_run hnew hrun).sent_eq
  replayed := by
    have hnetworks : worker.control.networks = _ := (heard_of_run hnew hrun).networks_eq
    rw [hnetworks, classes_foldl_replay, classes_ofNetworks]
  noneWhileWaiting := fun hphase =>
    NetworkSet.classes_eq_empty_iff.2 (isEmpty_of_waiting hnew hrun hphase)
  waitOver := by
    intro moment action next later hphase hstep
    have hone := step_core hstep
    rw [core, hphase] at hone
    exact WorkerCore.waitOver_of_step hone
  numbered := sessionsBegun_eq hnew hrun
  ownMonitor := obeysOwnMonitor_of_allWritten (allWritten_of_run hnew hrun)
  notEarlier := by
    intro number hnumber
    rw [sessionsBegun_eq hnew hrun] at hnumber
    cases hgeneration : worker.control.generation with
    | zero =>
      rw [hgeneration] at hnumber
      cases hnumber
    | succ earlier =>
      rw [hgeneration, List.range'_1_concat, List.dropLast_concat, List.mem_range'_1] at hnumber
      omega

/-- The signal of the first session's monitor comes once more when the second one runs, and that of
the third when nothing runs. -/
def hearsOldSignals : List (Moment × Action) :=
  (Moment.obliging [.wifi] 0).takes [.begin, .backoffOver, .penaltyOver, .establish,
      .notify (.networkAvailable .cellular), .notify (.interfaceDown 1), .hear, .hear,
      .monitorOver] ++
    (Moment.obliging [.wifi] (seconds 5)).takes [.backoffOver, .penaltyOver, .establish,
      .notify (.interfaceDown 1), .notify (.networkLost .wifi), .hear, .hear, .monitorOver] ++
    (Moment.obliging [.cellular] (seconds 10)).takes [.backoffOver, .penaltyOver, .establish,
      .notify (.networkLost .cellular), .notify (.interfaceDown 3), .hear, .monitorOver, .hear]

theorem hearsAll_hearsOldSignals : ∃ start worker shown,
    Worker.new {} (Platform.obliging [.wifi]).networks = .ok start ∧
      start.run? (.ofSettings {}) hearsOldSignals = some (worker, shown) ∧
      shown.count (.status .waitingForNetwork) = 1 ∧
      worker.HearsAll (.ofSettings {}) (Platform.obliging [.wifi]).networks start
        hearsOldSignals ∧
      start.sessionsBegun (.ofSettings {}) hearsOldSignals = [1, 2, 3] := by
  have hnew := new_withDefaults (Platform.obliging [.wifi]).networks
  have hruns : ((withDefaults (Platform.obliging [.wifi]).networks).run? (.ofSettings {})
      hearsOldSignals).map (fun outcome : Outcome =>
        (outcome.2.count (.status .waitingForNetwork), outcome.1.control.generation)) =
          some (1, 3) := by
    decide +kernel
  obtain ⟨⟨worker, shown⟩, hrun, hends⟩ := Option.map_eq_some_iff.1 hruns
  obtain ⟨hcount, hgeneration⟩ := Prod.mk.inj hends
  have hhears := hearsAll hnew hrun
  refine ⟨_, worker, shown, hnew, hrun, hcount, hhears, ?_⟩
  rw [hhears.numbered, hgeneration]
  rfl

end Worker

end Sinkhole
