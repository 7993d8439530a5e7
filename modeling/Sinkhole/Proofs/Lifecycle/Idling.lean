import Sinkhole.Proofs.Lifecycle.Attempts
import Sinkhole.Proofs.Lifecycle.Probing

/-! # How the worker calls its watchdog

A loop that is idle has waited for the poll timeout since it handled the last event, and the poll
timeout is never zero. So the worker calls its watchdog idle later than it read any packet, which is
what the watchdog needs to tell the two apart. Main statement: the watchdog goes by all that
happened, after any calls in time, and the worker makes no others.
-/
namespace Sinkhole.Worker

open WatchdogRun

def watchdogCalls (engine : Engine) (moment : Moment) (next : Worker) :
    Action → List (Nat × WatchdogCall)
  | .backoffOver => [(moment.now, .prepare engine.settings.watchdogEnabled)]
  | .establish =>
    match next.phase with
    | .running session =>
      let servers := session.state.servers
      [(moment.now, .setTarget servers.probeTarget servers.defaultServer)]
    | _ => []
  | .event (.packet octets) =>
    if (octets.take maxPacketSize).isEmpty then [] else [(moment.now, .packetRead)]
  | .event .idle => [(moment.now, .idle (sendProbe moment.path))]
  | _ => []

def watchdogCallsIn (engine : Engine) : Worker → List (Moment × Action) →
    List (Nat × WatchdogCall) :=
  alongRun (fun _ moment action next => watchdogCalls engine moment next action) engine

variable {engine : Engine} {worker next : Worker} {moment : Moment} {action : Action}
  {session : LiveSession} {effects shown : List Effect}

@[simp] theorem watchdog_flush (worker : Worker) (moment : Moment) (session : LiveSession)
    (effects : List Effect) :
    (worker.flush moment session effects).1.watchdog = worker.watchdog := by
  simp only [flush]
  split <;> rfl

@[simp] theorem watchdog_afterSession (worker : Worker) (now : Nat)
    (outcome : Except Error SessionEnd) :
    (worker.afterSession now outcome).1.watchdog = worker.watchdog := by
  cases outcome with
  | ok reason => cases reason <;> rfl
  | error error =>
    rw [afterSession]
    split
    · rfl
    · split <;> rfl

theorem watchdog_handle (engine : Engine) (worker : Worker) (moment : Moment)
    (session : LiveSession) (packet : Bytes) :
    (handle engine worker moment session packet).1.watchdog =
      worker.watchdog.packetRead moment.now := by
  simp only [handle]
  split
  · rfl
  · exact watchdog_flush _ _ _ _

/-- A flush is the end of a turn, and the loop waits anew. -/
theorem idleSince_of_flush {after : LiveSession}
    (h : (worker.flush moment session effects).1.phase = .running after) :
    after.idleSince = moment.now := by
  simp only [flush] at h
  split at h
  · cases h
  · cases h
    rfl

theorem idleSince_of_handle {packet : Bytes} {after : LiveSession}
    (h : (handle engine worker moment session packet).1.phase = .running after) :
    after.idleSince = moment.now := by
  simp only [handle] at h
  split at h
  · cases h
  · exact idleSince_of_flush h

/-- What the calls of a step make of the watchdog, and since when the loop waits if it does. -/
structure Accounts (calls : List (Nat × WatchdogCall)) (worker : Worker) (moment : Moment)
    (next : Worker) : Prop where
  watchdog : ∀ run : WatchdogRun, run.watchdog = worker.watchdog →
    (run.through calls).watchdog = next.watchdog
  idleSince : ∀ after, next.phase = .running after → after.idleSince = moment.now ∨
    calls = [] ∧ ∃ session, worker.phase = .running session ∧ session.idleSince = after.idleSince

theorem Accounts.of_same (hwatchdog : next.watchdog = worker.watchdog)
    (hidle : ∀ after, next.phase = .running after → after.idleSince = moment.now ∨
      ∃ session, worker.phase = .running session ∧ session.idleSince = after.idleSince) :
    Accounts [] worker moment next where
  watchdog := fun _ hrun => hrun.trans hwatchdog.symm
  idleSince := fun after hphase => (hidle after hphase).imp_right fun hsame => ⟨rfl, hsame⟩

theorem Accounts.of_not_running (hwatchdog : next.watchdog = worker.watchdog)
    (hphase : ∀ session, next.phase ≠ .running session) : Accounts [] worker moment next :=
  .of_same hwatchdog fun session hrunning => absurd hrunning (hphase session)

theorem accounts_flush {after : Worker} (hwatchdog : after.watchdog = worker.watchdog) :
    Accounts [] worker moment (after.flush moment session effects).1 :=
  .of_same ((watchdog_flush _ _ _ _).trans hwatchdog) fun _ hphase =>
    .inl (idleSince_of_flush hphase)

theorem accounts_endLoop {after : Worker} {outcome : Except Error SessionEnd}
    (hwatchdog : after.watchdog = worker.watchdog) :
    Accounts [] worker moment (after.endLoop session outcome effects).1 :=
  .of_not_running hwatchdog (by rintro _ ⟨⟩)

theorem phase_afterSession_ne (worker : Worker) (now : Nat) (outcome : Except Error SessionEnd)
    (session : LiveSession) : (worker.afterSession now outcome).1.phase ≠ .running session := by
  obtain ⟨phase, hcore, hafter⟩ := afterSession_cases worker now outcome
  have hphase : (worker.afterSession now outcome).1.phase = phase :=
    congrArg WorkerCore.phase hcore
  rw [hphase]
  rintro rfl
  cases hafter

theorem accounts_afterSession {after : Worker} (hwatchdog : after.watchdog = worker.watchdog)
    (now : Nat) (outcome : Except Error SessionEnd) :
    Accounts [] worker moment (after.afterSession now outcome).1 :=
  .of_not_running ((watchdog_afterSession _ _ _).trans hwatchdog)
    (phase_afterSession_ne after now outcome)

theorem accounts_handleEvent {event : LoopEvent} {outcome : Outcome}
    (h : handleEvent engine worker moment session event = some outcome) :
    Accounts (watchdogCalls engine moment outcome.1 (.event event)) worker moment outcome.1 := by
  cases event with
  | answers read =>
    cases h
    exact accounts_flush rfl
  | pollFailed cause =>
    cases h
    exact accounts_endLoop rfl
  | completion =>
    rw [handleEvent] at h
    split at h
    · cases h
    · cases h
      exact accounts_flush rfl
  | packet octets =>
    simp only [handleEvent] at h
    rw [watchdogCalls]
    split at h
    · rename_i hempty
      cases h
      rw [if_pos hempty]
      exact accounts_endLoop rfl
    · rename_i hsome
      cases h
      rw [if_neg hsome]
      refine ⟨?_, fun _ hphase => .inl (idleSince_of_handle hphase)⟩
      intro run hrun
      rw [watchdog_handle, ← hrun]
      rfl
  | readFailed cause =>
    cases h
    exact accounts_endLoop rfl
  | idle =>
    simp only [handleEvent] at h
    split at h
    · cases h
      refine ⟨?_, by rintro _ ⟨⟩⟩
      intro run hrun
      rw [endLoop, ← hrun]
      rfl
    · cases h
      refine ⟨?_, fun _ hphase => .inl (idleSince_of_flush hphase)⟩
      intro run hrun
      rw [watchdog_flush, ← hrun]
      rfl

theorem Accounts.of_same_phase (hwatchdog : next.watchdog = worker.watchdog)
    (hphase : next.phase = worker.phase) : Accounts [] worker moment next :=
  .of_same hwatchdog fun after hafter => .inr ⟨after, hphase ▸ hafter, rfl⟩

theorem accounts_begin {now : Nat} (h : worker.begin? now = some (next, shown)) :
    Accounts [] worker moment next := by
  rw [begin?] at h
  split at h
  · cases h
    exact .of_not_running rfl (by rintro _ ⟨⟩)
  · cases h

theorem accounts_takeStop (h : worker.takeStop? = some (next, shown)) :
    Accounts [] worker moment next := by
  rw [takeStop?] at h
  split at h
  · split at h <;> cases h
    all_goals exact .of_not_running rfl (by rintro _ ⟨⟩)
  · cases h

theorem accounts_hearInSession {heard : Worker} {notice : Notice}
    (hwatchdog : heard.watchdog = worker.watchdog) :
    Accounts [] worker moment (heard.hearInSession moment session notice).1 := by
  rw [hearInSession]
  split
  · exact accounts_endLoop hwatchdog
  · exact accounts_flush hwatchdog

theorem accounts_hearWaiting {heard : Worker} {notice : Notice}
    (hwatchdog : heard.watchdog = worker.watchdog) (hphase : heard.phase = .waitingForNetwork) :
    Accounts [] worker moment (heard.hearWaiting moment.now notice).1 := by
  have hwaiting (session : LiveSession) : heard.phase ≠ .running session := by
    rw [hphase]
    rintro ⟨⟩
  cases notice with
  | networkAvailable network => exact .of_not_running hwatchdog (by rintro _ ⟨⟩)
  | networkLost network => exact .of_not_running hwatchdog hwaiting
  | interfaceDown generation => exact .of_not_running hwatchdog hwaiting

theorem accounts_hear (h : worker.hear? moment = some (next, shown)) :
    Accounts [] worker moment next := by
  rw [hear?] at h
  split at h
  · cases h
  · dsimp only at h
    split at h
    · split at h
      · cases h
      · obtain rfl : _ = next := congrArg Prod.fst (Option.some.inj h)
        exact accounts_hearInSession rfl
    · rename_i hphase
      obtain rfl : _ = next := congrArg Prod.fst (Option.some.inj h)
      exact accounts_hearWaiting rfl hphase
    · cases h

theorem accounts_backoffOver (h : worker.backoffOver? engine moment.now = some (next, shown)) :
    Accounts [(moment.now, .prepare engine.settings.watchdogEnabled)] worker moment next := by
  rw [backoffOver?] at h
  split at h
  · split at h
    · cases h
      refine ⟨?_, by rintro _ ⟨⟩⟩
      intro run hrun
      rw [← hrun]
      rfl
    · cases h
  · cases h

theorem accounts_penaltyOver {now : Nat} (h : worker.penaltyOver? now = some (next, shown)) :
    Accounts [] worker moment next := by
  rw [penaltyOver?] at h
  split at h
  · split at h
    · cases h
      exact .of_not_running rfl (by rintro _ ⟨⟩)
    · cases h
  · cases h

theorem accounts_establish (h : worker.establish? engine moment = some (next, shown)) :
    Accounts (watchdogCalls engine moment next .establish) worker moment next := by
  rw [establish?] at h
  split at h
  · simp only [establishSession, Option.some.injEq] at h
    split at h
    · obtain rfl : _ = next := congrArg Prod.fst h
      rw [watchdogCalls]
      split
      · rename_i hphase
        exact absurd hphase (phase_afterSession_ne _ _ _ _)
      · exact accounts_afterSession rfl _ _
    · cases h
      refine ⟨?_, ?_⟩
      · intro run hrun
        rw [← hrun]
        rfl
      · rintro after ⟨⟩
        exact .inl rfl
  · cases h

theorem accounts_event {event : LoopEvent}
    (h : worker.event? engine moment event = some (next, shown)) :
    Accounts (watchdogCalls engine moment next (.event event)) worker moment next := by
  rw [event?] at h
  split at h
  · split at h
    · cases h
    · exact accounts_handleEvent h
  · cases h

theorem accounts_request {number : Nat} {event : RequestEvent}
    (h : worker.request? number event = some (next, shown)) :
    Accounts [] worker moment next := by
  simp only [request?] at h
  split at h
  · rename_i session hphase
    obtain ⟨⟨forwarder, state⟩, -, hdone⟩ := Option.bind_eq_some_iff.1 h
    cases hdone
    refine .of_same rfl ?_
    rintro after ⟨⟩
    exact .inr ⟨session, hphase, rfl⟩
  · obtain ⟨⟨forwarder, state⟩, -, hdone⟩ := Option.bind_eq_some_iff.1 h
    cases hdone
    exact .of_not_running rfl (by rintro _ ⟨⟩)
  · cases h

theorem accounts_monitorOver {now : Nat} (h : worker.monitorOver? now = some (next, shown)) :
    Accounts [] worker moment next := by
  rw [monitorOver?] at h
  split at h
  · obtain rfl : _ = next := congrArg Prod.fst (Option.some.inj h)
    refine accounts_afterSession ?_ _ _
    rfl
  · cases h

theorem accounts_of_step (h : worker.step? engine moment action = some (next, shown)) :
    Accounts (watchdogCalls engine moment next action) worker moment next := by
  cases action with
  | begin => exact accounts_begin h
  | notify notice =>
    cases h
    exact .of_same_phase rfl rfl
  | requestStop =>
    cases h
    exact .of_same_phase rfl rfl
  | takeStop => exact accounts_takeStop h
  | hear => exact accounts_hear h
  | backoffOver => exact accounts_backoffOver h
  | penaltyOver => exact accounts_penaltyOver h
  | establish => exact accounts_establish h
  | event event => exact accounts_event h
  | request number event => exact accounts_request h
  | monitorOver => exact accounts_monitorOver h

/-- Whether the loop waited for the poll timeout, each time it is said to have been idle. -/
def idleWaits (engine : Engine) : Worker → List (Moment × Action) → List Bool :=
  alongRun (fun worker moment action _ =>
    match worker.phase, action with
    | .running session, .event .idle =>
      [worker.watchdog.idleLimit.any fun limit => session.idleSince + limit ≤ moment.now]
    | _, _ => []) engine

def WaitsOut (engine : Engine) (start : Worker) (run : List (Moment × Action)) : Prop :=
  ∀ waited ∈ idleWaits engine start run, waited = true

instance (engine : Engine) (start : Worker) (run : List (Moment × Action)) :
    Decidable (WaitsOut engine start run) :=
  inferInstanceAs (Decidable (∀ _ ∈ _, _))

/-- The calls of a run, with the worker that it leads to. -/
structure CallsInTime (run : List (Moment × Action)) (calls : List (Nat × WatchdogCall))
    (worker : Worker) : Prop where
  onTime : OnTime calls
  watchdog : (WatchdogRun.after calls).watchdog = worker.watchdog
  moments : ∀ call ∈ calls, ∃ step ∈ run, step.1.now = call.1
  read : ∀ session, worker.phase = .running session →
    ∀ read, (read, .packetRead) ∈ calls → read ≤ session.idleSince

theorem watchdogCalls_cases (engine : Engine) (moment : Moment) (next : Worker) (action : Action) :
    watchdogCalls engine moment next action = [] ∨
      ∃ call, watchdogCalls engine moment next action = [(moment.now, call)] ∧
        (call.isIdle = true → action = .event .idle) := by
  cases action with
  | backoffOver => exact .inr ⟨_, rfl, nofun⟩
  | establish =>
    rw [watchdogCalls]
    split
    · exact .inr ⟨_, rfl, nofun⟩
    · exact .inl rfl
  | event event =>
    cases event with
    | packet octets =>
      rw [watchdogCalls]
      split
      · exact .inl rfl
      · exact .inr ⟨_, rfl, nofun⟩
    | idle => exact .inr ⟨_, rfl, fun _ => rfl⟩
    | _ => exact .inl rfl
  | _ => exact .inl rfl

section Step

variable {start : Worker} {run : List (Moment × Action)} {calls : List (Nat × WatchdogCall)}

/-- The loop is idle later than all that was read, since it waited after that. -/
theorem CallsInTime.read_lt (h : CallsInTime run calls worker)
    (hstep : worker.step? engine moment (.event .idle) = some (next, shown))
    (hwaits : ∀ session, worker.phase = .running session →
      ∃ limit ∈ worker.watchdog.idleLimit, session.idleSince + limit ≤ moment.now) :
    ∀ read, (read, .packetRead) ∈ calls → read < moment.now := by
  rw [step?, event?] at hstep
  split at hstep
  · rename_i session hphase
    obtain ⟨limit, hlimit, hdue⟩ := hwaits session hphase
    rw [← h.watchdog] at hlimit
    have hpos := (coherent_after h.onTime).idleLimit_pos limit hlimit
    intro read hread
    have hsince := h.read session hphase read hread
    omega
  · cases hstep

theorem CallsInTime.step (h : CallsInTime run calls worker)
    (hstep : worker.step? engine moment action = some (next, shown))
    (hclock : ∀ step ∈ run, step.1.now ≤ moment.now)
    (hwaits : action = .event .idle → ∀ session, worker.phase = .running session →
      ∃ limit ∈ worker.watchdog.idleLimit, session.idleSince + limit ≤ moment.now) :
    CallsInTime (run ++ [(moment, action)]) (calls ++ watchdogCalls engine moment next action)
      next := by
  have haccounts := accounts_of_step hstep
  have hpast : ∀ call ∈ calls, call.1 ≤ moment.now := by
    intro call hcall
    obtain ⟨step, hmem, hnow⟩ := h.moments call hcall
    rw [← hnow]
    exact hclock step hmem
  have hmoments : ∀ call ∈ calls, ∃ step ∈ run ++ [(moment, action)], step.1.now = call.1 := by
    intro call hcall
    obtain ⟨step, hmem, hnow⟩ := h.moments call hcall
    exact ⟨step, List.mem_append_left _ hmem, hnow⟩
  have hwatchdog := haccounts.watchdog _ h.watchdog
  rw [← after_append] at hwatchdog
  rcases watchdogCalls_cases engine moment next action with hnone | ⟨call, hone, hisIdle⟩
  · rw [hnone, List.append_nil] at hwatchdog ⊢
    refine ⟨h.onTime, hwatchdog, hmoments, ?_⟩
    intro session hphase read hread
    rcases haccounts.idleSince session hphase with hnow | ⟨-, before, hbefore, hsince⟩
    · rw [hnow]
      exact hpast _ hread
    · rw [← hsince]
      exact h.read before hbefore read hread
  · rw [hone] at hwatchdog ⊢
    refine ⟨h.onTime.concat hpast ?_, hwatchdog, ?_, ?_⟩
    · intro hidle
      obtain rfl := hisIdle hidle
      exact h.read_lt hstep (hwaits rfl)
    · rw [List.forall_mem_append]
      exact ⟨hmoments, List.forall_mem_singleton.2 ⟨_, List.mem_concat_self, rfl⟩⟩
    · intro session hphase read hread
      rcases haccounts.idleSince session hphase with hnow | ⟨hnone, -⟩
      · rw [hnow]
        rcases List.mem_append.1 hread with hread | hread
        · exact hpast _ hread
        · exact (congrArg Prod.fst (List.mem_singleton.1 hread)).le
      · rw [hone] at hnone
        cases hnone

theorem timed_concat {since : Nat} (h : Timed since (run ++ [(moment, action)])) :
    Timed since run ∧ ∀ step ∈ run, step.1.now ≤ moment.now := by
  rw [Timed, List.map_append, ← List.cons_append, List.isChain_iff_pairwise,
    List.pairwise_append] at h
  obtain ⟨hrun, -, hlast⟩ := h
  refine ⟨List.isChain_iff_pairwise.2 hrun, ?_⟩
  intro step hstep
  have hmem := List.mem_cons_of_mem since (List.mem_map_of_mem (f := fun step => step.1.now) hstep)
  exact hlast _ hmem _ (List.mem_singleton_self _)

theorem callsInTime_of_run {last : Worker} (hwatchdog : start.watchdog = .initial)
    (hcreated : start.phase = .created) (hrun : start.run? engine run = some (last, shown)) :
    Timed 0 run → WaitsOut engine start run →
      CallsInTime run (watchdogCallsIn engine start run) last := by
  refine run_induction_on (fun run worker _ => Timed 0 run → WaitsOut engine start run →
    CallsInTime run (watchdogCallsIn engine start run) worker) ?_ ?_ hrun
  · intro _ _
    refine ⟨⟨.nil, .nil⟩, hwatchdog.symm, fun _ hcall => absurd hcall List.not_mem_nil, ?_⟩
    intro session hphase
    cases hcreated.symm.trans hphase
  · intro run worker shown moment action next later hbefore ih hstep htimed hwaits
    obtain ⟨htimed, hclock⟩ := timed_concat htimed
    rw [WaitsOut, idleWaits, alongRun_concat _ hbefore hstep, List.forall_mem_append] at hwaits
    obtain ⟨hearlier, hlast⟩ := hwaits
    rw [watchdogCallsIn, alongRun_concat _ hbefore hstep]
    refine (ih htimed hearlier).step hstep hclock ?_
    rintro rfl session hphase
    rw [hphase] at hlast
    have hdue := hlast _ (List.mem_singleton_self _)
    obtain ⟨limit, hlimit, hle⟩ := (Option.any_eq_true _ _).1 hdue
    exact ⟨limit, hlimit, of_decide_eq_true hle⟩

end Step

/-- After any calls in time the watchdog goes by all that happened. The calls of a worker are in
time when its clock does not go back and its loop, where it is idle, waited for the poll timeout. -/
theorem watchdog_goesByLog :
    (∀ calls, OnTime calls → (WatchdogRun.after calls).GoesByLog) ∧
      ∀ engine settings networks start run last shown,
        Worker.new settings networks = .ok start → start.run? engine run = some (last, shown) →
          Timed 0 run → WaitsOut engine start run →
            OnTime (start.watchdogCallsIn engine run) ∧
              (WatchdogRun.after (start.watchdogCallsIn engine run)).watchdog = last.watchdog := by
  refine ⟨fun calls hcalls => goesByLog_after hcalls, ?_⟩
  intro engine settings networks start run last shown hnew hrun htimed hwaits
  obtain ⟨forwarder, hstart⟩ := exists_of_new hnew
  have hcalls := callsInTime_of_run (hstart ▸ rfl) (hstart ▸ rfl) hrun htimed hwaits
  exact ⟨hcalls.onTime, hcalls.watchdog⟩

/-- The first probe is answered at the instant at which it was sent, the second one never is. -/
def probedTwice : List (Nat × WatchdogCall) :=
  [(0, .prepare true), (0, .setTarget (.v4 (Vector.replicate 4 2)) (.v4 (Vector.replicate 4 9))),
    (seconds 1, .idle fun _ => none), (seconds 1, .packetRead), (seconds 5, .idle fun _ => none)]

/-- A loop that sees no more than one packet, until its watchdog gives the server up. -/
def losesServer : List (Moment × Action) :=
  let moment (now : Nat) : Moment := { Moment.obliging [.wifi] now with path := fun _ _ => .sent }
  (moment 0).takes [.begin, .backoffOver, .penaltyOver, .establish] ++
    (moment (seconds 1)).takes [.event .idle, .event (.packet [0])] ++
    (moment (seconds 5)).takes [.event .idle] ++
    (moment (seconds 12)).takes [.event .idle, .monitorOver]

theorem watchdog_goesByLog_losesServer :
    (OnTime probedTwice ∧ (WatchdogRun.after probedTwice).GoesByLog ∧
      (WatchdogRun.after probedTwice).log.Outstanding) ∧
    ∃ start last shown, Worker.new { watchdogEnabled := true } [] = .ok start ∧
      start.run? (.ofSettings { watchdogEnabled := true }) losesServer = some (last, shown) ∧
      shown.count (.status .reconnectingNetworkError) = 1 ∧ Timed 0 losesServer ∧
      WaitsOut (.ofSettings { watchdogEnabled := true }) start losesServer ∧
      OnTime (start.watchdogCallsIn (.ofSettings { watchdogEnabled := true }) losesServer) ∧
      (WatchdogRun.after (start.watchdogCallsIn (.ofSettings { watchdogEnabled := true })
        losesServer)).watchdog = last.watchdog := by
  have honTime : OnTime probedTwice := by
    constructor <;> simp [probedTwice, seconds, WatchdogCall.isIdle]
  have hgoes := watchdog_goesByLog.1 probedTwice honTime
  have houtstanding : (WatchdogRun.after probedTwice).log.Outstanding :=
    (hgoes.waiting_iff (by decide)).1 (by decide)
  refine ⟨⟨honTime, hgoes, houtstanding⟩, ?_⟩
  have hnew : Worker.new { watchdogEnabled := true } [] = .ok (.withDefaults []) := rfl
  have hruns : ((withDefaults []).run? (.ofSettings { watchdogEnabled := true }) losesServer).map
      (fun outcome : Outcome => outcome.2.count (.status .reconnectingNetworkError)) =
        some 1 := by
    decide +kernel
  have htimed : Timed 0 losesServer := by decide
  have hwaits : WaitsOut (.ofSettings { watchdogEnabled := true }) (withDefaults [])
      losesServer := by
    decide +kernel
  obtain ⟨⟨last, shown⟩, hrun, hcount⟩ := Option.map_eq_some_iff.1 hruns
  obtain ⟨hcalls, hsame⟩ := watchdog_goesByLog.2 _ _ _ _ _ _ _ hnew hrun htimed hwaits
  exact ⟨_, last, shown, hnew, hrun, hcount, htimed, hwaits, hcalls, hsame⟩

end Sinkhole.Worker
