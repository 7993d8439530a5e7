import Sinkhole.Proofs.Lifecycle.Failures

/-! # What the worker can do

Where the worker goes next depends on its phase, on the networks and the generation, on the notices
that it has not heard yet, and on whether a stop was requested. `WorkerCore.Step` lists what can
happen to these, with what the outside sees of it, and `step_core` says that nothing else can. What
holds of every run is proved from that list, with `run_induction`.
-/
namespace Sinkhole

/-- What decides where the worker goes next. -/
structure WorkerCore where
  phase : WorkerPhase
  control : Control
  notices : List Notice
  stopRequested : Bool

def Worker.core (worker : Worker) : WorkerCore :=
  ⟨worker.phase, worker.control, worker.notices, worker.stopRequested⟩

/-- What a session at work shows: packets written, queries and evictions counted. -/
def Effect.isQuiet : Effect → Bool
  | .written _ | .counted (.queries _) | .counted .pendingEvictions => true
  | .status _ | .configured _ | .counted (.reconnects _) => false

/-- Whether the worker waits for nothing but time or a network. -/
def WorkerPhase.isIdle : WorkerPhase → Bool
  | .backingOff _ | .servingPenalty _ | .waitingForNetwork => true
  | .created | .establishing | .running _ | .closing _ _ | .finished => false

/-- A host with one network, which accepts whatever is asked of it. -/
def Platform.obliging (transports : List Transport) : Platform where
  networks := [⟨true, transports, []⟩]
  installed := []
  browsers := []
  ownPackage := ""
  builder := fun _ _ => none

def Moment.obliging (transports : List Transport) (now : Nat) : Moment :=
  ⟨now, .obliging transports, .offline, fun _ => none⟩

def Moment.takes (moment : Moment) (actions : List Action) : List (Moment × Action) :=
  actions.map (moment, ·)

def Worker.runs (worker : Worker) : Bool :=
  match worker.phase with
  | .running _ => true
  | _ => false

theorem Worker.runs_iff {worker : Worker} :
    worker.runs = true ↔ ∃ session, worker.phase = .running session := by
  rw [runs]
  cases worker.phase <;> simp

/-- The worker of an engine with default settings. -/
def Worker.withDefaults (networks : List Network) : Worker :=
  ⟨.created, .initial networks, [], false, .initial, .initial,
    .new ({} : Settings).cacheCapacity, .udp⟩

theorem Worker.new_withDefaults (networks : List Network) :
    Worker.new {} networks = .ok (.withDefaults networks) := rfl

theorem Control.sessionEnd?_ne_stopped (control : Control) (notice : Notice) :
    control.sessionEnd? notice ≠ some .stopped := by
  cases notice <;> simp only [sessionEnd?] <;> split <;> exact nofun

namespace WorkerCore

def goTo (core : WorkerCore) (phase : WorkerPhase) : WorkerCore := { core with phase := phase }

/-- What follows an attempt to run a session. -/
inductive AfterSession (stop : Bool) :
    Except Error SessionEnd → WorkerPhase → List Effect → Prop where
  | stopped : AfterSession stop (.ok .stopped) .finished [.status .stopping, .status .stopped]
  | networkLost :
      AfterSession stop (.ok .networkLost) .waitingForNetwork [.status .waitingForNetwork]
  | requested (deadline : Nat) : AfterSession stop (.ok .reconnect) (.backingOff deadline)
      [.counted (.reconnects .requested), .status .reconnecting]
  | interrupted {error : Error} (hstop : stop = true) :
      AfterSession stop (.error error) .finished [.status .stopping, .status .stopped]
  | failed {error : Error} (hstop : stop = false) (hrecoverable : error.isRecoverable = true)
      (deadline : Nat) : AfterSession stop (.error error) (.backingOff deadline)
        [.counted (.reconnects .error), .status .reconnectingNetworkError]
  | gaveUp {error : Error} (hstop : stop = false) (hfinal : error.isRecoverable = false) :
      AfterSession stop (.error error) .finished [.status .stopping, .status .stopped]

/-- What a turn of the event loop leads to: the loop goes on with nothing left to write, or it
fails, and never for good. -/
inductive Turn : WorkerPhase → List Effect → Prop where
  | goesOn {session : LiveSession} {effects : List Effect}
      (hwritten : session.state.outbound = []) (hquiet : ∀ effect ∈ effects, effect.isQuiet) :
      Turn (.running session) effects
  | fails {session : LiveSession} {error : Error} {effects : List Effect}
      (hrecoverable : error.isRecoverable = true) (hquiet : ∀ effect ∈ effects, effect.isQuiet) :
      Turn (.closing session (.error error)) effects

/-- One thing that can happen to the worker. -/
inductive Step : WorkerCore → Action → WorkerCore → List Effect → Prop where
  | begun {control : Control} {notices : List Notice} {stop : Bool} (deadline : Nat) :
      Step ⟨.created, control, notices, stop⟩ .begin ⟨.backingOff deadline, control, notices, stop⟩
        [.status .starting]
  | notified {phase : WorkerPhase} {control : Control} {notices : List Notice} {stop : Bool}
      (notice : Notice) :
      Step ⟨phase, control, notices, stop⟩ (.notify notice)
        ⟨phase, control, notices ++ [notice], stop⟩ []
  | stopRequested {phase : WorkerPhase} {control : Control} {notices : List Notice} {stop : Bool} :
      Step ⟨phase, control, notices, stop⟩ .requestStop ⟨phase, control, notices, true⟩ []
  | stoppedIdle {phase : WorkerPhase} {control : Control} {notices : List Notice}
      (hidle : phase.isIdle = true) :
      Step ⟨phase, control, notices, true⟩ .takeStop ⟨.finished, control, notices, true⟩
        [.status .stopping, .status .stopped]
  | stoppedRunning {session : LiveSession} {control : Control} {notices : List Notice} :
      Step ⟨.running session, control, notices, true⟩ .takeStop
        ⟨.closing session (.ok .stopped), control, notices, true⟩ []
  | ended {session : LiveSession} {control : Control} {notice : Notice} {notices : List Notice}
      {reason : SessionEnd} (hend : control.sessionEnd? notice = some reason) :
      Step ⟨.running session, control, notice :: notices, false⟩ .hear
        ⟨.closing session (.ok reason), control.hear notice, notices, false⟩ []
  | heard {session : LiveSession} {phase : WorkerPhase} {control : Control} {notice : Notice}
      {notices : List Notice} {effects : List Effect} (hend : control.sessionEnd? notice = none)
      (hturn : Turn phase effects)
      (hgoesOn : session.state.outbound = [] → ∃ after, phase = .running after) :
      Step ⟨.running session, control, notice :: notices, false⟩ .hear
        ⟨phase, control.hear notice, notices, false⟩ effects
  | networkReturned {control : Control} {network : NetworkClass} {notices : List Notice}
      {stop : Bool} (deadline : Nat) :
      Step ⟨.waitingForNetwork, control, .networkAvailable network :: notices, stop⟩ .hear
        ⟨.backingOff deadline, control.hear (.networkAvailable network), notices, stop⟩
        [.counted (.reconnects .network), .status .reconnecting]
  | stillWaiting {control : Control} {notice : Notice} {notices : List Notice} {stop : Bool}
      (hnone : ∀ network, notice ≠ .networkAvailable network) :
      Step ⟨.waitingForNetwork, control, notice :: notices, stop⟩ .hear
        ⟨.waitingForNetwork, control.hear notice, notices, stop⟩ []
  | backoffOver {deadline : Nat} {control : Control} {notices : List Notice} {stop : Bool}
      (served : Nat) :
      Step ⟨.backingOff deadline, control, notices, stop⟩ .backoffOver
        ⟨.servingPenalty served, control, notices, stop⟩ []
  | penaltyOver {deadline : Nat} {control : Control} {notices : List Notice} {stop : Bool} :
      Step ⟨.servingPenalty deadline, control, notices, stop⟩ .penaltyOver
        ⟨.establishing, control, notices, stop⟩ []
  | established {session : LiveSession} {trace : BuilderTrace} {control : Control}
      {notices : List Notice} {stop : Bool} (hwritten : session.state.outbound = []) :
      Step ⟨.establishing, control, notices, stop⟩ .establish
        ⟨.running session, { control with generation := control.generation + 1 }, notices, stop⟩
        [.configured trace, .status .running]
  | notEstablished {phase : WorkerPhase} {error : Error} {trace : BuilderTrace} {control : Control}
      {notices : List Notice} {stop : Bool} {effects : List Effect}
      (hrecoverable : error.isRecoverable = true)
      (hafter : AfterSession stop (.error error) phase effects) :
      Step ⟨.establishing, control, notices, stop⟩ .establish ⟨phase, control, notices, stop⟩
        (.configured trace :: effects)
  | looped {session : LiveSession} {phase : WorkerPhase} {event : LoopEvent} {control : Control}
      {effects : List Effect} (hturn : Turn phase effects) :
      Step ⟨.running session, control, [], false⟩ (.event event) ⟨phase, control, [], false⟩
        effects
  | requestRunning {session after : LiveSession} {number : Nat} {event : RequestEvent}
      {control : Control} {notices : List Notice} {stop : Bool}
      (houtbound : after.state.outbound = session.state.outbound) :
      Step ⟨.running session, control, notices, stop⟩ (.request number event)
        ⟨.running after, control, notices, stop⟩ []
  | requestClosing {session after : LiveSession} {outcome : Except Error SessionEnd}
      {number : Nat} {event : RequestEvent} {control : Control} {notices : List Notice}
      {stop : Bool} :
      Step ⟨.closing session outcome, control, notices, stop⟩ (.request number event)
        ⟨.closing after outcome, control, notices, stop⟩ []
  | closed {session : LiveSession} {outcome : Except Error SessionEnd} {phase : WorkerPhase}
      {control : Control} {notices : List Notice} {stop : Bool} {effects : List Effect}
      (hafter : AfterSession stop outcome phase effects) :
      Step ⟨.closing session outcome, control, notices, stop⟩ .monitorOver
        ⟨phase, control, notices, stop⟩ effects

end WorkerCore

theorem Forwarder.counters_resolve {ρ : Type} (path : UdpPath) (now : Nat)
    (query : ForwardedQuery ρ) (session : SessionState ρ) (forwarder : Forwarder) :
    ∀ counter ∈ (Forwarder.resolve path now query session forwarder).counters,
      counter = .pendingEvictions := by
  have hudp : ∀ counter ∈ (forwardUdp path now query session ()).counters,
      counter = .pendingEvictions := by
    intro counter hcounter
    simp only [forwardUdp] at hcounter
    split at hcounter
    · exact absurd hcounter List.not_mem_nil
    · split at hcounter <;> exact absurd hcounter List.not_mem_nil
    · split at hcounter
      · exact absurd hcounter List.not_mem_nil
      · exact (List.mem_replicate.1 hcounter).2
  cases forwarder with
  | udp => exact hudp
  | https resolver =>
    intro counter hcounter
    simp only [Forwarder.resolve, HttpsResolver.resolve] at hcounter
    split at hcounter
    · simp only [HttpsResolver.start] at hcounter
      split at hcounter <;> exact absurd hcounter List.not_mem_nil
    · exact hudp counter hcounter

theorem isQuiet_counters_handlePacket {κ : Type} (classify : Classifier κ) (path : UdpPath)
    (now : Nat) (packet : Bytes) (session : SessionState Flow) (classifier : κ)
    (forwarder : Forwarder) :
    ∀ counter ∈ (handlePacket classify (Forwarder.resolve path now) packet session classifier
      forwarder).counters, (Effect.counted counter).isQuiet := by
  have hresolve (query : ForwardedQuery Flow) :
      ∀ counter ∈ (Forwarder.resolve path now query session forwarder).counters,
        (Effect.counted counter).isQuiet := by
    intro counter hcounter
    rw [Forwarder.counters_resolve path now query session forwarder counter hcounter]
    rfl
  have hquery (action : QueryAction) : ∀ counter ∈ [Counter.queries action],
      (Effect.counted counter).isQuiet := by
    intro counter hcounter
    rw [List.mem_singleton.1 hcounter]
    rfl
  have hcases := handlePacket_cases classify (Forwarder.resolve path now) packet session classifier
    forwarder
  generalize hostsAsked classify _ packet session classifier forwarder = hosts at hcases
  generalize resolverCalls classify _ packet session classifier forwarder = calls at hcases
  generalize handlePacket classify _ packet session classifier forwarder = handled at hcases ⊢
  cases hcases with
  | dropped _ _ => exact hquery _
  | keptAlive _ => exact hresolve _
  | answered _ _ _ => exact hquery _
  | @forwarded request next _ _ =>
    rw [(forwardRequest_fields (Forwarder.resolve path now) session next forwarder request).1]
    intro counter hcounter
    rcases List.mem_cons.1 hcounter with rfl | hcounter
    · rfl
    · exact hresolve _ counter hcounter

theorem outbound_applyRequest {ρ : Type} {number : Nat} {event : RequestEvent}
    {resolver after : HttpsResolver} {session next : SessionState ρ}
    (h : Worker.applyRequest number event resolver session = some (after, next)) :
    next.outbound = session.outbound := by
  cases event with
  | failed =>
    obtain ⟨-, rfl⟩ := Prod.mk.inj (Option.some.inj h)
    rfl
  | answered answer =>
    obtain ⟨-, rfl⟩ := Prod.mk.inj (Option.some.inj h)
    rfl
  | handedOver =>
    simp only [Worker.applyRequest, HttpsResolver.handOver?, Option.bind_eq_bind,
      Option.bind_eq_some_iff] at h
    obtain ⟨task, -, answer, -, completions, -, hdone⟩ := h
    obtain ⟨-, rfl⟩ := Prod.mk.inj (Option.some.inj hdone)
    rfl

theorem outbound_onHttps {ρ : Type} {number : Nat} {event : RequestEvent}
    {forwarder after : Forwarder} {session next : SessionState ρ}
    (h : forwarder.onHttps session (Worker.applyRequest number event) = some (after, next)) :
    next.outbound = session.outbound := by
  cases forwarder with
  | udp => cases h
  | https resolver =>
    obtain ⟨⟨changed, state⟩, hchange, hdone⟩ := Option.map_eq_some_iff.1 h
    obtain ⟨-, rfl⟩ := Prod.mk.inj hdone
    exact outbound_applyRequest hchange

/-- Either everything is written, or a write fails: then its packet is lost, and what is behind it
is left. -/
theorem flushPackets_cases (writer : TunnelWriter) (count : Nat) (packets : List Bytes) :
    flushPackets writer count packets = ⟨packets, [], none⟩ ∨
      ∃ written lost left cause, packets = written ++ lost :: left ∧
        writer (count + written.length) = some cause ∧
          flushPackets writer count packets = ⟨written, left, some cause⟩ := by
  induction packets generalizing count with
  | nil => exact .inl rfl
  | cons packet rest ih =>
    rw [flushPackets]
    cases hwrite : writer count with
    | some cause => exact .inr ⟨[], packet, rest, cause, rfl, hwrite, rfl⟩
    | none =>
      rcases ih (count + 1) with hdone | ⟨written, lost, left, cause, rfl, hcause, hflushed⟩
      · rw [hdone]
        exact .inl rfl
      · refine .inr ⟨packet :: written, lost, left, cause, rfl, ?_, ?_⟩
        · rw [← hcause, List.length_cons]
          congr 1
          omega
        · rw [hflushed]

namespace Worker

open WorkerCore

variable {engine : Engine} {worker next : Worker} {moment : Moment} {shown : List Effect}

/-- The event loop has had a turn. -/
def HadTurn (worker : Worker) (outcome : Outcome) : Prop :=
  ∃ phase, outcome.1.core = worker.core.goTo phase ∧ Turn phase outcome.2

theorem isQuiet_written {effects : List Effect} (hquiet : ∀ effect ∈ effects, effect.isQuiet)
    (packets : List Bytes) : ∀ effect ∈ effects ++ packets.map .written, effect.isQuiet := by
  intro effect heffect
  rcases List.mem_append.1 heffect with hbefore | hwritten
  · exact hquiet effect hbefore
  · obtain ⟨packet, -, rfl⟩ := List.mem_map.1 hwritten
    rfl

theorem isQuiet_nil : ∀ effect ∈ ([] : List Effect), effect.isQuiet :=
  fun _ heffect => absurd heffect List.not_mem_nil

theorem hadTurn_endLoop {after : Worker} (hcore : after.core = worker.core)
    (session : LiveSession) {error : Error} {effects : List Effect}
    (hrecoverable : error.isRecoverable = true) (hquiet : ∀ effect ∈ effects, effect.isQuiet) :
    worker.HadTurn (after.endLoop session (.error error) effects) :=
  ⟨.closing session (.error error), by rw [← hcore]; rfl, .fails hrecoverable hquiet⟩

theorem flush_cases (worker : Worker) (moment : Moment) (session : LiveSession)
    {effects : List Effect} (hquiet : ∀ effect ∈ effects, effect.isQuiet) :
    ∃ phase, (worker.flush moment session effects).1.core = worker.core.goTo phase ∧
      Turn phase (worker.flush moment session effects).2 ∧
      (session.state.outbound = [] → ∃ after, phase = .running after) := by
  simp only [flush, SessionState.flush, Flushed.error?]
  rcases flushPackets_cases moment.writer session.writes session.state.outbound with
    hflushed | ⟨written, lost, left, cause, hqueued, -, hflushed⟩
  · simp only [hflushed, Option.map_none]
    exact ⟨_, rfl, .goesOn rfl (isQuiet_written hquiet _), fun _ => ⟨_, rfl⟩⟩
  · simp only [hflushed, Option.map_some]
    refine ⟨_, rfl, .fails rfl (isQuiet_written hquiet _), fun hnone => ?_⟩
    simp [hqueued] at hnone

theorem hadTurn_flush {after : Worker} (hcore : after.core = worker.core) (moment : Moment)
    (session : LiveSession) {effects : List Effect}
    (hquiet : ∀ effect ∈ effects, effect.isQuiet) :
    worker.HadTurn (after.flush moment session effects) := by
  obtain ⟨phase, hphase, hturn, -⟩ := flush_cases after moment session hquiet
  exact ⟨phase, by rw [hphase, hcore], hturn⟩

theorem hadTurn_handle (engine : Engine) (worker : Worker) (moment : Moment)
    (session : LiveSession) (packet : Bytes) :
    worker.HadTurn (handle engine worker moment session packet) := by
  have hquiet := isQuiet_counters_handlePacket engine.classify moment.path moment.now packet
    session.state worker.cache worker.forwarder
  rw [handle]
  have hfails (error : Error) (herror : (handlePacket engine.classify
      (Forwarder.resolve moment.path moment.now) packet session.state worker.cache
      worker.forwarder).result = .error error) : error.isRecoverable = true := by
    obtain ⟨cause, rfl⟩ := exists_unreachable_of_handlePacket herror
    rfl
  generalize handlePacket engine.classify (Forwarder.resolve moment.path moment.now) packet
    session.state worker.cache worker.forwarder = handled at hquiet hfails
  have hcounted : ∀ effect ∈ handled.counters.map Effect.counted, effect.isQuiet := by
    intro effect heffect
    obtain ⟨counter, hcounter, rfl⟩ := List.mem_map.1 heffect
    exact hquiet counter hcounter
  cases hresult : handled.result with
  | error error => exact hadTurn_endLoop rfl _ (hfails error hresult) hcounted
  | ok _ => exact hadTurn_flush rfl moment _ hcounted

theorem hadTurn_handleEvent {session : LiveSession} {event : LoopEvent} {outcome : Outcome}
    (h : handleEvent engine worker moment session event = some outcome) :
    worker.HadTurn outcome := by
  cases event with
  | answers read =>
    cases h
    exact hadTurn_flush rfl moment _ isQuiet_nil
  | pollFailed cause =>
    cases h
    exact hadTurn_endLoop rfl _ rfl isQuiet_nil
  | completion =>
    rw [handleEvent] at h
    cases hwaiting : session.state.completions.waiting with
    | nil =>
      rw [hwaiting] at h
      cases h
    | cons completion waiting =>
      rw [hwaiting] at h
      cases h
      exact hadTurn_flush rfl moment _ isQuiet_nil
  | packet octets =>
    simp only [handleEvent] at h
    split at h
    · cases h
      exact hadTurn_endLoop rfl _ rfl isQuiet_nil
    · cases h
      exact hadTurn_handle engine worker moment session _
  | readFailed cause =>
    cases h
    exact hadTurn_endLoop rfl _ rfl isQuiet_nil
  | idle =>
    simp only [handleEvent] at h
    cases hfailure : (worker.watchdog.idleTimeout moment.now (sendProbe moment.path)).failure with
    | some error =>
      rw [hfailure] at h
      cases h
      exact hadTurn_endLoop rfl _ (Watchdog.isRecoverable_of_idleTimeout hfailure) isQuiet_nil
    | none =>
      rw [hfailure] at h
      cases h
      exact hadTurn_flush rfl moment _ isQuiet_nil

theorem afterSession_cases (worker : Worker) (now : Nat) (outcome : Except Error SessionEnd) :
    ∃ phase, (worker.afterSession now outcome).1.core = worker.core.goTo phase ∧
      AfterSession worker.stopRequested outcome phase (worker.afterSession now outcome).2 := by
  cases outcome with
  | ok reason =>
    cases reason with
    | stopped => exact ⟨_, rfl, .stopped⟩
    | reconnect => exact ⟨_, rfl, .requested _⟩
    | networkLost => exact ⟨_, rfl, .networkLost⟩
  | error error =>
    rw [afterSession]
    cases hstop : worker.stopRequested with
    | true => exact ⟨_, rfl, .interrupted rfl⟩
    | false =>
      simp only [Bool.false_eq_true, if_false]
      cases hrecoverable : error.isRecoverable with
      | true => exact ⟨_, rfl, .failed rfl hrecoverable _⟩
      | false => exact ⟨_, rfl, .gaveUp rfl hrecoverable⟩

theorem step_takeStop (h : worker.takeStop? = some (next, shown)) :
    Step worker.core .takeStop next.core shown := by
  rcases worker with ⟨phase, control, notices, stop, throttle, watchdog, cache, forwarder⟩
  cases stop with
  | false => cases h
  | true =>
    cases phase with
    | backingOff deadline =>
      cases h
      exact .stoppedIdle rfl
    | servingPenalty deadline =>
      cases h
      exact .stoppedIdle rfl
    | waitingForNetwork =>
      cases h
      exact .stoppedIdle rfl
    | running session =>
      cases h
      exact .stoppedRunning
    | created => cases h
    | establishing => cases h
    | closing session outcome => cases h
    | finished => cases h

theorem step_hear (h : worker.hear? moment = some (next, shown)) :
    Step worker.core .hear next.core shown := by
  rcases worker with ⟨phase, control, notices, stop, throttle, watchdog, cache, forwarder⟩
  cases notices with
  | nil => cases h
  | cons notice notices =>
    cases phase with
    | running session =>
      cases stop with
      | true => cases h
      | false =>
        simp only [hear?, Bool.false_eq_true, if_false, hearInSession] at h
        cases hend : control.sessionEnd? notice with
        | some reason =>
          rw [hend] at h
          cases h
          exact .ended hend
        | none =>
          simp only [hend] at h
          obtain ⟨phase, hphase, hturn, hgoesOn⟩ := flush_cases
            ⟨.running session, control.hear notice, notices, false, throttle, watchdog, cache,
              forwarder⟩ moment session isQuiet_nil
          rw [Option.some.inj h] at hphase hturn
          rw [hphase]
          exact .heard hend hturn hgoesOn
    | waitingForNetwork =>
      cases notice with
      | networkAvailable network =>
        cases h
        exact .networkReturned _
      | networkLost network =>
        cases h
        exact .stillWaiting fun _ => Notice.noConfusion
      | interfaceDown generation =>
        cases h
        exact .stillWaiting fun _ => Notice.noConfusion
    | created => cases h
    | backingOff deadline => cases h
    | servingPenalty deadline => cases h
    | establishing => cases h
    | closing session outcome => cases h
    | finished => cases h

theorem step_backoffOver (h : worker.backoffOver? engine moment.now = some (next, shown)) :
    Step worker.core .backoffOver next.core shown := by
  rcases worker with ⟨phase, control, notices, stop, throttle, watchdog, cache, forwarder⟩
  cases phase with
  | backingOff deadline =>
    simp only [backoffOver?] at h
    split at h
    · cases h
      exact .backoffOver _
    · cases h
  | _ => cases h

theorem step_penaltyOver (h : worker.penaltyOver? moment.now = some (next, shown)) :
    Step worker.core .penaltyOver next.core shown := by
  rcases worker with ⟨phase, control, notices, stop, throttle, watchdog, cache, forwarder⟩
  cases phase with
  | servingPenalty deadline =>
    simp only [penaltyOver?] at h
    split at h
    · cases h
      exact .penaltyOver
    · cases h
  | _ => cases h

theorem outbound_of_establish {ρ : Type} {platform : Platform} {settings : Settings}
    {state : SessionState ρ} (h : (establish (ρ := ρ) platform settings).1 = .ok state) :
    state.outbound = [] := by
  rw [establish] at h
  split at h
  · cases h
  · dsimp only at h
    split at h
    · cases h
    · cases h
      rfl

theorem step_establish (h : worker.establish? engine moment = some (next, shown)) :
    Step worker.core .establish next.core shown := by
  rcases worker with ⟨phase, control, notices, stop, throttle, watchdog, cache, forwarder⟩
  cases phase with
  | establishing =>
    have houtcome := Option.some.inj h
    simp only [establishSession] at houtcome
    cases hresult : (establish (ρ := Flow) moment.platform engine.settings).1 with
    | error error =>
      rw [hresult] at houtcome
      obtain ⟨phase, hphase, hafter⟩ := afterSession_cases
        ⟨.establishing, control, notices, stop, throttle, watchdog, cache, forwarder⟩ moment.now
        (.error error)
      obtain ⟨rfl, rfl⟩ := Prod.mk.inj houtcome
      rw [hphase]
      exact .notEstablished (isRecoverable_of_establish hresult) hafter
    | ok state =>
      rw [hresult] at houtcome
      obtain ⟨rfl, rfl⟩ := Prod.mk.inj houtcome
      exact .established (outbound_of_establish hresult)
  | _ => cases h

theorem step_event {event : LoopEvent}
    (h : worker.event? engine moment event = some (next, shown)) :
    Step worker.core (.event event) next.core shown := by
  rcases worker with ⟨phase, control, notices, stop, throttle, watchdog, cache, forwarder⟩
  cases phase with
  | running session =>
    simp only [event?] at h
    split at h
    · cases h
    · rename_i hready
      simp only [Bool.or_eq_true, Bool.not_eq_true', List.isEmpty_eq_false_iff, not_or,
        Bool.not_eq_true, Decidable.not_not] at hready
      obtain ⟨hstop, hnotices⟩ := hready
      obtain ⟨phase, hphase, hturn⟩ := hadTurn_handleEvent h
      rw [hphase, core, hstop, hnotices]
      exact .looped hturn
  | _ => cases h

theorem step_request {number : Nat} {event : RequestEvent}
    (h : worker.request? number event = some (next, shown)) :
    Step worker.core (.request number event) next.core shown := by
  rcases worker with ⟨phase, control, notices, stop, throttle, watchdog, cache, forwarder⟩
  cases phase with
  | running session =>
    obtain ⟨⟨after, state⟩, hchange, hdone⟩ := Option.bind_eq_some_iff.1 h
    obtain ⟨rfl, rfl⟩ := Prod.mk.inj (Option.some.inj hdone)
    exact .requestRunning (outbound_onHttps hchange)
  | closing session outcome =>
    obtain ⟨⟨after, state⟩, -, hdone⟩ := Option.bind_eq_some_iff.1 h
    obtain ⟨rfl, rfl⟩ := Prod.mk.inj (Option.some.inj hdone)
    exact .requestClosing
  | _ => cases h

theorem step_monitorOver (h : worker.monitorOver? moment.now = some (next, shown)) :
    Step worker.core .monitorOver next.core shown := by
  rcases worker with ⟨phase, control, notices, stop, throttle, watchdog, cache, forwarder⟩
  cases phase with
  | closing session outcome =>
    have hafterSession := Option.some.inj h
    obtain ⟨phase, hphase, hafter⟩ := afterSession_cases
      ⟨.closing session outcome, control, notices, stop, throttle, watchdog, cache,
        forwarder.sessionEnded session.state⟩ moment.now outcome
    rw [hafterSession] at hphase hafter
    rw [hphase]
    exact .closed hafter
  | _ => cases h

/-- Whatever the worker does is one of these things. -/
theorem step_core {action : Action} (h : worker.step? engine moment action = some (next, shown)) :
    Step worker.core action next.core shown := by
  cases action with
  | begin =>
    rcases worker with ⟨phase, control, notices, stop, throttle, watchdog, cache, forwarder⟩
    cases phase with
    | created =>
      cases h
      exact .begun _
    | _ => cases h
  | notify notice =>
    cases h
    exact .notified notice
  | requestStop =>
    cases h
    exact .stopRequested
  | takeStop => exact step_takeStop h
  | hear => exact step_hear h
  | backoffOver => exact step_backoffOver h
  | penaltyOver => exact step_penaltyOver h
  | establish => exact step_establish h
  | event event => exact step_event h
  | request number event => exact step_request h
  | monitorOver => exact step_monitorOver h

theorem exists_of_new {settings : Settings} {networks : List Network} {start : Worker}
    (hnew : Worker.new settings networks = .ok start) :
    ∃ forwarder, start = ⟨.created, .initial networks, [], false, .initial, .initial,
      .new settings.cacheCapacity, forwarder⟩ := by
  rw [new] at hnew
  cases hvalid : settings.validate with
  | error error =>
    rw [hvalid] at hnew
    cases hnew
  | ok valid =>
    cases hforwarder : Forwarder.ofSettings settings.forwarding with
    | error error =>
      rw [hvalid, hforwarder] at hnew
      cases hnew
    | ok forwarder =>
      rw [hvalid, hforwarder] at hnew
      cases hnew
      exact ⟨forwarder, rfl⟩

theorem core_new {settings : Settings} {networks : List Network} {start : Worker}
    (hnew : Worker.new settings networks = .ok start) :
    start.core = ⟨.created, .initial networks, [], false⟩ := by
  obtain ⟨forwarder, rfl⟩ := exists_of_new hnew
  rfl

theorem exists_of_run?_concat {start last : Worker} {run : List (Moment × Action)} {action : Action}
    (hrun : start.run? engine (run ++ [(moment, action)]) = some (last, shown)) :
    ∃ middle before later, start.run? engine run = some (middle, before) ∧
      middle.step? engine moment action = some (last, later) ∧ shown = before ++ later := by
  rw [run?_append] at hrun
  obtain ⟨⟨middle, before⟩, hbefore, hrest⟩ := Option.bind_eq_some_iff.1 hrun
  obtain ⟨⟨after, later⟩, hone, hdone⟩ := Option.map_eq_some_iff.1 hrest
  obtain ⟨rfl, rfl⟩ := Prod.mk.inj hdone
  rw [run?] at hone
  obtain ⟨⟨after, later⟩, hstep, hlast⟩ := Option.bind_eq_some_iff.1 hone
  obtain ⟨rfl, rfl⟩ := Prod.mk.inj (Option.some.inj hlast)
  exact ⟨middle, before, later, hbefore, hstep, by rw [List.append_nil]⟩

/-- What holds at first and is kept by every step holds after every run. The property may speak of
the run and of all that was shown. -/
theorem run_induction_on (property : List (Moment × Action) → Worker → List Effect → Prop)
    {start : Worker} (hstart : property [] start [])
    (hstep : ∀ {run worker shown moment action after later},
      start.run? engine run = some (worker, shown) → property run worker shown →
        worker.step? engine moment action = some (after, later) →
          property (run ++ [(moment, action)]) after (shown ++ later))
    {run : List (Moment × Action)} {last : Worker}
    (hrun : start.run? engine run = some (last, shown)) : property run last shown := by
  induction run using List.reverseRecOn generalizing last shown with
  | nil =>
    cases hrun
    exact hstart
  | append_singleton run entry ih =>
    obtain ⟨middle, before, later, hbefore, hone, rfl⟩ := exists_of_run?_concat hrun
    exact hstep hbefore (ih hbefore) hone

theorem run_induction (property : List Action → WorkerCore → List Effect → Prop) {start : Worker}
    (hstart : property [] start.core [])
    (hstep : ∀ {actions core shown action after later}, property actions core shown →
      Step core action after later → property (actions ++ [action]) after (shown ++ later))
    {actions : List (Moment × Action)} {last : Worker}
    (hrun : start.run? engine actions = some (last, shown)) :
    property (actions.map Prod.snd) last.core shown := by
  refine run_induction_on (fun run worker shown => property (run.map Prod.snd) worker.core shown)
    hstart ?_ hrun
  intro run worker shown moment action after later _ hbefore hone
  rw [List.map_append]
  exact hstep hbefore (step_core hone)

section AlongRun

variable {α : Type} (see : Worker → Moment → Action → Worker → List α)

def alongRun (engine : Engine) : Worker → List (Moment × Action) → List α
  | _, [] => []
  | worker, (moment, action) :: rest =>
    match worker.step? engine moment action with
    | some (next, _) => see worker moment action next ++ alongRun engine next rest
    | none => []

theorem alongRun_concat {start last : Worker} {run : List (Moment × Action)} {before : List Effect}
    {action : Action} (hrun : start.run? engine run = some (last, before))
    (hstep : last.step? engine moment action = some (next, shown)) :
    alongRun see engine start (run ++ [(moment, action)]) =
      alongRun see engine start run ++ see last moment action next := by
  induction run generalizing start before with
  | nil =>
    cases hrun
    simp only [List.nil_append, alongRun, hstep, List.append_nil]
  | cons entry rest ih =>
    obtain ⟨first, taken⟩ := entry
    rw [run?] at hrun
    obtain ⟨⟨middle, effects⟩, hfirst, hrest⟩ := Option.bind_eq_some_iff.1 hrun
    obtain ⟨⟨final, later⟩, hlater, hdone⟩ := Option.bind_eq_some_iff.1 hrest
    obtain ⟨rfl, -⟩ := Prod.mk.inj (Option.some.inj hdone)
    simp only [List.cons_append, alongRun, hfirst]
    rw [ih hlater, List.append_assoc]

theorem forall_alongRun (property : α → Prop) {start last : Worker}
    {run : List (Moment × Action)}
    (hstep : ∀ {before middle effects moment action after later},
      start.run? engine before = some (middle, effects) →
        middle.step? engine moment action = some (after, later) →
          ∀ seen ∈ see middle moment action after, property seen)
    (hrun : start.run? engine run = some (last, shown)) :
    ∀ seen ∈ alongRun see engine start run, property seen := by
  refine run_induction_on (fun run _ _ => ∀ seen ∈ alongRun see engine start run, property seen)
    (fun _ hseen => absurd hseen List.not_mem_nil) ?_ hrun
  intro run worker shown moment action after later hbefore hall hone
  rw [alongRun_concat see hbefore hone, List.forall_mem_append]
  exact ⟨hall, hstep hbefore hone⟩

end AlongRun

end Worker

end Sinkhole
