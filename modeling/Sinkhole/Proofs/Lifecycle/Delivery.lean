import Sinkhole.Proofs.Lifecycle.Steps
import Sinkhole.Proofs.Proxy.BlockedNames
import Sinkhole.Proofs.Session.Run

/-! # What a session writes

A turn of the event loop takes one event in, which may queue packets, and then writes what is
queued. An event that ends the loop queues nothing, so that the one way to lose a packet is a write
that fails. The other things that happen to a session, before its loop is over or after, leave the
queue alone.
-/
namespace Sinkhole

def Effect.written? : Effect → Option Bytes
  | .written packet => some packet
  | .status _ | .counted _ | .configured _ => none

def writtenIn (shown : List Effect) : List Bytes :=
  shown.filterMap Effect.written?

@[simp] theorem writtenIn_nil : writtenIn [] = [] := rfl

@[simp] theorem writtenIn_append (shown later : List Effect) :
    writtenIn (shown ++ later) = writtenIn shown ++ writtenIn later :=
  List.filterMap_append

@[simp] theorem writtenIn_map_written (packets : List Bytes) :
    writtenIn (packets.map .written) = packets := by
  rw [writtenIn, List.filterMap_map]
  exact List.filterMap_some

@[simp] theorem writtenIn_map_counted (counters : List Counter) :
    writtenIn (counters.map .counted) = [] := by
  rw [writtenIn, List.filterMap_map, List.filterMap_eq_nil_iff]
  exact fun _ _ => rfl

def LoopEvent.queued (engine : Engine) (worker : Worker) (moment : Moment) (session : LiveSession) :
    LoopEvent → List Bytes
  | .answers read => (Tracker.drainQueries read session.state.pending.queries).packets
  | .completion =>
    match session.state.completions.waiting with
    | [] => []
    | first :: _ => first.assemble.toOption.toList
  | .packet octets =>
    let packet := octets.take maxPacketSize
    if packet.isEmpty then []
    else (handlePacket engine.classify (Forwarder.resolve moment.path moment.now) packet
      session.state worker.cache worker.forwarder).session.outbound.drop
        session.state.outbound.length
  | .pollFailed _ | .readFailed _ | .idle => []

namespace Worker

def queuedBy (engine : Engine) (worker : Worker) (moment : Moment) : Action → List Bytes
  | .event event =>
    match worker.phase with
    | .running session => event.queued engine worker moment session
    | _ => []
  | _ => []

def queuedIn (engine : Engine) : Worker → List (Moment × Action) → List Bytes :=
  alongRun (fun worker moment action _ => worker.queuedBy engine moment action) engine

end Worker

section HandlePacket

variable {κ : Type} (classify : Classifier κ) (path : UdpPath) (now : Nat) (octets : Bytes)
  (session : SessionState Flow) (classifier : κ) (forwarder : Forwarder)

theorem outbound_handlePacket :
    (handlePacket classify (Forwarder.resolve path now) octets session classifier
        forwarder).session.outbound =
      session.outbound ++ (handlePacket classify (Forwarder.resolve path now) octets session
        classifier forwarder).session.outbound.drop session.outbound.length := by
  have hcase := SessionRun.handlePacket_packetCase classify path now octets session classifier
    forwarder
  generalize (handlePacket classify (Forwarder.resolve path now) octets session classifier
    forwarder).session = after at hcase ⊢
  have happends : ∃ queued, after.outbound = session.outbound ++ queued := by
    cases hcase with
    | unchanged => exact ⟨[], (List.append_nil _).symm⟩
    | @answered _ _ _ _ _ _ _ packet _ _ _ _ => exact ⟨[packet], rfl⟩
    | tracked _ => exact ⟨[], (List.append_nil _).symm⟩
    | started _ => exact ⟨[], (List.append_nil _).symm⟩
  obtain ⟨queued, hqueued⟩ := happends
  rw [hqueued, List.drop_left]

theorem outbound_of_handlePacket_error {error : Error}
    (herror : (handlePacket classify (Forwarder.resolve path now) octets session classifier
      forwarder).result = .error error) :
    (handlePacket classify (Forwarder.resolve path now) octets session classifier
      forwarder).session.outbound = session.outbound := by
  have hcases := handlePacket_cases classify (Forwarder.resolve path now) octets session classifier
    forwarder
  generalize hostsAsked classify _ octets session classifier forwarder = hosts at hcases
  generalize resolverCalls classify _ octets session classifier forwarder = calls at hcases
  generalize handlePacket classify _ octets session classifier forwarder = handled
    at hcases herror ⊢
  have hresolve := Forwarder.leavesOutbound (ρ := Flow) path now
  cases hcases with
  | dropped _ _ => rfl
  | keptAlive _ => exact hresolve _ _ _
  | answered _ _ _ => cases herror
  | forwarded hask hclass =>
    exact (exactHandling_forwarded hresolve hask hclass).failed_outbound error herror

end HandlePacket

/-- What can happen to a session's queue in one step, until the session is gone. -/
inductive LoopStep (moment : Moment) : List Bytes → WorkerPhase → Worker.Outcome → Prop where
  | flushed {worker : Worker} {session after : LiveSession} {queued : List Bytes}
      {effects : List Effect} (hqueued : after.state.outbound = session.state.outbound ++ queued)
      (hwrites : after.writes = session.writes) (hsilent : writtenIn effects = []) :
      LoopStep moment queued (.running session) (worker.flush moment after effects)
  | ended {worker : Worker} {session after : LiveSession} {outcome : Except Error SessionEnd}
      {effects : List Effect} (hsame : after.state.outbound = session.state.outbound)
      (hsilent : writtenIn effects = []) :
      LoopStep moment [] (.running session) (worker.endLoop after outcome effects)
  | besideLoop {worker : Worker} {session after : LiveSession}
      (hphase : worker.phase = .running after)
      (hsame : after.state.outbound = session.state.outbound)
      (hwrites : after.writes = session.writes) :
      LoopStep moment [] (.running session) (worker, [])
  | afterLoop {worker : Worker} {session after : LiveSession} {outcome : Except Error SessionEnd}
      (hphase : worker.phase = .closing after outcome)
      (hsame : after.state.outbound = session.state.outbound) :
      LoopStep moment [] (.closing session outcome) (worker, [])

namespace Worker

variable {engine : Engine} {worker : Worker} {moment : Moment} {session : LiveSession}
  {outcome : Outcome}

theorem loopStep_handle (engine : Engine) (worker : Worker) (moment : Moment)
    (session : LiveSession) (packet : Bytes) :
    LoopStep moment
      ((handlePacket engine.classify (Forwarder.resolve moment.path moment.now) packet
        session.state worker.cache worker.forwarder).session.outbound.drop
          session.state.outbound.length)
      (.running session) (handle engine worker moment session packet) := by
  have hqueued := outbound_handlePacket engine.classify moment.path moment.now packet session.state
    worker.cache worker.forwarder
  have hfails : ∀ error, (handlePacket engine.classify (Forwarder.resolve moment.path moment.now)
      packet session.state worker.cache worker.forwarder).result = .error error →
        (handlePacket engine.classify (Forwarder.resolve moment.path moment.now) packet
          session.state worker.cache worker.forwarder).session.outbound = session.state.outbound :=
    fun _ => outbound_of_handlePacket_error engine.classify moment.path moment.now packet
      session.state worker.cache worker.forwarder
  rw [handle]
  generalize handlePacket engine.classify (Forwarder.resolve moment.path moment.now) packet
    session.state worker.cache worker.forwarder = handled at hqueued hfails ⊢
  cases hresult : handled.result with
  | error error =>
    rw [hfails error hresult, List.drop_length]
    exact .ended (hfails error hresult) (writtenIn_map_counted _)
  | ok _ => exact .flushed hqueued rfl (writtenIn_map_counted _)

theorem loopStep_handleEvent {event : LoopEvent}
    (h : handleEvent engine worker moment session event = some outcome) :
    LoopStep moment (event.queued engine worker moment session) (.running session) outcome := by
  cases event with
  | answers read =>
    cases h
    exact .flushed rfl rfl rfl
  | pollFailed cause =>
    cases h
    exact .ended rfl rfl
  | completion =>
    rw [handleEvent] at h
    rw [LoopEvent.queued]
    cases hwaiting : session.state.completions.waiting with
    | nil =>
      rw [hwaiting] at h
      cases h
    | cons completion waiting =>
      rw [hwaiting] at h
      cases h
      refine .flushed ?_ rfl rfl
      rw [SessionRun.complete_eq]
  | packet octets =>
    simp only [handleEvent] at h
    rw [LoopEvent.queued]
    split at h
    · rename_i hempty
      cases h
      rw [if_pos hempty]
      exact .ended rfl rfl
    · rename_i hsome
      cases h
      rw [if_neg hsome]
      exact loopStep_handle engine worker moment session _
  | readFailed cause =>
    cases h
    exact .ended rfl rfl
  | idle =>
    simp only [handleEvent] at h
    split at h
    · cases h
      exact .ended rfl rfl
    · cases h
      exact .flushed (List.append_nil _).symm rfl rfl

theorem loopStep_request {number : Nat} {event : RequestEvent}
    (h : worker.request? number event = some outcome)
    (hphase : worker.phase = .running session ∨ ∃ result, worker.phase = .closing session result) :
    LoopStep moment [] worker.phase outcome := by
  rcases hphase with hphase | ⟨result, hphase⟩
  · rw [request?, hphase] at h
    obtain ⟨⟨forwarder, state⟩, hchange, hdone⟩ := Option.bind_eq_some_iff.1 h
    cases hdone
    rw [hphase]
    exact .besideLoop rfl (outbound_onHttps hchange) rfl
  · rw [request?, hphase] at h
    obtain ⟨⟨forwarder, state⟩, hchange, hdone⟩ := Option.bind_eq_some_iff.1 h
    cases hdone
    rw [hphase]
    exact .afterLoop rfl (outbound_onHttps hchange)

theorem loopStep_of_running {action : Action} {next : Worker} {shown : List Effect}
    (hphase : worker.phase = .running session)
    (hstep : worker.step? engine moment action = some (next, shown)) :
    LoopStep moment (worker.queuedBy engine moment action) (.running session) (next, shown) := by
  -- What a step can be rules out the actions that no session takes; the others are computed.
  have hone := step_core hstep
  rw [core, hphase] at hone
  generalize worker.notices = notices at hone
  generalize worker.stopRequested = stop at hone
  cases action with
  | notify notice =>
    cases hstep
    exact .besideLoop hphase rfl rfl
  | requestStop =>
    cases hstep
    exact .besideLoop hphase rfl rfl
  | takeStop =>
    rw [step?, takeStop?, hphase] at hstep
    split at hstep
    · cases hstep
      exact .ended rfl rfl
    · cases hstep
  | hear =>
    rw [step?, hear?, hphase] at hstep
    split at hstep
    · cases hstep
    · dsimp only [hearInSession] at hstep
      split at hstep
      · cases hstep
      · have houtcome := Option.some.inj hstep
        rw [← houtcome]
        split
        · exact .ended rfl rfl
        · exact .flushed (List.append_nil _).symm rfl rfl
  | event event =>
    rw [step?, event?, hphase] at hstep
    rw [queuedBy, hphase]
    dsimp only at hstep ⊢
    split at hstep
    · cases hstep
    · exact loopStep_handleEvent hstep
  | request number event =>
    rw [← hphase]
    exact loopStep_request hstep (.inl hphase)
  | _ => cases hone

theorem loopStep_of_closing {action : Action} {result : Except Error SessionEnd} {next : Worker}
    {shown : List Effect} (hphase : worker.phase = .closing session result)
    (hstep : worker.step? engine moment action = some (next, shown))
    (hdrive : action ≠ .monitorOver) :
    LoopStep moment (worker.queuedBy engine moment action) (.closing session result)
      (next, shown) := by
  have hone := step_core hstep
  rw [core, hphase] at hone
  generalize worker.notices = notices at hone
  generalize worker.stopRequested = stop at hone
  cases action with
  | notify notice =>
    cases hstep
    exact .afterLoop hphase rfl
  | requestStop =>
    cases hstep
    exact .afterLoop hphase rfl
  | takeStop =>
    rw [step?, takeStop?, hphase] at hstep
    split at hstep <;> cases hstep
  | request number event =>
    rw [← hphase]
    exact loopStep_request hstep (.inr ⟨result, hphase⟩)
  | monitorOver => exact absurd rfl hdrive
  | _ => cases hone

/-- How what was written in some moments compares to what was queued. -/
inductive Delivery (moments : List Moment) (queued written : List Bytes) : WorkerPhase → Prop where
  | upToDate {session : LiveSession} (hwritten : written = queued)
      (hnone : session.state.outbound = []) (hcount : session.writes = written.length) :
      Delivery moments queued written (.running session)
  | complete {session : LiveSession} {outcome : Except Error SessionEnd}
      (hwritten : written = queued) (hnone : session.state.outbound = []) :
      Delivery moments queued written (.closing session outcome)
  | failed {session : LiveSession} {moment : Moment} {cause : IoError} {lost : Bytes}
      (hmoment : moment ∈ moments) (hfails : moment.writer written.length = some cause)
      (hqueued : queued = written ++ lost :: session.state.outbound) :
      Delivery moments queued written (.closing session (.error (.network (.tunnelWrite cause))))

/-- A flush writes all that is queued, or fails at some packet. -/
theorem Delivery.of_flush {worker : Worker} {moment : Moment} {session : LiveSession}
    {effects : List Effect} {moments : List Moment} {queued written : List Bytes}
    (hmoment : moment ∈ moments) (hqueued : queued = written ++ session.state.outbound)
    (hcount : session.writes = written.length) (hsilent : writtenIn effects = []) :
    Delivery moments queued (written ++ writtenIn (worker.flush moment session effects).2)
      (worker.flush moment session effects).1.phase := by
  simp only [flush, SessionState.flush, Flushed.error?]
  rcases flushPackets_cases moment.writer session.writes session.state.outbound with
    hflushed | ⟨packets, lost, left, cause, houtbound, hcause, hflushed⟩
  · simp only [hflushed, Option.map_none, writtenIn_append, hsilent, List.nil_append,
      writtenIn_map_written]
    refine .upToDate hqueued.symm rfl ?_
    rw [hcount, List.length_append]
  · simp only [hflushed, Option.map_some, endLoop, writtenIn_append, hsilent, List.nil_append,
      writtenIn_map_written]
    have hlost : queued = (written ++ packets) ++ lost :: left := by
      rw [hqueued, houtbound, List.append_assoc]
    rw [hcount, ← List.length_append] at hcause
    exact .failed hmoment hcause hlost

theorem Delivery.step {moments : List Moment} {moment : Moment} {queued written later : List Bytes}
    {phase : WorkerPhase} {outcome : Outcome} (hbefore : Delivery moments queued written phase)
    (hstep : LoopStep moment later phase outcome) :
    Delivery (moments ++ [moment]) (queued ++ later) (written ++ writtenIn outcome.2)
      outcome.1.phase := by
  have hlast : moment ∈ moments ++ [moment] :=
    List.mem_append_right _ (List.mem_singleton_self _)
  cases hstep with
  | flushed hqueued hwrites hsilent =>
    cases hbefore with
    | upToDate hwritten hnone hcount =>
      refine .of_flush hlast ?_ (hwrites.trans hcount) hsilent
      rw [hqueued, hnone, hwritten, List.nil_append]
  | ended hsame hsilent =>
    cases hbefore with
    | upToDate hwritten hnone _ =>
      simp only [endLoop, hsilent, List.append_nil]
      exact .complete hwritten (hsame.trans hnone)
  | besideLoop hphase hsame hwrites =>
    cases hbefore with
    | upToDate hwritten hnone hcount =>
      simp only [hphase, writtenIn_nil, List.append_nil]
      exact .upToDate hwritten (hsame.trans hnone) (hwrites.trans hcount)
  | afterLoop hphase hsame =>
    simp only [hphase, writtenIn_nil, List.append_nil]
    cases hbefore with
    | complete hwritten hnone => exact .complete hwritten (hsame.trans hnone)
    | failed hmoment hfails hqueued =>
      rw [← hsame] at hqueued
      exact .failed (List.mem_append_left _ hmoment) hfails hqueued

theorem delivery_of_establish {engine : Engine} {worker begun : Worker} {moment : Moment}
    {effects : List Effect}
    (hbegun : worker.step? engine moment .establish = some (begun, effects))
    (hruns : begun.runs = true) : Delivery [] [] [] begun.phase := by
  rcases worker with ⟨phase, control, notices, stop, throttle, watchdog, cache, forwarder⟩
  cases phase with
  | establishing =>
    have houtcome := Option.some.inj hbegun
    simp only [establishSession] at houtcome
    cases hresult : (establish (ρ := Flow) moment.platform engine.settings).1 with
    | error error =>
      rw [hresult] at houtcome
      obtain ⟨phase, hphase, hafter⟩ := afterSession_cases
        ⟨.establishing, control, notices, stop, throttle, watchdog, cache, forwarder⟩ moment.now
        (.error error)
      obtain ⟨rfl, -⟩ := Prod.mk.inj houtcome
      obtain ⟨session, hsession⟩ := runs_iff.1 hruns
      have hsame := congrArg WorkerCore.phase hphase
      generalize (Worker.afterSession _ moment.now (.error error)).2 = shown at hafter
      cases hafter <;> cases hsession.symm.trans hsame
    | ok state =>
      rw [hresult] at houtcome
      obtain ⟨rfl, -⟩ := Prod.mk.inj houtcome
      exact .upToDate rfl (outbound_of_establish hresult) rfl
  | _ => cases hbegun

theorem delivery_of_run {engine : Engine} {begun last : Worker} {run : List (Moment × Action)}
    {shown : List Effect} (hbegun : Delivery [] [] [] begun.phase)
    (hrun : begun.run? engine run = some (last, shown))
    (hdrive : ∀ step ∈ run, step.2 ≠ .monitorOver) :
    Delivery (run.map Prod.fst) (begun.queuedIn engine run) (writtenIn shown) last.phase := by
  refine run_induction_on (fun run worker shown => (∀ step ∈ run, step.2 ≠ .monitorOver) →
    Delivery (run.map Prod.fst) (begun.queuedIn engine run) (writtenIn shown) worker.phase)
      (fun _ => hbegun) ?_ hrun hdrive
  intro run worker shown moment action after later hbefore hdelivery hone hdrive
  rw [List.forall_mem_append, List.forall_mem_singleton] at hdrive
  replace hdelivery := hdelivery hdrive.1
  have hloop : LoopStep moment (worker.queuedBy engine moment action) worker.phase
      (after, later) := by
    cases hphase : worker.phase with
    | running session => exact loopStep_of_running hphase hone
    | closing session outcome => exact loopStep_of_closing hphase hone hdrive.2
    | _ =>
      rw [hphase] at hdelivery
      cases hdelivery
  rw [queuedIn, alongRun_concat _ hbefore hone, List.map_append, writtenIn_append]
  exact hdelivery.step hloop

/-- What a session has written and has queued, from when it is established until it is gone. -/
structure DeliversInOrder (engine : Engine) (begun last : Worker) (run : List (Moment × Action))
    (shown : List Effect) : Prop where
  /-- The loop waits for the next event with nothing left to write. -/
  noneLeft : ∀ session, last.phase = .running session → session.state.outbound = []
  inOrder : writtenIn shown <+: begun.queuedIn engine run
  /-- All is written, but for a packet whose write fails and those behind it. -/
  complete : writtenIn shown = begun.queuedIn engine run ∨
    ∃ left lost cause, last.phase = .closing left (.error (.network (.tunnelWrite cause))) ∧
      begun.queuedIn engine run = writtenIn shown ++ lost :: left.state.outbound ∧
        ∃ step ∈ run, step.1.writer (writtenIn shown).length = some cause
  /-- Whatever comes next finds all written that was queued before. -/
  writtenBefore : ∀ before later middle shownBefore, run = before ++ later →
    begun.run? engine before = some (middle, shownBefore) → middle.runs = true →
      writtenIn shownBefore = begun.queuedIn engine before

theorem deliversInOrder {engine : Engine} {worker begun last : Worker} {moment : Moment}
    {effects shown : List Effect} {run : List (Moment × Action)}
    (hbegun : worker.step? engine moment .establish = some (begun, effects))
    (hruns : begun.runs = true) (hrun : begun.run? engine run = some (last, shown))
    (hdrive : ∀ step ∈ run, step.2 ≠ .monitorOver) :
    begun.DeliversInOrder engine last run shown := by
  have hstart := delivery_of_establish hbegun hruns
  have hdelivery := delivery_of_run hstart hrun hdrive
  have hcomplete : writtenIn shown = begun.queuedIn engine run ∨
      ∃ left lost cause, last.phase = .closing left (.error (.network (.tunnelWrite cause))) ∧
        begun.queuedIn engine run = writtenIn shown ++ lost :: left.state.outbound ∧
          ∃ step ∈ run, step.1.writer (writtenIn shown).length = some cause := by
    generalize last.phase = phase at hdelivery ⊢
    cases hdelivery with
    | upToDate hwritten _ _ => exact .inl hwritten
    | complete hwritten _ => exact .inl hwritten
    | @failed left failing cause lost hmoment hfails hqueued =>
      obtain ⟨step, hstep, rfl⟩ := List.mem_map.1 hmoment
      exact .inr ⟨left, lost, cause, rfl, hqueued, step, hstep, hfails⟩
  refine ⟨?_, ?_, hcomplete, ?_⟩
  · intro session hphase
    rw [hphase] at hdelivery
    cases hdelivery with
    | upToDate _ hnone _ => exact hnone
  · rcases hcomplete with hwritten | ⟨left, lost, cause, -, hqueued, -⟩
    · rw [hwritten]
    · exact ⟨_, hqueued.symm⟩
  · rintro before later middle shownBefore rfl hbefore hmiddle
    have hdriveBefore : ∀ step ∈ before, step.2 ≠ .monitorOver :=
      fun step hstep => hdrive step (List.mem_append_left _ hstep)
    -- The account of the shorter run is right too, and a running session makes it exact.
    have hearlier := delivery_of_run hstart hbefore hdriveBefore
    obtain ⟨session, hphase⟩ := runs_iff.1 hmiddle
    rw [hphase] at hearlier
    cases hearlier with
    | upToDate hwritten _ _ => exact hwritten

theorem step?_of_blocked {engine : Engine} {worker : Worker} {moment : Moment}
    {session : LiveSession} {packet payload : Bytes} {flow : Flow} {server : Endpoint}
    {message : Dns.Message} {host : String} (hphase : worker.phase = .running session)
    (hstop : worker.stopRequested = false) (hnotices : worker.notices = [])
    (hlength : packet.length ≤ maxPacketSize)
    (hask : AsksAbout session.state.servers packet flow server payload message host)
    (hclass : (engine.classify host worker.cache).1 = .blocked) :
    worker.step? engine moment (.event (.packet packet)) =
      some (Worker.flush
        { worker with
          watchdog := worker.watchdog.packetRead moment.now
          cache := (engine.classify host worker.cache).2 }
        moment { session with state := answerLocally flow message.blockedResponse session.state }
        [.counted (.queries .blocked)]) := by
  have hsome : packet.isEmpty = false := by
    cases packet with
    | nil => cases hask.datagram
    | cons first rest => rfl
  have hhandled := (hask.answeredAsBlocked (Forwarder.resolve moment.path moment.now)
    worker.forwarder hclass).handled
  simp only [step?, event?, hphase, hstop, hnotices, handleEvent, List.take_of_length_le hlength,
    hsome, handle, hhandled]
  rfl

/-- An engine that blocks the names below `example.com`. -/
def blocksExample : Engine := .ofSettings { rules := ⟨["*.example.com"], [], []⟩ }

def oneServerSession (writes : Nat) : LiveSession :=
  ⟨.new { oneServer with last := some (.v4 (Vector.replicate 4 9), mixedCaseFlow.destination) } 256,
    writes, 0⟩

def oneServerMoment : Moment :=
  { Moment.obliging [.wifi] 0 with
    platform := { Platform.obliging [.wifi] with
      networks := [⟨true, [.wifi], [.v4 (Vector.replicate 4 9)]⟩] } }

def establishing : Worker :=
  { Worker.withDefaults oneServerMoment.platform.networks with phase := .establishing }

def onePacketMoment : Moment :=
  { Moment.obliging [.wifi] 0 with
    writer := fun count => if count = 0 then none else some (.other "failure") }

/-- A query for a blocked name comes twice. -/
def asksTwice : List (Moment × Action) :=
  onePacketMoment.takes [.event (.packet mixedCasePacket), .event (.packet mixedCasePacket)]

def afterLookup (worker : Worker) (phase : WorkerPhase) : Worker :=
  { worker with
    phase := phase
    cache := (blocksExample.classify "ab.example.com" worker.cache).2 }

def established : Worker :=
  (establishSession blocksExample establishing oneServerMoment).1

def askedOnce : Worker :=
  established.afterLookup (.running (oneServerSession 1))

def askedTwice : Worker :=
  askedOnce.afterLookup
    (.closing (oneServerSession 1) (.error (.network (.tunnelWrite (.other "failure")))))

theorem deliversInOrder_asksTwice : ∃ effects shown, ∃ answer left,
    establishing.step? blocksExample oneServerMoment .establish = some (established, effects) ∧
      established.runs = true ∧
      established.run? blocksExample asksTwice = some (askedTwice, shown) ∧
      (∀ step ∈ asksTwice, step.2 ≠ .monitorOver) ∧ writtenIn shown = [answer] ∧
      askedTwice.phase = .closing left (.error (.network (.tunnelWrite (.other "failure")))) ∧
      established.DeliversInOrder blocksExample askedTwice asksTwice shown := by
  obtain ⟨answer, hanswer⟩ := mixedCase_blockedAnswer
  have hask (writes : Nat) : AsksAbout (oneServerSession writes).state.servers mixedCasePacket
      mixedCaseFlow ⟨.v4 (Vector.replicate 4 9), 53⟩ mixedCasePayload mixedCaseMessage
      "ab.example.com" :=
    { mixedCase_asksAbout with mapped := by cbv }
  have hclass {cache : CachedClassifier} (uses : List CacheUse)
      (hcache : cache = blocksExample.cacheAfter ({} : Settings).cacheCapacity uses) :
      (blocksExample.classify "ab.example.com" cache).1 = .blocked := by
    rw [hcache, Engine.classify_cacheAfter, blocksExample, Engine.ofSettings,
      HostRules.classify_eq_decide]
    decide
  have hphase : established.phase = .running (oneServerSession 0) := rfl
  have hfirst : established.step? blocksExample onePacketMoment
      (.event (.packet mixedCasePacket)) =
        some (askedOnce, [.counted (.queries .blocked), .written answer]) := by
    rw [step?_of_blocked hphase rfl rfl (by decide) (hask 0) (hclass [] rfl), hanswer]
    rfl
  have hsecond : askedOnce.step? blocksExample onePacketMoment
      (.event (.packet mixedCasePacket)) = some (askedTwice, [.counted (.queries .blocked)]) := by
    have hblocked := hclass [.lookup "ab.example.com"] (rfl : askedOnce.cache = _)
    rw [step?_of_blocked rfl rfl rfl (by decide) (hask 1) hblocked, hanswer]
    rfl
  have hrun : established.run? blocksExample asksTwice = some (askedTwice,
      [.counted (.queries .blocked), .written answer, .counted (.queries .blocked)]) := by
    simp only [asksTwice, Moment.takes, List.map_cons, List.map_nil, run?, hfirst,
      Option.bind_eq_bind, Option.bind_some, hsecond]
    rfl
  have hdrive : ∀ step ∈ asksTwice, step.2 ≠ .monitorOver := by simp [asksTwice, Moment.takes]
  have hbegun : establishing.step? blocksExample oneServerMoment .establish =
      some (established, (establishSession blocksExample establishing oneServerMoment).2) := rfl
  exact ⟨_, _, answer, _, hbegun, rfl, hrun, hdrive, rfl, rfl,
    deliversInOrder hbegun rfl hrun hdrive⟩

end Worker

end Sinkhole
