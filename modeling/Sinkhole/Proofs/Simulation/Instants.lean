import Sinkhole.Proofs.Lifecycle.Backoff
import Sinkhole.Proofs.Lifecycle.Idling
import Sinkhole.Proofs.Session.Run
import Sinkhole.Simulation.EngineRun

/-! # One instant of a worker

A worker cannot go round in one instant: a second attempt has to wait for the backoff, and an idle
loop for the poll timeout. So every action that it takes brings it nearer to its rest, as `ahead`
counts what can still come at that instant.
-/
namespace Sinkhole

open EngineRun

namespace Throttle

variable {throttle : Throttle} {now : Nat}

theorem wait_snd (throttle : Throttle) (now : Nat) :
    (throttle.wait now).2 = (throttle.nextDelay now).2 := by
  rw [wait]
  split <;> rename_i hdelay <;> rw [hdelay]

theorem backoff_nextDelay_pos (h : 0 < throttle.backoff) :
    0 < (throttle.nextDelay now).2.backoff := by
  have hmin : 0 < minBackoff := by decide
  have hmax : 0 < maxBackoff := by decide
  rw [nextDelay]
  split
  · exact h
  · dsimp only
    split
    · exact lt_min (Nat.mul_pos h Nat.two_pos) hmax
    · dsimp only
      split
      · exact hmin
      · exact lt_max_of_lt_right hmin

theorem lt_wait (h : 0 < throttle.backoff)
    (hlast : throttle.lastAttempt.any (now ≤ ·) = true) : now < (throttle.wait now).1 := by
  obtain ⟨last, hattempt, hle⟩ := (Option.any_eq_true _ _).1 hlast
  have hnone : now - last = 0 := Nat.sub_eq_zero_of_le (of_decide_eq_true hle)
  have hmax : 0 < maxBackoff := by decide
  simp only [wait, nextDelay, hattempt, hnone, if_pos h, Nat.sub_zero]
  exact (Nat.lt_add_of_pos_right (lt_min (Nat.mul_pos h Nat.two_pos) hmax)).trans_le
    (le_timerFires _)

end Throttle

namespace Worker

variable {engine : Engine} {worker next : Worker} {moment : Moment} {shown : List Effect}
  {now : Nat} {session : LiveSession}

/-- A worker whose waits are not empty. -/
structure Patient (worker : Worker) : Prop where
  backoff : 0 < worker.throttle.backoff
  poll : 0 < worker.watchdog.pollTimeout

def ahead (worker : Worker) (now : Nat) : Nat :=
  attemptAhead worker now + stepsAhead worker now + worker.notices.length

theorem lt_idleDeadline (h : worker.Patient) :
    ∀ deadline ∈ idleDeadline? worker session, session.idleSince < deadline := by
  intro deadline hdeadline
  obtain ⟨limit, hlimit, rfl⟩ := Option.map_eq_some_iff.1 hdeadline
  have hpositive : 0 < limit := by
    rw [Watchdog.idleLimit] at hlimit
    split at hlimit
    · cases hlimit
    · split at hlimit
      · cases hlimit
        decide
      · cases hlimit
        exact h.poll
  exact (Nat.lt_add_of_pos_right hpositive).trans_le (le_timerFires _)

/-- The worker keeps its waits, and no more than this is ahead of it. -/
structure Rests (worker : Worker) (now bound : Nat) : Prop where
  patient : worker.Patient
  ahead_le : worker.ahead now ≤ bound

theorem Rests.mono {bound larger : Nat} (h : worker.Rests now bound) (hle : bound ≤ larger) :
    worker.Rests now larger :=
  ⟨h.patient, h.ahead_le.trans hle⟩

theorem rests_endLoop (h : worker.Patient) (now : Nat) (session : LiveSession)
    (outcome : Except Error SessionEnd) (effects : List Effect) :
    (worker.endLoop session outcome effects).1.Rests now
      (attemptAhead worker now + 3 + worker.notices.length) :=
  ⟨⟨h.backoff, h.poll⟩, le_rfl⟩

/-- A loop that begins to wait has its whole poll timeout before it. -/
theorem rests_running {count : Nat} (h : worker.Patient) (hphase : worker.phase = .running session)
    (hsince : session.idleSince = now)
    (hcount : session.state.completions.waiting.length = count) :
    worker.Rests now (attemptAhead worker now + (4 + count) + worker.notices.length) := by
  refine ⟨h, ?_⟩
  simp only [ahead, stepsAhead, hphase, hcount]
  rw [if_neg]
  · exact le_rfl
  · rw [Option.any_eq_true]
    rintro ⟨deadline, hdeadline, hdue⟩
    have hlater := lt_idleDeadline h deadline hdeadline
    have hle : deadline ≤ now := of_decide_eq_true hdue
    omega

theorem rests_flush (h : worker.Patient) (moment : Moment) (session : LiveSession)
    (effects : List Effect) :
    (worker.flush moment session effects).1.Rests moment.now
      (attemptAhead worker moment.now + (4 + session.state.completions.waiting.length) +
        worker.notices.length) := by
  simp only [flush]
  split
  · exact (rests_endLoop h _ _ _ _).mono (by omega)
  · exact rests_running ⟨h.backoff, h.poll⟩ rfl rfl rfl

/-- Of two attempts at one instant the second one has to wait. -/
theorem rests_connect (h : worker.Patient) (now : Nat) (effects : List Effect) :
    (worker.connect now effects).1.Rests now
      (attemptAhead worker now + 1 + worker.notices.length) := by
  have hthrottle : (worker.connect now effects).1.throttle = (worker.throttle.nextDelay now).2 :=
    Throttle.wait_snd worker.throttle now
  have hnone : attemptAhead (worker.connect now effects).1 now = 0 := by
    rw [attemptAhead, hthrottle, Throttle.lastAttempt_nextDelay]
    exact if_pos (decide_eq_true le_rfl)
  refine ⟨⟨hthrottle ▸ Throttle.backoff_nextDelay_pos h.backoff, h.poll⟩, ?_⟩
  rw [ahead, hnone, Nat.zero_add]
  refine Nat.add_le_add_right ?_ _
  simp only [stepsAhead, connect, attemptAhead]
  by_cases hlast : worker.throttle.lastAttempt.any (now ≤ ·) = true
  · rw [if_pos hlast, if_neg (Nat.not_le.2 (Throttle.lt_wait h.backoff hlast))]
  · rw [if_neg hlast]
    split <;> omega

theorem rests_finish (h : worker.Patient) (now : Nat) (effects : List Effect) :
    (worker.finish effects).1.Rests now (attemptAhead worker now + worker.notices.length) :=
  ⟨⟨h.backoff, h.poll⟩, le_rfl⟩

theorem rests_afterSession (h : worker.Patient) (now : Nat) (outcome : Except Error SessionEnd) :
    (worker.afterSession now outcome).1.Rests now
      (attemptAhead worker now + 2 + worker.notices.length) := by
  have hconnect (effects : List Effect) : (worker.connect now effects).1.Rests now
      (attemptAhead worker now + 2 + worker.notices.length) :=
    (rests_connect h now effects).mono (by omega)
  have hfinish (effects : List Effect) : (worker.finish effects).1.Rests now
      (attemptAhead worker now + 2 + worker.notices.length) :=
    (rests_finish h now effects).mono (by omega)
  rcases outcome with error | reason
  · rw [afterSession]
    split
    · exact hfinish _
    · split
      · exact hconnect _
      · exact hfinish _
  · cases reason with
    | stopped => exact hfinish _
    | reconnect => exact hconnect _
    | networkLost => exact ⟨⟨h.backoff, h.poll⟩, le_rfl⟩

/-- The action has brought the worker nearer to its rest, by more than the gain. -/
structure Advances (worker next : Worker) (now gain : Nat) : Prop where
  patient : next.Patient
  ahead_lt : next.ahead now + gain < worker.ahead now

theorem Rests.advances {bound gain : Nat} (h : next.Rests now bound)
    (hless : bound + gain < worker.ahead now) : worker.Advances next now gain :=
  ⟨h.patient, (Nat.add_le_add_right h.ahead_le gain).trans_lt hless⟩

theorem le_ahead_running (hphase : worker.phase = .running session) (now : Nat) :
    attemptAhead worker now + (4 + session.state.completions.waiting.length) +
      worker.notices.length ≤ worker.ahead now := by
  simp only [ahead, stepsAhead, hphase]
  omega

theorem stepsAhead_pos (h : worker.phase ≠ .finished) (now : Nat) : 0 < stepsAhead worker now := by
  rw [stepsAhead]
  cases hphase : worker.phase with
  | backingOff deadline =>
    dsimp only
    split <;> omega
  | running session =>
    dsimp only
    omega
  | finished => exact absurd hphase h
  | _ => exact Nat.zero_lt_succ _

theorem ahead_notified (worker : Worker) (notice : Notice) (now : Nat) :
    ahead { worker with notices := worker.notices ++ [notice] } now = worker.ahead now + 1 := by
  have hlength : (worker.notices ++ [notice]).length = worker.notices.length + 1 :=
    List.length_append
  exact congrArg (attemptAhead worker now + stepsAhead worker now + ·) hlength

theorem advances_begin (hpatient : worker.Patient) (h : worker.begin? now = some (next, shown)) :
    worker.Advances next now 0 := by
  rw [begin?] at h
  split at h
  · rename_i hphase
    obtain rfl : _ = next := congrArg Prod.fst (Option.some.inj h)
    refine (rests_connect hpatient now _).advances ?_
    simp only [ahead, stepsAhead, hphase]
    omega
  · cases h

theorem advances_takeStop (hpatient : worker.Patient) (now : Nat)
    (h : worker.takeStop? = some (next, shown)) : worker.Advances next now 0 := by
  have hfinishes (hphase : worker.phase ≠ .finished) (hnext : (worker.finish []).1 = next) :
      worker.Advances next now 0 := by
    have hpos := stepsAhead_pos hphase now
    refine hnext ▸ (rests_finish hpatient now []).advances ?_
    rw [ahead]
    omega
  obtain ⟨-, htaken⟩ := Option.ite_none_right_eq_some.1 h
  split at htaken
  · rename_i hphase
    exact hfinishes (hphase ▸ nofun) (congrArg Prod.fst (Option.some.inj htaken))
  · rename_i hphase
    exact hfinishes (hphase ▸ nofun) (congrArg Prod.fst (Option.some.inj htaken))
  · rename_i hphase
    exact hfinishes (hphase ▸ nofun) (congrArg Prod.fst (Option.some.inj htaken))
  · rename_i session hphase
    obtain rfl : _ = next := congrArg Prod.fst (Option.some.inj htaken)
    have hle := le_ahead_running hphase now
    exact (rests_endLoop hpatient now session _ _).advances (by omega)
  · cases htaken

theorem advances_hear (hpatient : worker.Patient)
    (h : worker.hear? moment = some (next, shown)) : worker.Advances next moment.now 0 := by
  rw [hear?] at h
  split at h
  · cases h
  rename_i notice notices hnotices
  let heard : Worker := { worker with notices := notices, control := worker.control.hear notice }
  have hkept : heard.Patient := ⟨hpatient.backoff, hpatient.poll⟩
  have hattempt : attemptAhead heard moment.now = attemptAhead worker moment.now := rfl
  have hless : heard.notices.length < worker.notices.length := by
    rw [hnotices]
    exact Nat.lt_succ_self _
  dsimp only at h
  split at h
  · rename_i session hphase
    obtain ⟨-, hheard⟩ := Option.ite_none_left_eq_some.1 h
    obtain rfl : _ = next := congrArg Prod.fst (Option.some.inj hheard)
    have hle := le_ahead_running hphase moment.now
    rw [hearInSession]
    split
    · exact (rests_endLoop hkept moment.now session _ _).advances (by omega)
    · exact (rests_flush hkept moment session []).advances (by omega)
  · rename_i hphase
    obtain rfl : _ = next := congrArg Prod.fst (Option.some.inj h)
    have hahead : worker.ahead moment.now =
        attemptAhead worker moment.now + 2 + worker.notices.length := by
      simp only [ahead, stepsAhead, hphase]
    have hwaits : heard.Rests moment.now
        (attemptAhead heard moment.now + 2 + heard.notices.length) :=
      ⟨hkept, by simp only [ahead, stepsAhead, heard, hphase, le_refl]⟩
    cases notice with
    | networkAvailable network => exact (rests_connect hkept moment.now _).advances (by omega)
    | networkLost network => exact hwaits.advances (by omega)
    | interfaceDown generation => exact hwaits.advances (by omega)
  · cases h

theorem advances_backoffOver (hpatient : worker.Patient)
    (h : worker.backoffOver? engine now = some (next, shown)) : worker.Advances next now 0 := by
  rw [backoffOver?] at h
  split at h
  · rename_i deadline hphase
    obtain ⟨hdue, hover⟩ := Option.ite_none_right_eq_some.1 h
    obtain rfl : _ = next := congrArg Prod.fst (Option.some.inj hover)
    have hpoll : 0 < pollTimeoutStart := by decide
    refine ⟨⟨hpatient.backoff, ?_⟩, ?_⟩
    · simp only [Watchdog.raisePenalty]
      split <;> exact hpoll
    · simp only [ahead, stepsAhead, attemptAhead, hphase, if_pos hdue]
      omega
  · cases h

theorem advances_penaltyOver (hpatient : worker.Patient)
    (h : worker.penaltyOver? now = some (next, shown)) : worker.Advances next now 0 := by
  rw [penaltyOver?] at h
  split at h
  · rename_i deadline hphase
    obtain ⟨-, hover⟩ := Option.ite_none_right_eq_some.1 h
    obtain rfl : _ = next := congrArg Prod.fst (Option.some.inj hover)
    refine ⟨⟨hpatient.backoff, hpatient.poll⟩, ?_⟩
    simp only [ahead, stepsAhead, attemptAhead, hphase]
    omega
  · cases h

theorem waiting_of_establish {ρ : Type} {platform : Platform} {settings : Settings}
    {state : SessionState ρ} (h : (establish (ρ := ρ) platform settings).1 = .ok state) :
    state.completions.waiting = [] := by
  rw [establish] at h
  split at h
  · cases h
  · dsimp only at h
    split at h
    · cases h
    · cases h
      rfl

/-- A new session leaves room for what its monitor does at once. -/
theorem advances_establish (hpatient : worker.Patient)
    (h : worker.establish? engine moment = some (next, shown)) :
    worker.Advances next moment.now 2 := by
  rw [establish?] at h
  split at h
  · rename_i hphase
    have hahead : worker.ahead moment.now =
        attemptAhead worker moment.now + 7 + worker.notices.length := by
      simp only [ahead, stepsAhead, hphase]
    simp only [establishSession, Option.some.injEq] at h
    split at h
    · obtain rfl : _ = next := congrArg Prod.fst h
      exact (rests_afterSession hpatient moment.now _).advances (by omega)
    · rename_i state hstate
      obtain rfl : _ = next := congrArg Prod.fst h
      have hnone : state.completions.waiting.length = 0 :=
        congrArg List.length (waiting_of_establish hstate)
      refine Rests.advances (rests_running ⟨hpatient.backoff, hpatient.poll⟩ rfl rfl hnone) ?_
      rw [hahead]
      dsimp only [attemptAhead]
      omega
  · cases h

theorem advances_monitorOver (hpatient : worker.Patient)
    (h : worker.monitorOver? now = some (next, shown)) : worker.Advances next now 0 := by
  rw [monitorOver?] at h
  split at h
  · rename_i session outcome hphase
    obtain rfl : _ = next := congrArg Prod.fst (Option.some.inj h)
    let gone : Worker :=
      { worker with forwarder := worker.forwarder.sessionEnded session.state }
    have hattempt : attemptAhead gone now = attemptAhead worker now := rfl
    have hnotices : gone.notices.length = worker.notices.length := rfl
    have hahead : worker.ahead now = attemptAhead worker now + 3 + worker.notices.length := by
      simp only [ahead, stepsAhead, hphase]
    have hkept : gone.Patient := ⟨hpatient.backoff, hpatient.poll⟩
    exact (rests_afterSession hkept now outcome).advances (by omega)
  · cases h

theorem phase_ne_closing_of_establishing {action : Action} (hphase : worker.phase = .establishing)
    (h : worker.step? engine moment action = some (next, shown)) (session : LiveSession)
    (outcome : Except Error SessionEnd) : next.phase ≠ .closing session outcome := by
  have hstep := step_core h
  have hbefore : worker.core.phase = .establishing := hphase
  show next.core.phase ≠ .closing session outcome
  generalize worker.core = core at hstep hbefore
  generalize next.core = after at hstep ⊢
  cases hstep with
  | notified => exact hbefore ▸ nofun
  | stopRequested => exact hbefore ▸ nofun
  | established => exact nofun
  | notEstablished _ hafter => cases hafter <;> exact nofun
  | stoppedIdle hidle => exact nofun
  | _ => cases hbefore

theorem completions_complete {ρ : Type} [Reply ρ] (state : SessionState ρ)
    (completion : Completion ρ) : (state.complete completion).completions = state.completions := by
  rw [SessionState.complete]
  split <;> rfl

theorem completions_handlePacket {κ : Type} (classify : Classifier κ) (path : UdpPath)
    (now : Nat) (packet : Bytes) (state : SessionState Flow) (classifier : κ)
    (forwarder : Forwarder) :
    (handlePacket classify (Forwarder.resolve path now) packet state classifier
      forwarder).session.completions = state.completions := by
  have hcases := SessionRun.handlePacket_packetCase classify path now packet state classifier
    forwarder
  generalize (handlePacket classify (Forwarder.resolve path now) packet state classifier
    forwarder).session = after at hcases ⊢
  cases hcases <;> rfl

theorem rests_handle (hpatient : worker.Patient) (engine : Engine) (moment : Moment)
    (session : LiveSession) (packet : Bytes) :
    (handle engine worker moment session packet).1.Rests moment.now
      (attemptAhead worker moment.now + (4 + session.state.completions.waiting.length) +
        worker.notices.length) := by
  have hsame := completions_handlePacket engine.classify moment.path moment.now packet
    session.state worker.cache worker.forwarder
  simp only [handle]
  generalize handlePacket engine.classify (Forwarder.resolve moment.path moment.now) packet
    session.state worker.cache worker.forwarder = handled at hsame ⊢
  let read : Worker := { worker with
    watchdog := worker.watchdog.packetRead moment.now
    cache := handled.classifier
    forwarder := handled.resolver }
  have hkept : read.Patient := by
    refine ⟨hpatient.backoff, ?_⟩
    dsimp only [read, Watchdog.packetRead]
    split <;> exact hpatient.poll
  rw [← hsame]
  split
  · exact (rests_endLoop hkept moment.now _ _ _).mono (by dsimp only [attemptAhead, read]; omega)
  · exact rests_flush hkept moment _ _

theorem patient_idleTimeout (hpatient : worker.Patient) (now : Nat)
    (send : Endpoint → Option IoError) :
    Patient { worker with watchdog := (worker.watchdog.idleTimeout now send).watchdog } := by
  have hstart : 0 < pollTimeoutStart := by decide
  have hgrown : 0 < min (worker.watchdog.pollTimeout * pollTimeoutGrowth) pollTimeoutEnd :=
    lt_min (Nat.mul_pos hpatient.poll (by decide)) (by decide)
  refine ⟨hpatient.backoff, ?_⟩
  dsimp only [Watchdog.idleTimeout, Watchdog.timeout]
  split
  · exact hpatient.poll
  · exact hpatient.poll
  · split
    · exact hstart
    · have hpoll : 0 < if worker.watchdog.pollTimeout < pollTimeoutEnd then
          min (worker.watchdog.pollTimeout * pollTimeoutGrowth) pollTimeoutEnd
          else worker.watchdog.pollTimeout := by
        split
        · exact hgrown
        · exact hpatient.poll
      split <;> exact hpoll

theorem advances_completion (hpatient : worker.Patient) (hphase : worker.phase = .running session)
    (h : handleEvent engine worker moment session .completion = some (next, shown)) :
    worker.Advances next moment.now 0 := by
  have hle := le_ahead_running hphase moment.now
  rw [handleEvent] at h
  split at h
  · cases h
  · rename_i completion waiting hwaiting
    obtain rfl : _ = next := congrArg Prod.fst (Option.some.inj h)
    refine (rests_flush hpatient moment _ _).advances ?_
    rw [hwaiting, List.length_cons] at hle
    dsimp only
    rw [completions_complete]
    dsimp only
    omega

theorem advances_readFailed {cause : IoError} (hpatient : worker.Patient)
    (hphase : worker.phase = .running session)
    (h : handleEvent engine worker moment session (.readFailed cause) = some (next, shown)) :
    worker.Advances next moment.now 0 := by
  have hle := le_ahead_running hphase moment.now
  obtain rfl : _ = next := congrArg Prod.fst (Option.some.inj h)
  exact (rests_endLoop hpatient moment.now session _ _).advances (by omega)

theorem advances_idle (hpatient : worker.Patient) (hphase : worker.phase = .running session)
    (hdue : (idleDeadline? worker session).any (· ≤ moment.now) = true)
    (h : handleEvent engine worker moment session .idle = some (next, shown)) :
    worker.Advances next moment.now 0 := by
  have hahead : worker.ahead moment.now = attemptAhead worker moment.now +
      (4 + session.state.completions.waiting.length + 1) + worker.notices.length := by
    simp only [ahead, stepsAhead, hphase, if_pos hdue]
  have hkept := patient_idleTimeout hpatient moment.now (sendProbe moment.path)
  simp only [handleEvent] at h
  split at h
  · obtain rfl : _ = next := congrArg Prod.fst (Option.some.inj h)
    refine (rests_endLoop hkept moment.now session _ _).advances ?_
    dsimp only [attemptAhead] at hahead ⊢
    omega
  · obtain rfl : _ = next := congrArg Prod.fst (Option.some.inj h)
    refine (rests_flush hkept moment session []).advances ?_
    dsimp only [attemptAhead] at hahead ⊢
    omega

/-- A packet is one less to be read, and the end of the tunnel ends the loop. -/
theorem advances_packet {octets : Bytes} (hpatient : worker.Patient)
    (hphase : worker.phase = .running session)
    (h : handleEvent engine worker moment session (.packet octets) = some (next, shown)) :
    next.Rests moment.now (worker.ahead moment.now) ∧
      (octets = [] → worker.Advances next moment.now 0) := by
  have hle := le_ahead_running hphase moment.now
  have hends (effects : List Effect) (error : Error) : worker.Advances
      (worker.endLoop session (.error error) effects).1 moment.now 0 :=
    (rests_endLoop hpatient moment.now session _ _).advances (by omega)
  simp only [handleEvent] at h
  split at h
  · obtain rfl : _ = next := congrArg Prod.fst (Option.some.inj h)
    exact ⟨⟨(hends _ _).patient, (hends _ _).ahead_lt.le⟩, fun _ => hends _ _⟩
  · rename_i hsome
    obtain rfl : _ = next := congrArg Prod.fst (Option.some.inj h)
    refine ⟨(rests_handle hpatient engine moment session _).mono hle, ?_⟩
    rintro rfl
    exact absurd rfl hsome

end Worker

end Sinkhole
