import Sinkhole.Proofs.Lifecycle.Attempts

/-! # Attempts without a network

A worker learns that the last network was lost when it hears the notice, and it hears notices only
in a session and while it waits for a network. Whether it keeps from attempting sessions until a
network returns depends on its phase and on what the notices that it has not heard yet lead to.
-/
namespace Sinkhole

/-- Whether a notice comes from the host; others come from the monitor of a session. -/
def Notice.isHosts : Notice → Bool
  | .networkAvailable _ | .networkLost _ => true
  | .interfaceDown _ => false

def Action.notice? : Action → Option Notice
  | .notify notice => some notice
  | _ => none

theorem filterMap_notice?_singleton (action : Action) :
    [action].filterMap Action.notice? = action.notice?.toList := by
  cases action <;> rfl

/-- Whether an action is something else than the host's word that a network is available. -/
def Action.ReturnsNone (action : Action) : Prop :=
  ∀ network, action ≠ .notify (.networkAvailable network)

/-- No network returns among the notices. -/
def NoneReturns (notices : List Notice) : Prop :=
  ∀ network, .networkAvailable network ∉ notices

/-- The last that the host told is a loss, and it left no network. -/
def EndsWithLoss (networks : NetworkSet) (notices : List Notice) : Prop :=
  ∃ told lost, notices.filter Notice.isHosts = told ++ [.networkLost lost] ∧
    ((told.foldl Control.replay networks).erase lost).isEmpty = true

section EndsWithLoss

variable {networks : NetworkSet} {notices : List Notice}

theorem foldl_replay_filter :
    (notices.filter Notice.isHosts).foldl Control.replay networks =
      notices.foldl Control.replay networks := by
  rw [List.foldl_filter]
  congr 1
  funext available notice
  cases notice <;> rfl

theorem endsWithLoss_append_iff {later : List Notice}
    (hlater : ∀ notice ∈ later, notice.isHosts = false) :
    EndsWithLoss networks (notices ++ later) ↔ EndsWithLoss networks notices := by
  have hnone : later.filter Notice.isHosts = [] :=
    List.filter_eq_nil_iff.2 fun notice hnotice => Bool.eq_false_iff.1 (hlater notice hnotice)
  rw [EndsWithLoss, List.filter_append, hnone, List.append_nil, EndsWithLoss]

theorem not_endsWithLoss_concat_available {network : NetworkClass} :
    ¬ EndsWithLoss networks (notices ++ [.networkAvailable network]) := by
  rintro ⟨told, lost, htold, -⟩
  rw [List.filter_append] at htold
  cases (List.append_inj' htold rfl).2

theorem endsWithLoss_concat_lost {lost : NetworkClass} :
    EndsWithLoss networks (notices ++ [.networkLost lost]) ↔
      ((notices.foldl Control.replay networks).erase lost).isEmpty = true := by
  rw [← foldl_replay_filter]
  constructor
  · rintro ⟨told, other, htold, hempty⟩
    rw [List.filter_append] at htold
    obtain ⟨rfl, hlast⟩ := List.append_inj' htold rfl
    cases hlast
    exact hempty
  · intro hempty
    exact ⟨_, lost, List.filter_append _ _, hempty⟩

end EndsWithLoss

/-- A session that hears the notices ends for want of a network, and none returns after that. -/
def Control.EndsOffline (control : Control) : List Notice → Prop
  | [] => False
  | notice :: notices =>
    match control.sessionEnd? notice with
    | some .networkLost => NoneReturns notices
    | some .reconnect | some .stopped => False
    | none => (control.hear notice).EndsOffline notices

theorem noneReturns_cons {notice : Notice} {notices : List Notice}
    (h : NoneReturns (notice :: notices)) : NoneReturns notices :=
  fun network hmem => h network (List.mem_cons_of_mem _ hmem)

theorem NoneReturns.concat {notices : List Notice} (h : NoneReturns notices) {notice : Notice}
    (hnotice : ∀ network, notice ≠ .networkAvailable network) :
    NoneReturns (notices ++ [notice]) := by
  intro network hmem
  rcases List.mem_append.1 hmem with hbefore | hlast
  · exact h network hbefore
  · exact hnotice network (List.mem_singleton.1 hlast).symm

theorem exists_return_of_not_noneReturns {notices : List Notice} (h : ¬ NoneReturns notices) :
    ∃ network, .networkAvailable network ∈ notices := by
  simpa only [NoneReturns, not_forall, not_not] using h

theorem Control.EndsOffline.concat {control : Control} {notices : List Notice}
    (h : control.EndsOffline notices) {notice : Notice}
    (hnotice : ∀ network, notice ≠ .networkAvailable network) :
    control.EndsOffline (notices ++ [notice]) := by
  induction notices generalizing control with
  | nil => exact h.elim
  | cons first notices ih =>
    rw [List.cons_append, EndsOffline]
    rw [EndsOffline] at h
    cases hend : control.sessionEnd? first with
    | none =>
      simp only [hend] at h
      exact ih h
    | some reason =>
      simp only [hend] at h
      cases reason with
      | networkLost => exact NoneReturns.concat h hnotice
      | reconnect => exact h
      | stopped => exact h

namespace WorkerCore

variable {core after : WorkerCore} {action : Action} {phase : WorkerPhase} {stop : Bool}
  {effects : List Effect}

/-- A session that waits for its next event has written everything. -/
def AllWritten (core : WorkerCore) : Prop :=
  ∀ session, core.phase = .running session → session.state.outbound = []

theorem allWritten_of_ne (hphase : ∀ session, core.phase ≠ .running session) : core.AllWritten :=
  fun session hrunning => absurd hrunning (hphase session)

theorem allWritten_of_turn {control : Control} {notices : List Notice}
    (hturn : Turn phase effects) : AllWritten ⟨phase, control, notices, stop⟩ := by
  cases hturn with
  | goesOn hwritten _ =>
    rintro session ⟨⟩
    exact hwritten
  | fails _ _ => exact allWritten_of_ne fun _ => WorkerPhase.noConfusion

theorem allWritten_of_step (hbefore : core.AllWritten) (hstep : Step core action after effects) :
    after.AllWritten := by
  cases hstep with
  | heard _ hturn _ => exact allWritten_of_turn hturn
  | looped hturn => exact allWritten_of_turn hturn
  | established hwritten =>
    rintro session ⟨⟩
    exact hwritten
  | requestRunning houtbound =>
    rintro session ⟨⟩
    exact houtbound.trans (hbefore _ rfl)
  | notified notice => exact hbefore
  | stopRequested => exact hbefore
  | notEstablished _ hafter =>
    cases hafter <;> exact allWritten_of_ne fun _ => WorkerPhase.noConfusion
  | closed hafter => cases hafter <;> exact allWritten_of_ne fun _ => WorkerPhase.noConfusion
  | _ => exact allWritten_of_ne fun _ => WorkerPhase.noConfusion

/-- Whether the worker attempts no session until a network returns. -/
def HoldsOff (core : WorkerCore) : Prop :=
  match core.phase with
  | .created | .backingOff _ | .servingPenalty _ | .establishing => False
  | .running _ => core.stopRequested = true ∨ core.control.EndsOffline core.notices
  | .closing _ (.ok .stopped) => True
  | .closing _ (.ok .reconnect) => False
  | .closing _ (.ok .networkLost) => NoneReturns core.notices
  | .closing _ (.error error) => core.stopRequested = true ∨ error.isRecoverable = false
  | .waitingForNetwork => NoneReturns core.notices
  | .finished => True

theorem holdsOff_of_notified {control : Control} {notices : List Notice} {notice : Notice}
    (hbefore : HoldsOff ⟨phase, control, notices, stop⟩)
    (hnotice : ∀ network, notice ≠ .networkAvailable network) :
    HoldsOff ⟨phase, control, notices ++ [notice], stop⟩ := by
  cases phase with
  | running session => exact hbefore.imp_right fun hends => hends.concat hnotice
  | waitingForNetwork => exact NoneReturns.concat hbefore hnotice
  | closing session outcome =>
    rcases outcome with error | reason
    · exact hbefore
    · cases reason with
      | networkLost => exact NoneReturns.concat hbefore hnotice
      | _ => exact hbefore
  | _ => exact hbefore

theorem holdsOff_of_stopRequested {control : Control} {notices : List Notice}
    (hbefore : HoldsOff ⟨phase, control, notices, stop⟩) :
    HoldsOff ⟨phase, control, notices, true⟩ := by
  cases phase with
  | running session => exact .inl rfl
  | closing session outcome =>
    rcases outcome with error | reason
    · exact .inl rfl
    · cases reason <;> exact hbefore
  | _ => exact hbefore

theorem holdsOff_of_closed {session : LiveSession} {outcome : Except Error SessionEnd}
    {control : Control} {notices : List Notice}
    (hbefore : HoldsOff ⟨.closing session outcome, control, notices, stop⟩)
    (hafter : AfterSession stop outcome phase effects) :
    HoldsOff ⟨phase, control, notices, stop⟩ := by
  cases hafter with
  | stopped => trivial
  | networkLost => exact hbefore
  | requested deadline => exact hbefore
  | interrupted _ => trivial
  | failed hstop hrecoverable deadline =>
    rcases hbefore with hstopped | hfinal
    · exact absurd (hstop.symm.trans hstopped) Bool.false_ne_true
    · exact absurd (hfinal.symm.trans hrecoverable) Bool.false_ne_true
  | gaveUp _ _ => trivial

theorem holdsOff_of_step (hwritten : core.AllWritten) (hbefore : core.HoldsOff)
    (haction : action.ReturnsNone) (hstep : Step core action after effects) : after.HoldsOff := by
  cases hstep with
  | notified notice =>
    exact holdsOff_of_notified hbefore fun network hnotice => haction network (hnotice ▸ rfl)
  | stopRequested => exact holdsOff_of_stopRequested hbefore
  | stoppedIdle _ => trivial
  | stoppedRunning => trivial
  | @ended session control notice notices reason hend =>
    have hends := hbefore.resolve_left Bool.false_ne_true
    simp only [Control.EndsOffline, hend] at hends
    cases reason with
    | networkLost => exact hends
    | reconnect => exact hends
    | stopped => trivial
  | @heard session phase control notice notices effects hend hturn hgoesOn =>
    obtain ⟨after, rfl⟩ := hgoesOn (hwritten session rfl)
    have hends := hbefore.resolve_left Bool.false_ne_true
    simp only [Control.EndsOffline, hend] at hends
    exact .inr hends
  | networkReturned deadline => exact hbefore _ List.mem_cons_self
  | stillWaiting _ => exact noneReturns_cons hbefore
  | looped _ => exact (hbefore.elim Bool.false_ne_true id).elim
  | requestRunning _ => exact hbefore
  | @requestClosing session after outcome =>
    rcases outcome with error | reason
    · exact hbefore
    · cases reason <;> exact hbefore
  | closed hafter => exact holdsOff_of_closed hbefore hafter
  | _ => exact hbefore.elim

/-- The session ended for want of a network, and no other followed. -/
def IsOffline (core : WorkerCore) : Prop :=
  match core.phase with
  | .closing _ (.ok .networkLost) | .waitingForNetwork | .finished => True
  | _ => False

/-- What was sent to the worker is what it heard, with what it did not hear yet behind it, and once
it has heard of a loss that left no network it is offline. -/
structure Heard (networks : NetworkSet) (sent : List Notice) (core : WorkerCore)
    (heard : List Notice) : Prop where
  sent_eq : sent = heard ++ core.notices
  networks_eq : core.control.networks = heard.foldl Control.replay networks
  offline : EndsWithLoss networks heard → core.IsOffline

variable {networks : NetworkSet} {sent heard : List Notice}

/-- Hearing a notice ends a session for want of a network exactly where the host told last of a loss
that left none. -/
theorem networkLost_of_endsWithLoss {control : Control} {notice : Notice}
    (hnetworks : control.networks = heard.foldl Control.replay networks)
    (hbefore : ¬ EndsWithLoss networks heard) (hloss : EndsWithLoss networks (heard ++ [notice])) :
    control.sessionEnd? notice = some .networkLost := by
  cases notice with
  | networkAvailable network => exact absurd hloss not_endsWithLoss_concat_available
  | interfaceDown generation =>
    exact absurd ((endsWithLoss_append_iff (by simp [Notice.isHosts])).1 hloss) hbefore
  | networkLost lost =>
    have hempty := endsWithLoss_concat_lost.1 hloss
    rw [← hnetworks] at hempty
    rw [Control.sessionEnd?, if_pos hempty]

def heardBy (core : WorkerCore) : Action → List Notice
  | .hear => core.notices.take 1
  | _ => []

theorem notices_of_step (hstep : Step core action after effects) :
    core.notices ++ action.notice?.toList = core.heardBy action ++ after.notices ∧
      after.control.networks =
        (core.heardBy action).foldl Control.replay core.control.networks := by
  cases hstep <;> simp [heardBy, Action.notice?, Control.hear]

theorem IsOffline.of_step (hbefore : core.IsOffline) (hstep : Step core action after effects)
    (hnone : core.heardBy action = []) : after.IsOffline := by
  cases hstep with
  | notified _ => exact hbefore
  | stopRequested => exact hbefore
  | stoppedIdle _ => trivial
  | @requestClosing session after outcome =>
    rcases outcome with error | reason
    · exact hbefore
    · cases reason <;> exact hbefore
  | closed hafter =>
    cases hafter with
    | requested deadline => exact hbefore
    | failed _ _ deadline => exact hbefore
    | _ => trivial
  | networkReturned _ => cases hnone
  | stillWaiting _ => cases hnone
  | _ => exact hbefore.elim

/-- Where the notice that is heard is the one that makes the last of what the host told a loss, it
ends the session or leaves the worker waiting. -/
theorem isOffline_of_hears (hnetworks : core.control.networks = heard.foldl Control.replay networks)
    (hoffline : EndsWithLoss networks heard → core.IsOffline)
    (hstep : Step core action after effects) (hhears : core.heardBy action ≠ [])
    (hloss : EndsWithLoss networks (heard ++ core.heardBy action)) : after.IsOffline := by
  cases hstep with
  | ended hend =>
    rw [networkLost_of_endsWithLoss hnetworks hoffline hloss] at hend
    cases hend
    trivial
  | heard hend _ _ =>
    rw [networkLost_of_endsWithLoss hnetworks hoffline hloss] at hend
    cases hend
  | networkReturned _ => exact absurd hloss not_endsWithLoss_concat_available
  | stillWaiting _ => trivial
  | _ => exact absurd rfl hhears

theorem heard_of_step (hheard : core.Heard networks sent heard)
    (hstep : Step core action after effects) :
    after.Heard networks (sent ++ action.notice?.toList) (heard ++ core.heardBy action) := by
  obtain ⟨hsent, hnetworks, hoffline⟩ := hheard
  obtain ⟨hqueue, hreplay⟩ := notices_of_step hstep
  refine ⟨?_, ?_, fun hloss => ?_⟩
  · rw [hsent, List.append_assoc, hqueue, List.append_assoc]
  · rw [hreplay, hnetworks, List.foldl_append]
  · by_cases hnone : core.heardBy action = []
    · rw [hnone, List.append_nil] at hloss
      exact (hoffline hloss).of_step hstep hnone
    · exact isOffline_of_hears hnetworks hoffline hstep hnone hloss

theorem holdsOff_of_isOffline (hoffline : core.IsOffline) (hnone : NoneReturns core.notices) :
    core.HoldsOff := by
  rcases core with ⟨phase, control, notices, stop⟩
  cases phase with
  | closing session outcome =>
    rcases outcome with error | reason
    · exact hoffline.elim
    · cases reason with
      | networkLost => exact hnone
      | _ => exact hoffline.elim
  | waitingForNetwork => exact hnone
  | finished => trivial
  | _ => exact hoffline.elim

end WorkerCore

namespace Worker

variable {engine : Engine} {since : Nat} {worker : Worker}

/-- Whatever happens, no session is attempted and none runs until the host says that a network is
available. -/
def StaysOffline (engine : Engine) (worker : Worker) : Prop :=
  ∀ since, worker.NeverAttempts engine Action.ReturnsNone since

theorem staysOffline_of_holdsOff (hwritten : worker.core.AllWritten)
    (hholds : worker.core.HoldsOff) : worker.StaysOffline engine := by
  intro since
  refine neverAttempts_of_invariant (fun core => core.AllWritten ∧ core.HoldsOff) ?_ ?_
    ⟨hwritten, hholds⟩
  · rintro ⟨phase, control, notices, stop⟩ ⟨-, hholds⟩ rfl
    exact hholds
  · rintro core action after effects ⟨hwritten, hholds⟩ haction hstep
    exact ⟨WorkerCore.allWritten_of_step hwritten hstep,
      WorkerCore.holdsOff_of_step hwritten hholds haction hstep⟩

theorem returnsNone_of_not_notify (action : Action) (h : ∀ notice, action ≠ .notify notice) :
    action.ReturnsNone := fun network => h (.networkAvailable network)

theorem canAttempt_of_closing_networkLost {session : LiveSession}
    (hphase : worker.phase = .closing session (.ok .networkLost))
    (hreturns : ¬ NoneReturns worker.notices) :
    worker.CanAttempt engine Action.ReturnsNone since := by
  obtain ⟨network, hnetwork⟩ := exists_return_of_not_noneReturns hreturns
  refine canAttempt_of_closing returnsNone_of_not_notify hphase fun next hnotices _ => ?_
  exact canAttempt_of_waitingForNetwork returnsNone_of_not_notify rfl (hnotices ▸ hnetwork)

theorem canAttempt_of_closing_reconnect {session : LiveSession}
    (hphase : worker.phase = .closing session (.ok .reconnect)) :
    worker.CanAttempt engine Action.ReturnsNone since :=
  canAttempt_of_closing returnsNone_of_not_notify hphase fun _ _ _ =>
    canAttempt_of_backingOff returnsNone_of_not_notify rfl

theorem canAttempt_of_closing_error {session : LiveSession} {error : Error}
    (hphase : worker.phase = .closing session (.error error))
    (hstop : worker.stopRequested = false) (hrecoverable : error.isRecoverable = true) :
    worker.CanAttempt engine Action.ReturnsNone since := by
  refine canAttempt_of_closing returnsNone_of_not_notify hphase fun next _ hsame => ?_
  have hphase : ∃ deadline, (next.afterSession since (.error error)).1.phase =
      .backingOff deadline := by
    simp [afterSession, hsame, hstop, hrecoverable, reconnect, connect]
  obtain ⟨deadline, hphase⟩ := hphase
  exact canAttempt_of_backingOff returnsNone_of_not_notify hphase

theorem exists_flush (worker : Worker) (moment : Moment) {session : LiveSession}
    (hwritten : session.state.outbound = []) : ∃ next shown after,
      worker.flush moment session [] = (next, shown) ∧
        next.core = worker.core.goTo (.running after) ∧ after.state.outbound = [] := by
  obtain ⟨phase, hcore, hturn, hgoesOn⟩ := flush_cases worker moment session isQuiet_nil
  obtain ⟨after, rfl⟩ := hgoesOn hwritten
  cases hturn with
  | goesOn hafter _ => exact ⟨_, _, after, rfl, hcore, hafter⟩

/-- A session that runs can fail at any time when there is nothing left to hear. Until then it hears
its notices one after another. -/
theorem canAttempt_of_running {session : LiveSession} (hphase : worker.phase = .running session)
    (hwritten : session.state.outbound = []) (hstop : worker.stopRequested = false)
    (hends : ¬ worker.control.EndsOffline worker.notices) :
    worker.CanAttempt engine Action.ReturnsNone since := by
  generalize hnotices : worker.notices = notices at hends
  -- The session goes on from each notice that does not end it, as another live session.
  induction notices generalizing worker session with
  | nil =>
    have hstep : worker.step? engine (.obliging [] since)
        (.event (.readFailed (.other "failure"))) = some (worker.endLoop session
          (.error (.network (.poll (.other "failure")))) []) := by
      simp [step?, event?, hphase, hstop, hnotices, handleEvent]
    exact .of_step hstep (returnsNone_of_not_notify _ fun _ => Action.noConfusion) le_rfl
      (canAttempt_of_closing_error rfl hstop rfl)
  | cons notice notices ih =>
    have hstep : worker.step? engine (.obliging [] since) .hear =
        some ({ worker with notices := notices }.hearInSession (.obliging [] since) session
          notice) := by
      simp only [step?, hear?, hnotices, hphase, hstop, Bool.false_eq_true, if_false]
    rw [Control.EndsOffline] at hends
    rw [hearInSession] at hstep
    cases hend : worker.control.sessionEnd? notice with
    | some reason =>
      simp only [hend] at hends hstep
      cases reason with
      | networkLost =>
        exact .of_step hstep (returnsNone_of_not_notify _ fun _ => Action.noConfusion) le_rfl
          (canAttempt_of_closing_networkLost rfl hends)
      | reconnect =>
        exact .of_step hstep (returnsNone_of_not_notify _ fun _ => Action.noConfusion) le_rfl
          (canAttempt_of_closing_reconnect rfl)
      | stopped => exact absurd hend (worker.control.sessionEnd?_ne_stopped notice)
    | none =>
      simp only [hend] at hends hstep
      obtain ⟨next, shown, after, hflush, hcore, hafter⟩ := exists_flush
        { worker with notices := notices, control := worker.control.hear notice }
        (.obliging [] since) hwritten
      rw [hflush] at hstep
      refine .of_step hstep (returnsNone_of_not_notify _ fun _ => Action.noConfusion) le_rfl ?_
      have hcontrol : next.control = worker.control.hear notice :=
        congrArg WorkerCore.control hcore
      exact ih (congrArg WorkerCore.phase hcore) hafter
        ((congrArg WorkerCore.stopRequested hcore).trans hstop)
        (congrArg WorkerCore.notices hcore) (hcontrol ▸ hends)

theorem canAttempt_of_not_holdsOff (hwritten : worker.core.AllWritten)
    (hholds : ¬ worker.core.HoldsOff) : worker.CanAttempt engine Action.ReturnsNone since := by
  simp only [WorkerCore.HoldsOff, core] at hholds
  cases hphase : worker.phase with
  | created => exact canAttempt_of_created returnsNone_of_not_notify hphase
  | backingOff deadline => exact canAttempt_of_backingOff returnsNone_of_not_notify hphase
  | servingPenalty deadline => exact canAttempt_of_servingPenalty returnsNone_of_not_notify hphase
  | establishing => exact canAttempt_of_establishing returnsNone_of_not_notify hphase
  | running session =>
    simp only [hphase, not_or, Bool.not_eq_true] at hholds
    exact canAttempt_of_running hphase (hwritten session hphase) hholds.1 hholds.2
  | closing session outcome =>
    rcases outcome with error | reason
    · simp only [hphase, not_or, Bool.not_eq_true, Bool.not_eq_false] at hholds
      exact canAttempt_of_closing_error hphase hholds.1 hholds.2
    · cases reason with
      | stopped => simp only [hphase, not_true_eq_false] at hholds
      | reconnect => exact canAttempt_of_closing_reconnect hphase
      | networkLost =>
        simp only [hphase] at hholds
        exact canAttempt_of_closing_networkLost hphase hholds
  | waitingForNetwork =>
    simp only [hphase] at hholds
    obtain ⟨network, hnetwork⟩ := exists_return_of_not_noneReturns hholds
    exact canAttempt_of_waitingForNetwork returnsNone_of_not_notify hphase hnetwork
  | finished => simp only [hphase, not_true_eq_false] at hholds

/-- The notices sent to the worker in a run. -/
def sentIn (run : List (Moment × Action)) : List Notice :=
  (run.map Prod.snd).filterMap Action.notice?

variable {settings : Settings} {networks : List Network} {start : Worker} {shown : List Effect}
  {run : List (Moment × Action)}

theorem allWritten_of_run (hnew : Worker.new settings networks = .ok start)
    (hrun : start.run? engine run = some (worker, shown)) : worker.core.AllWritten := by
  refine run_induction (fun _ core _ => core.AllWritten) ?_ WorkerCore.allWritten_of_step hrun
  rw [core_new hnew]
  exact WorkerCore.allWritten_of_ne fun _ => WorkerPhase.noConfusion

theorem exists_heard_of_run (hnew : Worker.new settings networks = .ok start)
    (hrun : start.run? engine run = some (worker, shown)) :
    ∃ heard, worker.core.Heard (.ofNetworks networks) (sentIn run) heard := by
  refine run_induction (fun actions core _ => ∃ heard,
    core.Heard (.ofNetworks networks) (actions.filterMap Action.notice?) heard) ?_ ?_ hrun
  · rw [core_new hnew]
    exact ⟨[], rfl, rfl, fun ⟨told, lost, htold, _⟩ => absurd htold (by simp)⟩
  · rintro actions core shown action after later ⟨heard, hheard⟩ hstep
    rw [List.filterMap_append, filterMap_notice?_singleton]
    exact ⟨_, WorkerCore.heard_of_step hheard hstep⟩

/-- A worker stays offline exactly where it holds off. Once it has heard all that the host told, it
does so whenever a loss that left no network was the last of that. -/
theorem staysOffline_iff (hnew : Worker.new settings networks = .ok start)
    (hrun : start.run? engine run = some (worker, shown)) :
    (worker.StaysOffline engine ↔ worker.core.HoldsOff) ∧
      (EndsWithLoss (.ofNetworks networks) (sentIn run) →
        (∀ notice ∈ worker.notices, notice.isHosts = false) → worker.StaysOffline engine) := by
  have hwritten := allWritten_of_run hnew hrun
  refine ⟨⟨fun hstays => ?_, staysOffline_of_holdsOff hwritten⟩, fun hloss hhosts => ?_⟩
  · by_contra hholds
    have hcan : worker.CanAttempt engine Action.ReturnsNone 0 :=
      canAttempt_of_not_holdsOff hwritten hholds
    exact hcan.not_neverAttempts (hstays 0)
  · obtain ⟨heard, hsent, -, hoffline⟩ := exists_heard_of_run hnew hrun
    have hnone : NoneReturns worker.notices := fun network hmem =>
      Bool.noConfusion (hhosts _ hmem)
    rw [hsent] at hloss
    have hheard := (endsWithLoss_append_iff hhosts).1 hloss
    exact staysOffline_of_holdsOff hwritten
      (WorkerCore.holdsOff_of_isOffline (hoffline hheard) hnone)

def connectsOnce : List (Moment × Action) :=
  (Moment.obliging [.wifi] 0).takes [.begin, .backoffOver, .penaltyOver, .establish]

def losesWhileRunning : List (Moment × Action) :=
  connectsOnce ++ (Moment.obliging [.wifi] (seconds 5)).takes [.notify (.networkLost .wifi), .hear]

/-- The only network is lost between a session that failed and the next attempt. -/
def losesWhileBackingOff : List (Moment × Action) :=
  connectsOnce ++ (Moment.obliging [.wifi] 0).takes
    [.event (.packet []), .monitorOver, .notify (.networkLost .wifi)]

theorem staysOffline_losesWhileRunning : ∃ worker shown,
    (withDefaults (Platform.obliging [.wifi]).networks).run? (.ofSettings {}) losesWhileRunning =
        some (worker, shown) ∧ worker.StaysOffline (.ofSettings {}) := by
  have hruns : ((withDefaults (Platform.obliging [.wifi]).networks).run? (.ofSettings {})
      losesWhileRunning).map (fun outcome : Outcome => outcome.1.notices) = some [] := by
    decide +kernel
  obtain ⟨⟨worker, shown⟩, hrun, hnotices⟩ := Option.map_eq_some_iff.1 hruns
  have hloss : EndsWithLoss (.ofNetworks (Platform.obliging [.wifi]).networks)
      (sentIn losesWhileRunning) := ⟨[], .wifi, rfl, rfl⟩
  refine ⟨worker, shown, hrun, (staysOffline_iff (new_withDefaults _) hrun).2 hloss ?_⟩
  intro notice hnotice
  rw [hnotices] at hnotice
  cases hnotice

/-- The backoff ends, and the next session is attempted without a network. -/
theorem not_staysOffline_losesWhileBackingOff : ∃ worker shown,
    (withDefaults (Platform.obliging [.wifi]).networks).run? (.ofSettings {}) losesWhileBackingOff =
        some (worker, shown) ∧
      EndsWithLoss (.ofNetworks (Platform.obliging [.wifi]).networks)
        (sentIn losesWhileBackingOff) ∧
      ¬ worker.StaysOffline (.ofSettings {}) := by
  let later := (Moment.obliging [.wifi] (seconds 3)).takes [.backoffOver, .penaltyOver, .establish]
  have hruns : ((withDefaults (Platform.obliging [.wifi]).networks).run? (.ofSettings {})
      losesWhileBackingOff).bind (fun before : Outcome =>
        (before.1.run? (.ofSettings {}) ((Moment.obliging [.wifi] (seconds 3)).takes
          [.backoffOver, .penaltyOver, .establish])).map
            fun after : Outcome => attempts after.2) = some 1 := by
    decide +kernel
  obtain ⟨⟨worker, shown⟩, hrun, hlater⟩ := Option.bind_eq_some_iff.1 hruns
  obtain ⟨⟨last, shownLater⟩, hrunLater, hcount⟩ := Option.map_eq_some_iff.1 hlater
  refine ⟨worker, shown, hrun, ⟨[], .wifi, rfl, rfl⟩, fun hstays => ?_⟩
  have htimed : Timed (seconds 3) later := by decide
  have hallowed : ∀ step ∈ later, Action.ReturnsNone step.2 := by
    simp [later, Moment.takes, Action.ReturnsNone]
  have hnone := (hstays (seconds 3) later last shownLater htimed hallowed hrunLater).1
  exact Nat.one_ne_zero (hcount.symm.trans hnone)

end Worker

end Sinkhole
