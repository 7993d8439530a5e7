import Sinkhole.Proofs.Lifecycle.Steps

/-! # Attempts to bring a tunnel up

An attempt is a tunnel that is configured, with success or not. No session is reported to run
without one. That the worker attempts nothing is proved with an invariant of its steps; that it can
attempt something, by a run that ends with the attempt, and such a run is put together from its end.
-/
namespace Sinkhole

def Effect.isAttempt : Effect → Bool
  | .configured _ => true
  | .status _ | .counted _ | .written _ => false

def attempts (shown : List Effect) : Nat := shown.countP Effect.isAttempt

theorem attempts_append (front back : List Effect) :
    attempts (front ++ back) = attempts front + attempts back := List.countP_append

theorem attempts_configured (trace : BuilderTrace) (effects : List Effect) :
    attempts (.configured trace :: effects) = attempts effects + 1 := List.countP_cons_of_pos rfl

theorem attempts_eq_zero_of_quiet {effects : List Effect}
    (hquiet : ∀ effect ∈ effects, effect.isQuiet) : attempts effects = 0 := by
  refine List.countP_eq_zero.2 fun effect heffect => ?_
  have hone := hquiet effect heffect
  cases effect with
  | configured trace => cases hone
  | _ => exact Bool.false_ne_true

/-- The clock never goes back, from an instant on. -/
def Timed (since : Nat) (run : List (Moment × Action)) : Prop :=
  (since :: run.map fun step => step.1.now).IsChain (· ≤ ·)

instance (since : Nat) (run : List (Moment × Action)) : Decidable (Timed since run) :=
  inferInstanceAs (Decidable (List.IsChain _ _))

theorem timed_cons_iff {since : Nat} {moment : Moment} {action : Action}
    {run : List (Moment × Action)} :
    Timed since ((moment, action) :: run) ↔ since ≤ moment.now ∧ Timed moment.now run :=
  List.isChain_cons_cons

namespace WorkerCore

variable {core after : WorkerCore} {action : Action} {phase : WorkerPhase} {stop : Bool}
  {outcome : Except Error SessionEnd} {effects : List Effect}

theorem attempts_afterSession (hafter : AfterSession stop outcome phase effects) :
    attempts effects = 0 ∧ .status .running ∉ effects := by
  cases hafter <;> exact ⟨rfl, by simp⟩

theorem attempts_turn (hturn : Turn phase effects) :
    attempts effects = 0 ∧ .status .running ∉ effects := by
  have hquiet : ∀ effect ∈ effects, effect.isQuiet := by cases hturn <;> assumption
  exact ⟨attempts_eq_zero_of_quiet hquiet, fun hmem => Bool.false_ne_true (hquiet _ hmem)⟩

/-- Only establishing a session is an attempt, and nothing else starts one. -/
theorem attempts_of_step (hstep : Step core action after effects) :
    (attempts effects = 0 ∧ .status .running ∉ effects) ∨
      (core.phase = .establishing ∧ attempts effects = 1) := by
  cases hstep with
  | heard _ hturn _ => exact .inl (attempts_turn hturn)
  | looped hturn => exact .inl (attempts_turn hturn)
  | closed hafter => exact .inl (attempts_afterSession hafter)
  | established _ => exact .inr ⟨rfl, rfl⟩
  | notEstablished _ hafter =>
    refine .inr ⟨rfl, ?_⟩
    rw [attempts_configured, (attempts_afterSession hafter).1]
  | _ => exact .inl ⟨rfl, by simp⟩

end WorkerCore

namespace Worker

variable {engine : Engine} {allowed : Action → Prop} {since : Nat} {worker next : Worker}

/-- Whatever happens from an instant on, out of what is allowed, no session is attempted and none
runs. -/
def NeverAttempts (engine : Engine) (allowed : Action → Prop) (since : Nat) (worker : Worker) :
    Prop :=
  ∀ run last shown, Timed since run → (∀ step ∈ run, allowed step.2) →
    worker.run? engine run = some (last, shown) →
      attempts shown = 0 ∧ .status .running ∉ shown

/-- What is allowed can lead to an attempt. -/
def CanAttempt (engine : Engine) (allowed : Action → Prop) (since : Nat) (worker : Worker) :
    Prop :=
  ∃ run last shown, Timed since run ∧ (∀ step ∈ run, allowed step.2) ∧
    worker.run? engine run = some (last, shown) ∧ attempts shown ≠ 0

theorem CanAttempt.not_neverAttempts (hcan : worker.CanAttempt engine allowed since) :
    ¬ worker.NeverAttempts engine allowed since := by
  obtain ⟨run, last, shown, htimed, hallowed, hrun, hattempts⟩ := hcan
  exact fun hnever => hattempts (hnever run last shown htimed hallowed hrun).1

/-- Where a worker that attempts nothing can only get to such workers, none attempts anything. -/
theorem neverAttempts_of_invariant (Down : WorkerCore → Prop)
    (hestablishing : ∀ core, Down core → core.phase ≠ .establishing)
    (hstep : ∀ {core action after effects}, Down core → allowed action →
      WorkerCore.Step core action after effects → Down after)
    (hdown : Down worker.core) : worker.NeverAttempts engine allowed since := by
  intro run last shown _ hallowed hrun
  have hkept : (∀ action ∈ run.map Prod.snd, allowed action) →
      Down last.core ∧ attempts shown = 0 ∧ .status .running ∉ shown := by
    refine run_induction (fun actions core shown => (∀ action ∈ actions, allowed action) →
      Down core ∧ attempts shown = 0 ∧ .status .running ∉ shown) ?_ ?_ hrun
    · exact fun _ => ⟨hdown, rfl, List.not_mem_nil⟩
    · intro actions core shown action after later hbefore hone hactions
      rw [List.forall_mem_append, List.forall_mem_singleton] at hactions
      obtain ⟨hcore, hnone, hrunning⟩ := hbefore hactions.1
      rcases WorkerCore.attempts_of_step hone with ⟨hlater, hquiet⟩ | ⟨hphase, -⟩
      · refine ⟨hstep hcore hactions.2 hone, by rw [attempts_append, hnone, hlater], ?_⟩
        exact fun hmem => (List.mem_append.1 hmem).elim hrunning hquiet
      · exact absurd hphase (hestablishing _ hcore)
  refine (hkept fun action haction => ?_).2
  obtain ⟨step, hmem, rfl⟩ := List.mem_map.1 haction
  exact hallowed step hmem

theorem CanAttempt.of_step {moment : Moment} {action : Action} {effects : List Effect}
    (hstep : worker.step? engine moment action = some (next, effects)) (hallowed : allowed action)
    (hsince : since ≤ moment.now) (hnext : next.CanAttempt engine allowed moment.now) :
    worker.CanAttempt engine allowed since := by
  obtain ⟨run, last, shown, htimed, hrest, hrun, hattempts⟩ := hnext
  refine ⟨(moment, action) :: run, last, effects ++ shown, timed_cons_iff.2 ⟨hsince, htimed⟩,
    List.forall_mem_cons.2 ⟨hallowed, hrest⟩, ?_, ?_⟩
  · rw [run?, hstep]
    simp only [Option.bind_eq_bind, Option.bind_some, hrun, Option.pure_def]
  · rw [attempts_append]
    omega

theorem attempts_establishSession (engine : Engine) (worker : Worker) (moment : Moment) :
    attempts (worker.establishSession engine moment).2 ≠ 0 := by
  rw [establishSession]
  rcases establish (ρ := Flow) moment.platform engine.settings with ⟨result, trace⟩
  cases result with
  | error error => exact (attempts_configured trace _).symm ▸ Nat.succ_ne_zero _
  | ok state => exact Nat.succ_ne_zero _

section

variable (hallowed : ∀ action, (∀ notice, action ≠ .notify notice) → allowed action)

include hallowed

theorem canAttempt_of_establishing (hphase : worker.phase = .establishing) :
    worker.CanAttempt engine allowed since := by
  let moment := Moment.obliging [] since
  obtain ⟨⟨next, shown⟩, houtcome⟩ : ∃ outcome, worker.establishSession engine moment = outcome :=
    ⟨_, rfl⟩
  have hrun : worker.run? engine [(moment, .establish)] = some (next, shown) := by
    simp only [run?, step?, establish?, hphase, houtcome, Option.bind_eq_bind, Option.bind_some,
      Option.pure_def, List.append_nil]
  have hattempts := attempts_establishSession engine worker moment
  rw [houtcome] at hattempts
  exact ⟨[(moment, .establish)], next, shown, timed_cons_iff.2 ⟨le_rfl, .singleton _⟩,
    List.forall_mem_singleton.2 (hallowed _ fun _ => Action.noConfusion), hrun, hattempts⟩

theorem canAttempt_of_servingPenalty {deadline : Nat}
    (hphase : worker.phase = .servingPenalty deadline) :
    worker.CanAttempt engine allowed since := by
  have hstep : worker.step? engine (.obliging [] (max since deadline)) .penaltyOver =
      some ({ worker with phase := .establishing }, []) := by
    simp [step?, penaltyOver?, hphase, Moment.obliging]
  exact .of_step hstep (hallowed _ fun _ => Action.noConfusion) (Nat.le_max_left _ _)
    (canAttempt_of_establishing hallowed rfl)

theorem canAttempt_of_backingOff {deadline : Nat} (hphase : worker.phase = .backingOff deadline) :
    worker.CanAttempt engine allowed since := by
  have hstep : ∃ next served, worker.step? engine (.obliging [] (max since deadline)) .backoffOver =
      some (next, []) ∧ next.phase = .servingPenalty served := by
    simp [step?, backoffOver?, hphase, Moment.obliging]
  obtain ⟨next, served, hstep, hnext⟩ := hstep
  exact .of_step hstep (hallowed _ fun _ => Action.noConfusion) (Nat.le_max_left _ _)
    (canAttempt_of_servingPenalty hallowed hnext)

theorem canAttempt_of_created (hphase : worker.phase = .created) :
    worker.CanAttempt engine allowed since := by
  have hstep : ∃ next deadline effects, worker.step? engine (.obliging [] since) .begin =
      some (next, effects) ∧ next.phase = .backingOff deadline := by
    simp [step?, begin?, hphase, connect]
  obtain ⟨next, deadline, effects, hstep, hnext⟩ := hstep
  exact .of_step hstep (hallowed _ fun _ => Action.noConfusion) le_rfl
    (canAttempt_of_backingOff hallowed hnext)

theorem canAttempt_of_waitingForNetwork (hphase : worker.phase = .waitingForNetwork)
    {network : NetworkClass} (hreturns : .networkAvailable network ∈ worker.notices) :
    worker.CanAttempt engine allowed since := by
  generalize hnotices : worker.notices = notices at hreturns
  induction notices generalizing worker with
  | nil => cases hreturns
  | cons notice notices ih =>
    have hstep : worker.step? engine (.obliging [] since) .hear =
        some ({ worker with notices := notices }.hearWaiting since notice) := by
      simp only [step?, hear?, hnotices, hphase]
      rfl
    cases notice with
    | networkAvailable returned =>
      exact .of_step hstep (hallowed _ fun _ => Action.noConfusion) le_rfl
        (canAttempt_of_backingOff hallowed rfl)
    | networkLost lost =>
      have hrest := (List.mem_cons.1 hreturns).resolve_left Notice.noConfusion
      exact .of_step hstep (hallowed _ fun _ => Action.noConfusion) le_rfl (ih hphase rfl hrest)
    | interfaceDown generation =>
      have hrest := (List.mem_cons.1 hreturns).resolve_left Notice.noConfusion
      exact .of_step hstep (hallowed _ fun _ => Action.noConfusion) le_rfl (ih hphase rfl hrest)

theorem canAttempt_of_closing {session : LiveSession} {outcome : Except Error SessionEnd}
    (hphase : worker.phase = .closing session outcome)
    (hafter : ∀ next : Worker, next.notices = worker.notices →
      next.stopRequested = worker.stopRequested →
      (next.afterSession since outcome).1.CanAttempt engine allowed since) :
    worker.CanAttempt engine allowed since := by
  have hstep : worker.step? engine (.obliging [] since) .monitorOver =
      some ({ worker with forwarder := worker.forwarder.sessionEnded session.state }.afterSession
        since outcome) := by
    simp only [step?, monitorOver?, hphase]
    rfl
  exact .of_step hstep (hallowed _ fun _ => Action.noConfusion) le_rfl (hafter _ rfl rfl)

end

end Worker

end Sinkhole
