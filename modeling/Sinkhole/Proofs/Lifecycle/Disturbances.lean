import Sinkhole.Proofs.Lifecycle.Hearing

/-! # Notices that change nothing

A session that is told once more of a network that it counts goes on. One that is told of the loss
of a network that it does not count ends all the same, though nothing changed: it reconnects where
it counts another network, and waits for a network where it counts none. Every other notice of the
host that ends a session changes the set of networks.
-/
namespace Sinkhole

instance : Fintype NetworkClass where
  elems := {.wifi, .cellular}
  complete network := by cases network <;> decide

theorem NetworkSet.erase_eq_self {networks : NetworkSet} {network : NetworkClass}
    (h : networks.contains network = false) : networks.erase network = networks := by
  rcases networks with ⟨wifi, cellular⟩
  cases network
  · cases (h : wifi = false)
    rfl
  · cases (h : cellular = false)
    rfl

theorem Control.hear_networks_ne_of_ends {control : Control} {notice : Notice} {reason : SessionEnd}
    (hhosts : notice.isHosts = true) (hend : control.sessionEnd? notice = some reason)
    (hcounted : ∀ network, notice = .networkLost network →
      control.networks.contains network = true) :
    (control.hear notice).networks ≠ control.networks := by
  intro hsame
  cases notice with
  | networkAvailable network =>
    rw [sessionEnd?] at hend
    split at hend
    · rename_i hempty
      have hnone : control.networks.contains network = false :=
        NetworkSet.isEmpty_iff.1 hempty network
      rw [← hsame, hear, replay, NetworkSet.contains_insert] at hnone
      simp at hnone
    · cases hend
  | networkLost network =>
    have hbefore : control.networks.contains network = true := hcounted network rfl
    rw [← hsame, hear, replay, NetworkSet.contains_erase] at hbefore
    simp at hbefore
  | interfaceDown generation => cases hhosts

namespace Hearing

/-- A session runs before, and none after. -/
def EndsSession (hearing : Hearing) : Prop :=
  hearing.before.runs = true ∧ hearing.after.runs = false

/-- A session runs before, and after that the worker is to wait for a network. -/
def EndsOffline (hearing : Hearing) : Prop :=
  hearing.before.runs = true ∧ hearing.after.core.LostNetwork

def Changes (hearing : Hearing) : Prop :=
  hearing.after.control.networks ≠ hearing.before.control.networks

def LosesCounted (hearing : Hearing) : Prop :=
  ∃ network, hearing.notice = .networkLost network ∧
    hearing.before.control.networks.contains network = true

def LosesUncounted (hearing : Hearing) : Prop :=
  ∃ network, hearing.notice = .networkLost network ∧
    hearing.before.control.networks.contains network = false

instance : DecidablePred EndsSession := fun _ => inferInstanceAs (Decidable (_ ∧ _))

instance : DecidablePred Changes := fun _ => inferInstanceAs (Decidable (_ ≠ _))

instance : DecidablePred LosesUncounted := fun _ => inferInstanceAs (Decidable (∃ _, _))

/-- The notice is applied to the set of networks, and ends a session exactly where it says so. -/
structure Heeded (hearing : Hearing) : Prop where
  networks : hearing.after.control.networks =
    (hearing.before.control.hear hearing.notice).networks
  ends : ∀ reason, hearing.before.control.sessionEnd? hearing.notice = some reason →
    ∃ left, hearing.after.phase = .closing left (.ok reason)
  goesOn : hearing.before.control.sessionEnd? hearing.notice = none →
    ∃ left, hearing.after.phase = .running left

variable {hearing : Hearing}

theorem Heeded.exists_of_endsSession (heeded : hearing.Heeded) (hends : hearing.EndsSession) :
    ∃ reason, hearing.before.control.sessionEnd? hearing.notice = some reason := by
  refine Option.ne_none_iff_exists'.1 fun hnone => ?_
  have hruns : hearing.after.runs = true := Worker.runs_iff.2 (heeded.goesOn hnone)
  exact Bool.noConfusion (hends.2.symm.trans hruns)

theorem Heeded.endsSession (heeded : hearing.Heeded) (hruns : hearing.before.runs = true)
    {reason : SessionEnd}
    (hreason : hearing.before.control.sessionEnd? hearing.notice = some reason) :
    hearing.EndsSession := by
  obtain ⟨left, hleft⟩ := heeded.ends reason hreason
  refine ⟨hruns, ?_⟩
  rw [Worker.runs, hleft]

theorem Heeded.endsOffline_iff (heeded : hearing.Heeded) (hruns : hearing.before.runs = true) :
    hearing.EndsOffline ↔
      hearing.before.control.sessionEnd? hearing.notice = some .networkLost := by
  rw [EndsOffline, and_iff_right hruns, WorkerCore.LostNetwork, Worker.core]
  cases hend : hearing.before.control.sessionEnd? hearing.notice with
  | none =>
    obtain ⟨left, hleft⟩ := heeded.goesOn hend
    simp [hleft]
  | some reason =>
    obtain ⟨left, hleft⟩ := heeded.ends reason hend
    cases reason <;> simp [hleft]

theorem exists_lost_of_sessionEnd? {control : Control} {notice : Notice}
    (h : control.sessionEnd? notice = some .networkLost) :
    ∃ network, notice = .networkLost network := by
  cases notice with
  | networkLost network => exact ⟨network, rfl⟩
  | networkAvailable network => simp [Control.sessionEnd?] at h
  | interfaceDown generation => simp [Control.sessionEnd?] at h

theorem Heeded.of_losesUncounted (heeded : hearing.Heeded) (hruns : hearing.before.runs = true)
    (hlost : hearing.LosesUncounted) :
    hearing.EndsSession ∧ ¬ hearing.Changes ∧
      (hearing.EndsOffline ↔ hearing.before.control.networks.isEmpty = true) := by
  obtain ⟨network, hnotice, hnone⟩ := hlost
  have hend := heeded.endsOffline_iff hruns
  have hsame := heeded.networks
  rw [hnotice, Control.hear, Control.replay, NetworkSet.erase_eq_self hnone] at hsame
  rw [hnotice, Control.sessionEnd?, NetworkSet.erase_eq_self hnone] at hend
  refine ⟨heeded.endsSession hruns (by rw [hnotice, Control.sessionEnd?]), not_not.2 hsame, ?_⟩
  rw [hend]
  split <;> simp_all

end Hearing

namespace Worker

variable {engine : Engine} {settings : Settings} {networks : List Network}
  {start worker : Worker} {run : List (Moment × Action)} {shown : List Effect}

theorem heeded_of_run (hnew : Worker.new settings networks = .ok start)
    (hrun : start.run? engine run = some (worker, shown)) :
    ∀ hearing ∈ start.hearings engine run, hearing.before.runs = true → hearing.Heeded := by
  refine forall_alongRun _ (fun hearing : Hearing => hearing.before.runs = true → hearing.Heeded)
    ?_ hrun
  intro before middle effects moment action after later hbefore hstep hearing hheard hruns
  -- With everything written before, only the notice itself can end the session.
  have hwritten := allWritten_of_run hnew hbefore
  obtain ⟨notice, hmem, rfl⟩ := List.mem_map.1 hheard
  obtain ⟨session, hphase⟩ := runs_iff.1 hruns
  replace hphase : middle.phase = .running session := hphase
  have hone := step_core hstep
  have hnetworks := (WorkerCore.notices_of_step hone).2
  cases action with
  | hear =>
    cases hnotices : middle.notices with
    | nil =>
      rw [core, hnotices] at hmem
      cases hmem
    | cons first rest =>
      rw [core, hnotices] at hmem
      obtain rfl : notice = first := List.mem_singleton.1 hmem
      rw [core, hphase, hnotices] at hone
      rw [core, core, hnotices] at hnetworks
      obtain ⟨hends, hgoesOn⟩ := WorkerCore.ends_of_step (hwritten session hphase) hone
      exact ⟨hnetworks, hends, hgoesOn⟩
  | _ => cases hmem

/-- A notice of the host ends a session only if it changed the set of networks, and makes it wait
for a network only if it is the loss of one in the set. -/
def Undisturbed (engine : Engine) (start : Worker) (run : List (Moment × Action)) : Prop :=
  ∀ hearing ∈ start.hearings engine run, hearing.notice.isHosts = true →
    (hearing.EndsSession → hearing.Changes) ∧ (hearing.EndsOffline → hearing.LosesCounted)

/-- The loss of a network that was not counted disturbs a session, and nothing else does that
changes nothing. -/
theorem undisturbed_iff (hnew : Worker.new settings networks = .ok start)
    (hrun : start.run? engine run = some (worker, shown)) :
    (start.Undisturbed engine run ↔ ∀ hearing ∈ start.hearings engine run,
        hearing.before.runs = true → ¬ hearing.LosesUncounted) ∧
      ∀ hearing ∈ start.hearings engine run,
        hearing.before.runs = true → hearing.LosesUncounted →
          hearing.EndsSession ∧ ¬ hearing.Changes ∧
            (hearing.EndsOffline ↔ hearing.before.control.networks.isEmpty = true) := by
  have hheeded := heeded_of_run hnew hrun
  have hdisturbs : ∀ hearing ∈ start.hearings engine run,
      hearing.before.runs = true → hearing.LosesUncounted →
        hearing.EndsSession ∧ ¬ hearing.Changes ∧
          (hearing.EndsOffline ↔ hearing.before.control.networks.isEmpty = true) :=
    fun hearing hmem hruns => (hheeded hearing hmem hruns).of_losesUncounted hruns
  refine ⟨⟨fun hundisturbed hearing hmem hruns hlost => ?_, fun hcounted hearing hmem hhosts => ?_⟩,
    hdisturbs⟩
  · obtain ⟨hends, hsame, -⟩ := hdisturbs hearing hmem hruns hlost
    have hhosts : hearing.notice.isHosts = true := by
      obtain ⟨network, hnotice, -⟩ := hlost
      rw [hnotice]
      rfl
    exact hsame ((hundisturbed hearing hmem hhosts).1 hends)
  · have hknown (hruns : hearing.before.runs = true) (network : NetworkClass)
        (hnotice : hearing.notice = .networkLost network) :
        hearing.before.control.networks.contains network = true := by
      refine Bool.of_not_eq_false fun hnone => ?_
      exact hcounted hearing hmem hruns ⟨network, hnotice, hnone⟩
    constructor
    · intro hends
      have heeded := hheeded hearing hmem hends.1
      obtain ⟨reason, hreason⟩ := heeded.exists_of_endsSession hends
      rw [Hearing.Changes, heeded.networks]
      exact Control.hear_networks_ne_of_ends hhosts hreason (hknown hends.1)
    · intro hoffline
      have heeded := hheeded hearing hmem hoffline.1
      obtain ⟨network, hnotice⟩ := Hearing.exists_lost_of_sessionEnd?
        ((heeded.endsOffline_iff hoffline.1).1 hoffline)
      exact ⟨network, hnotice, hknown hoffline.1 network hnotice⟩

theorem undisturbed_hearsOldSignals : ∃ start worker shown,
    Worker.new {} (Platform.obliging [.wifi]).networks = .ok start ∧
      start.run? (.ofSettings {}) hearsOldSignals = some (worker, shown) ∧
      start.Undisturbed (.ofSettings {}) hearsOldSignals := by
  have hnew := new_withDefaults (Platform.obliging [.wifi]).networks
  have hruns : ((withDefaults (Platform.obliging [.wifi]).networks).run? (.ofSettings {})
      hearsOldSignals).isSome = true := by
    decide +kernel
  obtain ⟨⟨worker, shown⟩, hrun⟩ := Option.isSome_iff_exists.1 hruns
  refine ⟨_, worker, shown, hnew, hrun, (undisturbed_iff hnew hrun).1.2 ?_⟩
  decide +kernel

/-- On a host with Ethernet the seeded set is empty, and a session is told that there is no mobile
network. -/
def losesUncounted : List (Moment × Action) :=
  (Moment.obliging [.ethernet] 0).takes [.begin, .backoffOver, .penaltyOver, .establish,
    .notify (.networkLost .cellular), .hear, .monitorOver]

theorem not_undisturbed_losesUncounted : ∃ start worker shown,
    Worker.new {} (Platform.obliging [.ethernet]).networks = .ok start ∧
      start.run? (.ofSettings {}) losesUncounted = some (worker, shown) ∧
      .status .waitingForNetwork ∈ shown ∧ ¬ start.Undisturbed (.ofSettings {}) losesUncounted := by
  have hnew := new_withDefaults (Platform.obliging [.ethernet]).networks
  have hruns : ((withDefaults (Platform.obliging [.ethernet]).networks).run? (.ofSettings {})
      losesUncounted).map (fun outcome : Outcome =>
        decide (.status .waitingForNetwork ∈ outcome.2)) = some true := by
    decide +kernel
  obtain ⟨⟨worker, shown⟩, hrun, hwaits⟩ := Option.map_eq_some_iff.1 hruns
  refine ⟨_, worker, shown, hnew, hrun, of_decide_eq_true hwaits, fun hundisturbed => ?_⟩
  have hdisturbs : ∃ hearing ∈ (withDefaults (Platform.obliging [.ethernet]).networks).hearings
      (.ofSettings {}) losesUncounted,
        hearing.notice.isHosts = true ∧ hearing.EndsSession ∧ ¬ hearing.Changes := by
    decide +kernel
  obtain ⟨hearing, hmem, hhosts, hends, hsame⟩ := hdisturbs
  exact hsame ((hundisturbed hearing hmem hhosts).1 hends)

end Worker

end Sinkhole
