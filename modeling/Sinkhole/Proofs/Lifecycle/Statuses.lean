import Sinkhole.Proofs.Lifecycle.Steps

/-! # The language of statuses

Whatever happens to the engine, the statuses that it reports form a word of a regular language: it
starts, comes back from failures, reconnections and losses of the network any number of times, and
stops, in the middle of a session or outside of any. A run that is not over has reported the
beginning of such a word. Each reconnection is counted under the reason that the statuses tell.
-/
namespace Sinkhole

open Computability

def Effect.status? : Effect → Option Status
  | .status reported => some reported
  | .counted _ | .configured _ | .written _ => none

def statuses (shown : List Effect) : List Status := shown.filterMap Effect.status?

def countAfter (first second : Status) (word : List Status) : Nat :=
  (word.zip word.tail).count (first, second)

/-- What is reported from one attempt to connect to the next. -/
def reconnectionWords : Language Status :=
  {[.reconnectingNetworkError], [.running, .reconnectingNetworkError], [.running, .reconnecting],
    [.running, .waitingForNetwork, .reconnecting]}

/-- What is reported before the worker tries to connect. -/
def attemptWords : Language Status := {[.starting]} * reconnectionWords∗

/-- What is reported of the last session before the engine stops. -/
def lastSessionWords : Language Status := {[], [.running], [.running, .waitingForNetwork]}

def completeWords : Language Status :=
  attemptWords * lastSessionWords * {[.stopping, .stopped]}

def WorkerPhase.words : WorkerPhase → Language Status
  | .created => {[]}
  | .backingOff _ | .servingPenalty _ | .establishing => attemptWords
  | .running _ | .closing _ _ => attemptWords * {[.running]}
  | .waitingForNetwork => attemptWords * {[.running, .waitingForNetwork]}
  | .finished => completeWords

/-- The reconnections for a reason that the statuses tell. -/
def ReconnectReason.told : ReconnectReason → List Status → Nat
  | .requested, word => countAfter .running .reconnecting word
  | .error, word => word.count .reconnectingNetworkError
  | .network, word => countAfter .waitingForNetwork .reconnecting word

section Words

variable {word block : List Status} {first second status : Status} {reason : ReconnectReason}

theorem statuses_append (front back : List Effect) :
    statuses (front ++ back) = statuses front ++ statuses back := List.filterMap_append

theorem starting_mem_attemptWords : [.starting] ∈ attemptWords :=
  ⟨[.starting], rfl, [], Language.nil_mem_kstar reconnectionWords, rfl⟩

theorem append_mem_attemptWords (hword : word ∈ attemptWords) (hblock : block ∈ reconnectionWords) :
    word ++ block ∈ attemptWords := by
  have hle : attemptWords * reconnectionWords ≤ attemptWords := by
    rw [attemptWords, mul_assoc]
    exact mul_le_mul_right (kstar_mul_le_kstar) _
  exact hle (Language.append_mem_mul hword hblock)

theorem mem_mul_singleton_iff {words : Language Status} :
    word ∈ words * {block} ↔ ∃ front ∈ words, word = front ++ block := by
  constructor
  · rintro ⟨front, hfront, back, hback, rfl⟩
    exact ⟨front, hfront, by rw [Set.mem_singleton_iff.1 hback]⟩
  · rintro ⟨front, hfront, rfl⟩
    exact Language.append_mem_mul hfront rfl

theorem mul_singleton_le (hblock : block ∈ lastSessionWords) :
    attemptWords * {block} ≤ attemptWords * lastSessionWords := by
  have hle : ({block} : Language Status) ≤ lastSessionWords := Set.singleton_subset_iff.2 hblock
  exact mul_le_mul_right hle _

theorem attemptWords_le : attemptWords ≤ attemptWords * lastSessionWords :=
  fun word hword => ⟨word, hword, [], .inl rfl, List.append_nil word⟩

theorem countAfter_cons_cons (third : Status) :
    countAfter first second (status :: third :: word) =
      countAfter first second (third :: word) +
        if (status, third) = (first, second) then 1 else 0 := by
  simp only [countAfter, List.tail_cons, List.zip_cons_cons, List.count_cons, beq_iff_eq]

theorem countAfter_concat :
    countAfter first second (word ++ [status]) =
      countAfter first second word +
        if word.getLast? = some first ∧ status = second then 1 else 0 := by
  induction word with
  | nil => simp [countAfter]
  | cons head rest ih =>
    cases rest with
    | nil => simp [countAfter, List.count_cons]
    | cons next rest =>
      rw [List.cons_append, List.cons_append, countAfter_cons_cons, ← List.cons_append, ih,
        countAfter_cons_cons, List.getLast?_cons_cons]
      omega

theorem told_concat_of_ne (hreconnecting : status ≠ .reconnecting)
    (herror : status ≠ .reconnectingNetworkError) : reason.told (word ++ [status]) =
      reason.told word := by
  cases reason <;>
    simp [ReconnectReason.told, countAfter_concat, hreconnecting, herror]

theorem told_concat_running (hlast : word.getLast? = some .running) :
    reason.told (word ++ [.reconnecting]) =
      reason.told word + if reason = .requested then 1 else 0 := by
  cases reason <;> simp [ReconnectReason.told, countAfter_concat, hlast]

theorem told_concat_waiting (hlast : word.getLast? = some .waitingForNetwork) :
    reason.told (word ++ [.reconnecting]) =
      reason.told word + if reason = .network then 1 else 0 := by
  cases reason <;> simp [ReconnectReason.told, countAfter_concat, hlast]

theorem told_concat_error :
    reason.told (word ++ [.reconnectingNetworkError]) =
      reason.told word + if reason = .error then 1 else 0 := by
  cases reason <;> simp [ReconnectReason.told, countAfter_concat]

end Words

/-- Whatever was reported up to a phase, what is reported on the way to the next one goes with it,
and tells the reconnections that are counted. -/
def Leads (phase : WorkerPhase) (later : List Effect) (next : WorkerPhase) : Prop :=
  ∀ word ∈ phase.words, word ++ statuses later ∈ next.words ∧
    ∀ reason : ReconnectReason, reason.told (word ++ statuses later) =
      reason.told word + later.count (.counted (.reconnects reason))

namespace WorkerCore

variable {core after : WorkerCore} {action : Action} {phase : WorkerPhase} {stop : Bool}
  {effects : List Effect}

theorem statuses_of_quiet (hquiet : ∀ effect ∈ effects, effect.isQuiet) :
    statuses effects = [] := by
  refine List.filterMap_eq_nil_iff.2 fun effect heffect => ?_
  have hone := hquiet effect heffect
  cases effect with
  | status reported => cases hone
  | _ => rfl

theorem count_of_quiet (hquiet : ∀ effect ∈ effects, effect.isQuiet) (reason : ReconnectReason) :
    effects.count (.counted (.reconnects reason)) = 0 := by
  refine List.count_eq_zero_of_not_mem fun hmem => ?_
  cases hquiet _ hmem

theorem leads_of_quiet (hquiet : ∀ effect ∈ effects, effect.isQuiet) {next : WorkerPhase}
    (hwords : phase.words = next.words) : Leads phase effects next := by
  intro word hword
  rw [statuses_of_quiet hquiet, List.append_nil, ← hwords]
  exact ⟨hword, fun reason => by rw [count_of_quiet hquiet, Nat.add_zero]⟩

theorem leads_of_turn {session : LiveSession} (hturn : Turn phase effects) :
    Leads (.running session) effects phase := by
  cases hturn with
  | goesOn _ hquiet => exact leads_of_quiet hquiet rfl
  | fails _ hquiet => exact leads_of_quiet hquiet rfl

theorem count_reconnects (cause reason : ReconnectReason) (reported : Status) :
    [Effect.counted (.reconnects cause), .status reported].count (.counted (.reconnects reason)) =
      if reason = cause then 1 else 0 := by
  cases cause <;> cases reason <;> rfl

theorem leads_of_reconnect {cause : ReconnectReason} {reported : Status} {last : List Status}
    (deadline : Nat) (hwords : phase.words = attemptWords * {last})
    (hblock : last ++ [reported] ∈ reconnectionWords)
    (htold : ∀ (front : List Status) (reason : ReconnectReason),
      reason.told (front ++ last ++ [reported]) =
        reason.told (front ++ last) + if reason = cause then 1 else 0) :
    Leads phase [.counted (.reconnects cause), .status reported] (.backingOff deadline) := by
  intro word hword
  rw [hwords] at hword
  obtain ⟨front, hfront, rfl⟩ := mem_mul_singleton_iff.1 hword
  have hnext := append_mem_attemptWords hfront hblock
  rw [← List.append_assoc] at hnext
  exact ⟨hnext, fun reason => (count_reconnects cause reason reported).symm ▸ htold front reason⟩

theorem leads_of_stopped (hwords : phase.words ≤ attemptWords * lastSessionWords) :
    Leads phase [.status .stopping, .status .stopped] .finished := by
  intro word hword
  have hreported : statuses [.status .stopping, .status .stopped] = [.stopping] ++ [.stopped] := rfl
  rw [hreported]
  refine ⟨Language.append_mem_mul (hwords hword) (Set.mem_singleton _), fun reason => ?_⟩
  have hcount : [Effect.status .stopping, .status .stopped].count (.counted (.reconnects reason)) =
      0 := List.count_eq_zero_of_not_mem (by simp)
  rw [hcount, Nat.add_zero, ← List.append_assoc]
  exact (told_concat_of_ne (by decide) (by decide)).trans
    (told_concat_of_ne (by decide) (by decide))

theorem words_le_of_running (session : LiveSession) :
    (WorkerPhase.running session).words ≤ attemptWords * lastSessionWords :=
  mul_singleton_le (.inr (.inl rfl))

theorem words_le_of_idle (hidle : phase.isIdle = true) :
    phase.words ≤ attemptWords * lastSessionWords := by
  cases phase with
  | backingOff deadline => exact attemptWords_le
  | servingPenalty deadline => exact attemptWords_le
  | waitingForNetwork => exact mul_singleton_le (.inr (.inr rfl))
  | _ => cases hidle

theorem leads_of_closed {session : LiveSession} {outcome : Except Error SessionEnd}
    (hafter : AfterSession stop outcome phase effects) :
    Leads (.closing session outcome) effects phase := by
  cases hafter with
  | stopped => exact leads_of_stopped (words_le_of_running session)
  | interrupted _ => exact leads_of_stopped (words_le_of_running session)
  | gaveUp _ _ => exact leads_of_stopped (words_le_of_running session)
  | networkLost =>
    intro word hword
    obtain ⟨front, hfront, rfl⟩ := mem_mul_singleton_iff.1 hword
    refine ⟨mem_mul_singleton_iff.2 ⟨front, hfront, List.append_assoc _ _ _⟩, fun reason => ?_⟩
    exact told_concat_of_ne (by decide) (by decide)
  | requested deadline =>
    exact leads_of_reconnect deadline rfl (.inr (.inr (.inl rfl)))
      fun _ _ => told_concat_running List.getLast?_concat
  | failed _ _ deadline =>
    exact leads_of_reconnect deadline rfl (.inr (.inl rfl)) fun _ _ => told_concat_error

theorem leads_of_notEstablished {error : Error} {trace : BuilderTrace}
    (hafter : AfterSession stop (.error error) phase effects) :
    Leads .establishing (.configured trace :: effects) phase := by
  -- The configuration of the tunnel is neither a status nor a reconnection.
  suffices hwithout : Leads .establishing effects phase by
    intro word hword
    obtain ⟨hmem, htold⟩ := hwithout word hword
    have hcount (reason : ReconnectReason) : (Effect.configured trace :: effects).count
        (.counted (.reconnects reason)) = effects.count (.counted (.reconnects reason)) :=
      List.count_cons_of_ne (by simp)
    exact ⟨hmem, fun reason => (hcount reason).symm ▸ htold reason⟩
  cases hafter with
  | interrupted _ => exact leads_of_stopped attemptWords_le
  | gaveUp _ _ => exact leads_of_stopped attemptWords_le
  | failed _ _ deadline =>
    have hwords : (WorkerPhase.establishing).words = attemptWords * {[]} :=
      (mul_one attemptWords).symm
    exact leads_of_reconnect deadline hwords (.inl rfl) fun _ _ => told_concat_error

/-- What was reported is a word that the phase stands for, and every reconnection is counted. -/
def Reported (core : WorkerCore) (shown : List Effect) : Prop :=
  statuses shown ∈ core.phase.words ∧ ∀ reason : ReconnectReason,
    reason.told (statuses shown) = shown.count (.counted (.reconnects reason))

/-- Each step leads from what its phase stands for to what the next one stands for. -/
theorem leads_of_step (hstep : Step core action after effects) :
    Leads core.phase effects after.phase := by
  cases hstep with
  | begun deadline =>
    intro word hword
    obtain rfl : word = [] := hword
    exact ⟨starting_mem_attemptWords, fun reason => by cases reason <;> rfl⟩
  | stoppedIdle hidle => exact leads_of_stopped (words_le_of_idle hidle)
  | heard _ hturn _ => exact leads_of_turn hturn
  | networkReturned deadline =>
    exact leads_of_reconnect deadline rfl (.inr (.inr (.inr rfl))) fun _ _ =>
      told_concat_waiting (List.getLast?_append_of_ne_nil _ (List.cons_ne_nil _ _))
  | established _ =>
    intro word hword
    exact ⟨mem_mul_singleton_iff.2 ⟨word, hword, rfl⟩,
      fun reason => told_concat_of_ne (by decide) (by decide)⟩
  | notEstablished _ hafter => exact leads_of_notEstablished hafter
  | looped hturn => exact leads_of_turn hturn
  | closed hafter => exact leads_of_closed hafter
  | _ => exact leads_of_quiet Worker.isQuiet_nil rfl

theorem reported_of_step {shown : List Effect} (hbefore : core.Reported shown)
    (hstep : Step core action after effects) : after.Reported (shown ++ effects) := by
  obtain ⟨hmem, htold⟩ := hbefore
  obtain ⟨hnext, hlater⟩ := leads_of_step hstep _ hmem
  refine ⟨by rwa [statuses_append], fun reason => ?_⟩
  rw [statuses_append, hlater reason, htold reason, List.count_append]

theorem exists_completeWord {word : List Status} (hword : word ∈ phase.words) :
    ∃ rest, word ++ rest ∈ completeWords := by
  have hstops (hwords : phase.words ≤ attemptWords * lastSessionWords) :
      ∃ rest, word ++ rest ∈ completeWords :=
    ⟨[.stopping, .stopped], Language.append_mem_mul (hwords hword) rfl⟩
  cases phase with
  | created =>
    obtain rfl : word = [] := hword
    have hstops := Language.append_mem_mul (attemptWords_le starting_mem_attemptWords)
      (Set.mem_singleton [Status.stopping, Status.stopped])
    exact ⟨_, hstops⟩
  | backingOff deadline => exact hstops attemptWords_le
  | servingPenalty deadline => exact hstops attemptWords_le
  | establishing => exact hstops attemptWords_le
  | running session => exact hstops (words_le_of_running session)
  | closing session outcome => exact hstops (words_le_of_running session)
  | waitingForNetwork => exact hstops (words_le_of_idle rfl)
  | finished => exact ⟨[], by rwa [List.append_nil]⟩

end WorkerCore

namespace Worker

variable {settings : Settings} {networks : List Network} {start last : Worker}
  {actions : List (Moment × Action)} {shown : List Effect}

theorem reported_of_run {engine : Engine} (hnew : Worker.new settings networks = .ok start)
    (hrun : start.run? engine actions = some (last, shown)) : last.core.Reported shown := by
  refine run_induction (fun _ core shown => core.Reported shown) ?_ ?_ hrun
  · rw [core_new hnew]
    exact ⟨rfl, fun reason => by cases reason <;> rfl⟩
  · exact fun hbefore hstep => WorkerCore.reported_of_step hbefore hstep

/-- The language of statuses. A run that has finished has reported a complete word, any run the
beginning of one, and each reconnection is counted under the reason that the statuses tell. -/
theorem statuses_language {engine : Engine} (hnew : Worker.new settings networks = .ok start)
    (hrun : start.run? engine actions = some (last, shown)) :
    (last.hasFinished = true → statuses shown ∈ completeWords) ∧
      (∃ rest, statuses shown ++ rest ∈ completeWords) ∧
      shown.count (.counted (.reconnects .requested)) =
        countAfter .running .reconnecting (statuses shown) ∧
      shown.count (.counted (.reconnects .error)) =
        (statuses shown).count .reconnectingNetworkError ∧
      shown.count (.counted (.reconnects .network)) =
        countAfter .waitingForNetwork .reconnecting (statuses shown) := by
  obtain ⟨hmem, htold⟩ := reported_of_run hnew hrun
  refine ⟨fun hfinished => ?_, WorkerCore.exists_completeWord hmem, (htold .requested).symm,
    (htold .error).symm, (htold .network).symm⟩
  change statuses shown ∈ last.phase.words at hmem
  rw [hasFinished] at hfinished
  cases hphase : last.phase with
  | finished => rwa [hphase] at hmem
  | _ => simp only [hphase, Bool.false_eq_true] at hfinished

/-- A session loses one of two networks, the next one cannot read its tunnel, the third loses the
only network for a while, and the last one is told to stop. -/
def fourSessions : List (Moment × Action) :=
  let happens (now : Nat) := (Moment.obliging [.wifi, .cellular] (seconds now)).takes
  let connects : List Action := [.backoffOver, .penaltyOver, .establish]
  happens 0 (.begin :: connects) ++
    happens 5 ([.notify (.networkLost .cellular), .hear, .monitorOver] ++ connects) ++
    happens 10 ([.event (.readFailed (.other "failure")), .monitorOver] ++ connects) ++
    happens 15 [.notify (.networkLost .wifi), .hear, .monitorOver] ++
    happens 20 ([.notify (.networkAvailable .wifi), .hear] ++ connects) ++
    happens 25 [.requestStop, .takeStop, .monitorOver]

theorem statuses_language_fourSessions : ∃ start last shown,
    Worker.new {} (Platform.obliging [.wifi, .cellular]).networks = .ok start ∧
      start.run? (.ofSettings {}) fourSessions = some (last, shown) ∧
      statuses shown = [.starting, .running, .reconnecting, .running, .reconnectingNetworkError,
        .running, .waitingForNetwork, .reconnecting, .running, .stopping, .stopped] ∧
      statuses shown ∈ completeWords ∧ shown.count (.counted (.reconnects .error)) = 1 := by
  have hnew := new_withDefaults (Platform.obliging [.wifi, .cellular]).networks
  have hruns : ((withDefaults (Platform.obliging [.wifi, .cellular]).networks).run?
      (.ofSettings {}) fourSessions).map
        (fun outcome => (outcome.1.hasFinished, statuses outcome.2)) =
      some (true, [.starting, .running, .reconnecting, .running, .reconnectingNetworkError,
        .running, .waitingForNetwork, .reconnecting, .running, .stopping, .stopped]) := by
    decide +kernel
  obtain ⟨⟨last, shown⟩, hrun, heq⟩ := Option.map_eq_some_iff.1 hruns
  obtain ⟨hfinished, hstatuses⟩ := Prod.mk.inj heq
  obtain ⟨hcomplete, -, -, herror, -⟩ := statuses_language hnew hrun
  refine ⟨_, last, shown, hnew, hrun, hstatuses, hcomplete hfinished, ?_⟩
  rw [herror, hstatuses]
  rfl

end Worker

end Sinkhole
