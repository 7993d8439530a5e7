import Mathlib
import Sinkhole.Lifecycle.Watchdog

/-! # What the watchdog goes by

The watchdog keeps two instants and a timeout. Run by any sequence of calls it judges as if it had
kept them all: whether a probe is outstanding, and how often probes were tried since the count
began. That needs a clock that does not go back, and a loop that is not called idle at the instant
at which it read a packet, because a packet read at the instant of the probe counts as read after
it.
-/
namespace Sinkhole

inductive WatchdogCall where
  | prepare (enabled : Bool)
  | setTarget (probe resolver : IpAddress)
  | packetRead
  /-- The loop was idle; `send` is what sending a probe gives. -/
  | idle (send : Endpoint → Option IoError)

def WatchdogCall.isIdle : WatchdogCall → Bool
  | .idle _ => true
  | .prepare _ | .setTarget _ _ | .packetRead => false

/-- What a call came to. -/
inductive WatchdogEvent where
  | prepared (enabled : Bool)
  | targeted (target : WatchdogTarget)
  | packetRead
  /-- The loop was idle, with the probes that were tried and the failure that was returned. -/
  | idled (probes : List Endpoint) (failure : Option Error)

namespace WatchdogEvent

def isSent : WatchdogEvent → Bool
  | .idled (_ :: _) none => true
  | _ => false

def probes : WatchdogEvent → List Endpoint
  | .idled probes _ => probes
  | _ => []

def isVerdict : WatchdogEvent → Bool
  | .idled _ (some (.network (.watchdogTimeout _))) => true
  | _ => false

def settles : WatchdogEvent → Bool
  | .prepared _ | .packetRead => true
  | .targeted _ | .idled _ _ => false

def restarts : WatchdogEvent → Bool
  | .prepared _ => true
  | event => event.isVerdict

def enabled? : WatchdogEvent → Option Bool
  | .prepared enabled => some enabled
  | _ => none

def target? : WatchdogEvent → Option WatchdogTarget
  | .targeted target => some target
  | _ => none

end WatchdogEvent

/-- What the calls of a watchdog came to, one after another. -/
abbrev WatchdogLog := List WatchdogEvent

namespace WatchdogLog

def isEnabled (log : WatchdogLog) : Bool :=
  (log.reverse.findSome? WatchdogEvent.enabled?).getD false

def target? (log : WatchdogLog) : Option WatchdogTarget :=
  log.reverse.findSome? WatchdogEvent.target?

/-- A probe was sent since the last preparation, and no packet was read after it. -/
def Outstanding (log : WatchdogLog) : Prop :=
  ∃ earlier sent later, log = earlier ++ sent :: later ∧ sent.isSent = true ∧
    ∀ event ∈ later, event.settles = false

/-- How many probes were tried since the last preparation or verdict. -/
def attempts (log : WatchdogLog) : Nat :=
  ((log.reverse.takeWhile fun event => !event.restarts).flatMap WatchdogEvent.probes).length

variable (log : WatchdogLog) (event : WatchdogEvent)

theorem isEnabled_concat : isEnabled (log ++ [event]) = event.enabled?.getD (isEnabled log) := by
  rw [isEnabled, List.reverse_concat, List.findSome?_cons]
  cases event.enabled? <;> rfl

theorem target?_concat : target? (log ++ [event]) = event.target?.or (target? log) := by
  rw [target?, List.reverse_concat, List.findSome?_cons]
  cases event.target? <;> rfl

theorem attempts_concat :
    attempts (log ++ [event]) =
      if event.restarts then 0 else attempts log + event.probes.length := by
  rw [attempts, List.reverse_concat, List.takeWhile_cons]
  cases event.restarts
  · refine (congrArg List.length List.flatMap_cons).trans ?_
    rw [List.length_append]
    exact Nat.add_comm _ _
  · rfl

variable {log event}

theorem not_outstanding_nil : ¬ Outstanding [] := by
  rintro ⟨earlier, sent, later, heq, -, -⟩
  exact List.append_ne_nil_of_right_ne_nil earlier (List.cons_ne_nil sent later) heq.symm

theorem outstanding_concat_iff :
    Outstanding (log ++ [event]) ↔
      event.isSent = true ∨ event.settles = false ∧ Outstanding log := by
  constructor
  · rintro ⟨earlier, sent, later, heq, hsent, hlater⟩
    rcases List.eq_nil_or_concat later with rfl | ⟨later, last, rfl⟩
    · obtain ⟨-, hlast⟩ := List.append_inj' heq rfl
      obtain rfl := List.singleton_inj.1 hlast
      exact .inl hsent
    · rw [List.concat_eq_append] at heq hlater
      rw [← List.cons_append, ← List.append_assoc] at heq
      obtain ⟨rfl, hlast⟩ := List.append_inj' heq rfl
      obtain rfl := List.singleton_inj.1 hlast
      rw [List.forall_mem_append] at hlater
      exact .inr ⟨hlater.2 event (List.mem_singleton_self event),
        earlier, sent, later, rfl, hsent, hlater.1⟩
  · rintro (hsent | ⟨hsettles, earlier, sent, later, rfl, hsent, hlater⟩)
    · exact ⟨log, event, [], rfl, hsent, fun _ h => absurd h List.not_mem_nil⟩
    · refine ⟨earlier, sent, later ++ [event], List.append_assoc _ _ _, hsent, ?_⟩
      rw [List.forall_mem_append]
      exact ⟨hlater, List.forall_mem_singleton.2 hsettles⟩

end WatchdogLog

namespace Watchdog

variable {watchdog : Watchdog} {target : WatchdogTarget} {now : Nat}
  {send : Endpoint → Option IoError}

section Prepare

variable (watchdog : Watchdog) (enabled : Bool) (now : Nat)

@[simp] theorem enabled_prepare : (watchdog.prepare enabled now).2.enabled = enabled := by
  cases enabled <;> rfl

@[simp] theorem target_prepare : (watchdog.prepare enabled now).2.target = watchdog.target := by
  cases enabled <;> rfl

@[simp] theorem pollTimeout_prepare :
    (watchdog.prepare enabled now).2.pollTimeout = pollTimeoutStart := by
  cases enabled <;> rfl

@[simp] theorem lastSent_prepare : (watchdog.prepare enabled now).2.lastSent = none := by
  cases enabled <;> rfl

@[simp] theorem lastReceived_prepare : (watchdog.prepare enabled now).2.lastReceived = none := by
  cases enabled <;> rfl

end Prepare

section PacketRead

variable (watchdog : Watchdog) (now : Nat)

@[simp] theorem enabled_packetRead : (watchdog.packetRead now).enabled = watchdog.enabled := by
  rw [packetRead]
  split <;> rfl

@[simp] theorem target_packetRead : (watchdog.packetRead now).target = watchdog.target := by
  rw [packetRead]
  split <;> rfl

@[simp] theorem pollTimeout_packetRead :
    (watchdog.packetRead now).pollTimeout = watchdog.pollTimeout := by
  rw [packetRead]
  split <;> rfl

@[simp] theorem lastSent_packetRead : (watchdog.packetRead now).lastSent = watchdog.lastSent := by
  rw [packetRead]
  split <;> rfl

variable {watchdog}

theorem lastReceived_packetRead (h : watchdog.enabled = true) :
    (watchdog.packetRead now).lastReceived = some now := by
  rw [packetRead, if_pos h]

end PacketRead

theorem probeOutstanding_of_unsent (h : watchdog.lastSent = none) :
    watchdog.probeOutstanding = false := by
  rw [probeOutstanding, h]

theorem probeOutstanding_of_le {received sent : Nat}
    (hreceived : watchdog.lastReceived = some received) (hsent : watchdog.lastSent = some sent)
    (hle : sent ≤ received) :
    watchdog.probeOutstanding = false := by
  rw [probeOutstanding, hreceived, hsent]
  exact decide_eq_false (Nat.not_lt.2 hle)

theorem probeOutstanding_of_forall_lt {sent : Nat} (hsent : watchdog.lastSent = some sent)
    (hlt : ∀ received ∈ watchdog.lastReceived, received < sent) :
    watchdog.probeOutstanding = true := by
  rw [probeOutstanding, hsent]
  cases hreceived : watchdog.lastReceived with
  | none => rfl
  | some received => exact decide_eq_true (hlt received hreceived)

theorem idleTimeout_of_disabled (h : watchdog.enabled = false) :
    watchdog.idleTimeout now send = ⟨watchdog, [], none⟩ := by
  rw [idleTimeout, timeout, h]

theorem idleTimeout_of_untargeted (h : watchdog.target = none) :
    watchdog.idleTimeout now send = ⟨watchdog, [], none⟩ := by
  rw [idleTimeout, timeout, h]
  cases watchdog.enabled <;> rfl

theorem idleTimeout_of_outstanding (henabled : watchdog.enabled = true)
    (htarget : watchdog.target = some target) (houtstanding : watchdog.probeOutstanding = true) :
    watchdog.idleTimeout now send =
      ⟨{ watchdog with pollTimeout := pollTimeoutStart }, [],
        some (.network (.watchdogTimeout target.resolver))⟩ := by
  simp only [idleTimeout, timeout, henabled, htarget]
  exact if_pos houtstanding

theorem lastReceived_idleTimeout (watchdog : Watchdog) (now : Nat)
    (send : Endpoint → Option IoError) :
    (watchdog.idleTimeout now send).watchdog.lastReceived = watchdog.lastReceived := by
  rw [idleTimeout, timeout]
  split
  · rfl
  · rfl
  · split
    · rfl
    · dsimp only
      split <;> rfl

theorem lastSent_idleTimeout (watchdog : Watchdog) (now : Nat)
    (send : Endpoint → Option IoError) :
    (watchdog.idleTimeout now send).watchdog.lastSent = watchdog.lastSent ∨
      (watchdog.idleTimeout now send).watchdog.lastSent = some now := by
  rw [idleTimeout, timeout]
  split
  · exact .inl rfl
  · exact .inl rfl
  · split
    · exact .inl rfl
    · dsimp only
      split
      · exact .inl rfl
      · exact .inr rfl

def grownTimeout (timeout : Nat) : Nat :=
  if timeout < pollTimeoutEnd then min (timeout * pollTimeoutGrowth) pollTimeoutEnd else timeout

theorem idleTimeout_of_settled (henabled : watchdog.enabled = true)
    (htarget : watchdog.target = some target) (hsettled : watchdog.probeOutstanding = false) :
    watchdog.idleTimeout now send =
      let grown := { watchdog with pollTimeout := grownTimeout watchdog.pollTimeout }
      match send target.probe with
      | some cause => ⟨grown, [target.probe], some (.network (.sendFailed cause.message))⟩
      | none => ⟨{ grown with lastSent := some now }, [target.probe], none⟩ := by
  simp only [idleTimeout, timeout, henabled, htarget, hsettled]
  rfl

def pollTimeoutAfter (attempts : Nat) : Nat := seconds (min (4 ^ attempts) 4096)

theorem grownTimeout_pollTimeoutAfter (attempts : Nat) :
    grownTimeout (pollTimeoutAfter attempts) = pollTimeoutAfter (attempts + 1) := by
  have hgrowth : pollTimeoutGrowth = 4 := rfl
  have hend : pollTimeoutEnd = 4096 * 1000000000 := rfl
  simp only [grownTimeout, pollTimeoutAfter, seconds, hgrowth, hend, Nat.pow_succ]
  split <;> omega

theorem pollTimeoutAfter_pos (attempts : Nat) : 0 < pollTimeoutAfter attempts := by
  have hpow : 0 < 4 ^ attempts := Nat.pow_pos (by decide)
  simp only [pollTimeoutAfter, seconds]
  omega

theorem pollTimeoutAfter_ne_waiting (attempts : Nat) :
    pollTimeoutAfter attempts ≠ pollTimeoutWaiting := by
  simp only [pollTimeoutAfter, pollTimeoutWaiting, seconds]
  cases attempts with
  | zero => decide
  | succ attempts =>
    rw [Nat.pow_succ]
    omega

end Watchdog

/-- A watchdog with what its calls came to so far. -/
structure WatchdogRun where
  watchdog : Watchdog
  log : WatchdogLog

namespace WatchdogRun

open Watchdog WatchdogLog

def step (run : WatchdogRun) (now : Nat) : WatchdogCall → WatchdogRun
  | .prepare enabled =>
    ⟨(run.watchdog.prepare enabled now).2, run.log ++ [.prepared enabled]⟩
  | .setTarget probe resolver =>
    ⟨run.watchdog.setTarget probe resolver, run.log ++ [.targeted ⟨⟨probe, probePort⟩, resolver⟩]⟩
  | .packetRead => ⟨run.watchdog.packetRead now, run.log ++ [.packetRead]⟩
  | .idle send =>
    let outcome := run.watchdog.idleTimeout now send
    ⟨outcome.watchdog, run.log ++ [.idled outcome.prober outcome.failure]⟩

/-- The run after more calls, each at an instant. -/
def through (run : WatchdogRun) (calls : List (Nat × WatchdogCall)) : WatchdogRun :=
  calls.foldl (fun run call => run.step call.1 call.2) run

def after (calls : List (Nat × WatchdogCall)) : WatchdogRun := through ⟨.initial, []⟩ calls

theorem after_append (calls more : List (Nat × WatchdogCall)) :
    after (calls ++ more) = (after calls).through more :=
  List.foldl_append

theorem after_concat (calls : List (Nat × WatchdogCall)) (now : Nat) (call : WatchdogCall) :
    after (calls ++ [(now, call)]) = (after calls).step now call :=
  after_append calls [(now, call)]

/-- The clock does not go back, and the loop is called idle later than any packet was read. -/
structure OnTime (calls : List (Nat × WatchdogCall)) : Prop where
  clock : calls.Pairwise fun earlier later => earlier.1 ≤ later.1
  idle : calls.Pairwise fun earlier later =>
    earlier.2 = .packetRead → later.2.isIdle = true → earlier.1 < later.1

variable {run : WatchdogRun} {now : Nat} {call : WatchdogCall}
  {calls : List (Nat × WatchdogCall)}

/-- What the watchdog keeps is what its log says. -/
structure Coherent (run : WatchdogRun) : Prop where
  enabled : run.watchdog.enabled = run.log.isEnabled
  target : run.watchdog.target = run.log.target?
  pollTimeout : run.watchdog.pollTimeout = pollTimeoutAfter run.log.attempts
  outstanding_iff : run.watchdog.probeOutstanding = true ↔ run.log.Outstanding
  unsent : run.watchdog.enabled = false → run.watchdog.lastSent = none

/-- A call at an instant that the watchdog can tell from those it keeps. -/
structure InTime (run : WatchdogRun) (now : Nat) (call : WatchdogCall) : Prop where
  sent_le : ∀ sent ∈ run.watchdog.lastSent, sent ≤ now
  received_lt : call.isIdle = true → ∀ received ∈ run.watchdog.lastReceived, received < now

theorem coherent_nil : Coherent (after []) where
  enabled := rfl
  target := rfl
  pollTimeout := rfl
  outstanding_iff := iff_of_false Bool.false_ne_true not_outstanding_nil
  unsent := fun _ => rfl

theorem Coherent.concat {watchdog : Watchdog} {log : WatchdogLog} {event : WatchdogEvent}
    (henabled : watchdog.enabled = event.enabled?.getD log.isEnabled)
    (htarget : watchdog.target = event.target?.or log.target?)
    (htimeout : watchdog.pollTimeout = pollTimeoutAfter
      (if event.restarts then 0 else log.attempts + event.probes.length))
    (houtstanding : watchdog.probeOutstanding = true ↔
      event.isSent = true ∨ event.settles = false ∧ log.Outstanding)
    (hunsent : watchdog.enabled = false → watchdog.lastSent = none) :
    Coherent ⟨watchdog, log ++ [event]⟩ where
  enabled := henabled.trans (isEnabled_concat log event).symm
  target := htarget.trans (target?_concat log event).symm
  pollTimeout := by rw [attempts_concat]; exact htimeout
  outstanding_iff := houtstanding.trans outstanding_concat_iff.symm
  unsent := hunsent

theorem outstanding_iff_of_settles {watchdog : Watchdog} {log : WatchdogLog}
    {event : WatchdogEvent} (hsettled : watchdog.probeOutstanding = false)
    (hsent : event.isSent = false) (hsettles : event.settles = true) :
    watchdog.probeOutstanding = true ↔
      event.isSent = true ∨ event.settles = false ∧ log.Outstanding := by
  simp [hsettled, hsent, hsettles]

theorem Coherent.outstanding_iff_of_same (h : run.Coherent) {watchdog : Watchdog}
    {event : WatchdogEvent} (hsame : watchdog.probeOutstanding = run.watchdog.probeOutstanding)
    (hsent : event.isSent = false) (hsettles : event.settles = false) :
    watchdog.probeOutstanding = true ↔
      event.isSent = true ∨ event.settles = false ∧ run.log.Outstanding := by
  rw [hsame, h.outstanding_iff]
  simp [hsent, hsettles]

theorem Coherent.prepared (h : run.Coherent) (enabled : Bool) :
    (run.step now (.prepare enabled)).Coherent := by
  refine .concat ?_ ?_ ?_ ?_ ?_
  · exact enabled_prepare _ _ _
  · rw [target_prepare, h.target]
    rfl
  · exact pollTimeout_prepare _ _ _
  · exact outstanding_iff_of_settles (probeOutstanding_of_unsent (lastSent_prepare _ _ _)) rfl rfl
  · exact fun _ => lastSent_prepare _ _ _

/-- A packet that is read at the instant of the probe was read after it. -/
theorem Coherent.packetRead (h : run.Coherent) (htime : run.InTime now .packetRead) :
    (run.step now .packetRead).Coherent := by
  have hsettled : (run.watchdog.packetRead now).probeOutstanding = false := by
    cases hsent : run.watchdog.lastSent with
    | none => exact probeOutstanding_of_unsent ((lastSent_packetRead _ _).trans hsent)
    | some sent =>
      have henabled : run.watchdog.enabled = true := by
        by_contra hdisabled
        rw [h.unsent (Bool.eq_false_iff.2 hdisabled)] at hsent
        cases hsent
      exact probeOutstanding_of_le (lastReceived_packetRead now henabled)
        ((lastSent_packetRead _ _).trans hsent) (htime.sent_le sent hsent)
  refine .concat ?_ ?_ ?_ (outstanding_iff_of_settles hsettled rfl rfl) ?_
  · exact (enabled_packetRead _ _).trans h.enabled
  · exact (target_packetRead _ _).trans h.target
  · exact (pollTimeout_packetRead _ _).trans h.pollTimeout
  · rw [enabled_packetRead, lastSent_packetRead]
    exact h.unsent

theorem Coherent.targeted (h : run.Coherent) (probe resolver : IpAddress) :
    (run.step now (.setTarget probe resolver)).Coherent :=
  .concat h.enabled rfl h.pollTimeout (h.outstanding_iff_of_same rfl rfl rfl) h.unsent

theorem Coherent.idled (h : run.Coherent) {send : Endpoint → Option IoError}
    (htime : run.InTime now (.idle send)) : (run.step now (.idle send)).Coherent := by
  have hignored : Coherent ⟨run.watchdog, run.log ++ [.idled [] none]⟩ :=
    .concat h.enabled h.target h.pollTimeout (h.outstanding_iff_of_same rfl rfl rfl) h.unsent
  rw [step]
  cases henabled : run.watchdog.enabled with
  | false =>
    rw [idleTimeout_of_disabled henabled]
    exact hignored
  | true =>
    cases htarget : run.watchdog.target with
    | none =>
      rw [idleTimeout_of_untargeted htarget]
      exact hignored
    | some target =>
      cases houtstanding : run.watchdog.probeOutstanding with
      | true =>
        rw [idleTimeout_of_outstanding henabled htarget houtstanding]
        exact .concat h.enabled h.target rfl (h.outstanding_iff_of_same rfl rfl rfl) h.unsent
      | false =>
        have hgrown : grownTimeout run.watchdog.pollTimeout =
            pollTimeoutAfter (run.log.attempts + 1) := by
          rw [h.pollTimeout, grownTimeout_pollTimeoutAfter]
        rw [idleTimeout_of_settled henabled htarget houtstanding]
        cases send target.probe with
        | some cause =>
          exact .concat h.enabled h.target hgrown (h.outstanding_iff_of_same rfl rfl rfl) h.unsent
        | none =>
          refine .concat h.enabled h.target hgrown ?_ ?_
          · exact iff_of_true (probeOutstanding_of_forall_lt rfl (htime.received_lt rfl)) (.inl rfl)
          · intro hdisabled
            cases henabled.symm.trans hdisabled

theorem Coherent.step (h : run.Coherent) (htime : run.InTime now call) :
    (run.step now call).Coherent := by
  cases call with
  | prepare enabled => exact h.prepared enabled
  | setTarget probe resolver => exact h.targeted probe resolver
  | packetRead => exact h.packetRead htime
  | idle send => exact h.idled htime

/-- The instants that the watchdog keeps are those of calls. -/
structure StampedBy (run : WatchdogRun) (calls : List (Nat × WatchdogCall)) : Prop where
  sent : ∀ sent ∈ run.watchdog.lastSent, ∃ call, (sent, call) ∈ calls
  received : ∀ received ∈ run.watchdog.lastReceived, (received, .packetRead) ∈ calls

theorem StampedBy.step (h : run.StampedBy calls) (now : Nat) (call : WatchdogCall) :
    (run.step now call).StampedBy (calls ++ [(now, call)]) := by
  have hsent : ∀ sent ∈ run.watchdog.lastSent,
      ∃ earlier, (sent, earlier) ∈ calls ++ [(now, call)] := by
    intro sent hsent
    obtain ⟨earlier, hearlier⟩ := h.sent sent hsent
    exact ⟨earlier, List.mem_append_left _ hearlier⟩
  have hreceived : ∀ received ∈ run.watchdog.lastReceived,
      (received, .packetRead) ∈ calls ++ [(now, call)] :=
    fun received hreceived => List.mem_append_left _ (h.received received hreceived)
  have hlast : (now, call) ∈ calls ++ [(now, call)] := List.mem_concat_self
  cases call with
  | prepare enabled =>
    refine ⟨?_, ?_⟩
    · rw [WatchdogRun.step, lastSent_prepare]
      exact nofun
    · rw [WatchdogRun.step, lastReceived_prepare]
      exact nofun
  | setTarget probe resolver => exact ⟨hsent, hreceived⟩
  | packetRead =>
    refine ⟨?_, ?_⟩
    · rw [WatchdogRun.step, lastSent_packetRead]
      exact hsent
    · rw [WatchdogRun.step, Watchdog.packetRead]
      split
      · rintro received ⟨⟩
        exact hlast
      · exact hreceived
  | idle send =>
    refine ⟨?_, ?_⟩
    · rw [WatchdogRun.step]
      rcases lastSent_idleTimeout run.watchdog now send with hsame | hnow
      · rw [hsame]
        exact hsent
      · rw [hnow]
        rintro sent ⟨⟩
        exact ⟨_, hlast⟩
    · rw [WatchdogRun.step, lastReceived_idleTimeout]
      exact hreceived

theorem stampedBy_after (calls : List (Nat × WatchdogCall)) : (after calls).StampedBy calls := by
  induction calls using List.reverseRecOn with
  | nil => exact ⟨nofun, nofun⟩
  | append_singleton calls entry ih =>
    obtain ⟨now, call⟩ := entry
    rw [after_concat]
    exact ih.step now call

theorem OnTime.init (h : OnTime (calls ++ [(now, call)])) : OnTime calls :=
  ⟨(List.pairwise_append.1 h.clock).1, (List.pairwise_append.1 h.idle).1⟩

theorem OnTime.concat (h : OnTime calls) (hclock : ∀ earlier ∈ calls, earlier.1 ≤ now)
    (hidle : call.isIdle = true → ∀ read, (read, .packetRead) ∈ calls → read < now) :
    OnTime (calls ++ [(now, call)]) := by
  refine ⟨?_, ?_⟩
  · refine List.pairwise_append.2 ⟨h.clock, List.pairwise_singleton _ _, ?_⟩
    intro earlier hearlier later hlater
    obtain rfl := List.mem_singleton.1 hlater
    exact hclock earlier hearlier
  · refine List.pairwise_append.2 ⟨h.idle, List.pairwise_singleton _ _, ?_⟩
    rintro ⟨read, earlier⟩ hearlier later hlater hread
    obtain rfl := List.mem_singleton.1 hlater
    rw [show earlier = .packetRead from hread] at hearlier
    exact fun hisIdle => hidle hisIdle read hearlier

theorem OnTime.inTime (h : OnTime (calls ++ [(now, call)])) : (after calls).InTime now call := by
  have hstamped := stampedBy_after calls
  refine ⟨?_, ?_⟩
  · intro sent hsent
    obtain ⟨earlier, hearlier⟩ := hstamped.sent sent hsent
    exact (List.pairwise_append.1 h.clock).2.2 _ hearlier _ (List.mem_singleton_self _)
  · intro hidle received hreceived
    exact (List.pairwise_append.1 h.idle).2.2 _ (hstamped.received received hreceived) _
      (List.mem_singleton_self _) rfl hidle

theorem coherent_after (h : OnTime calls) : (after calls).Coherent := by
  induction calls using List.reverseRecOn with
  | nil => exact coherent_nil
  | append_singleton calls entry ih =>
    obtain ⟨now, call⟩ := entry
    rw [after_concat]
    exact (ih h.init).step h.inTime

/-- What the watchdog does when the loop is idle, and how long it lets the loop be idle, told from
what its calls came to. -/
structure GoesByLog (run : WatchdogRun) : Prop where
  disabled : run.log.isEnabled = false → run.watchdog.idleLimit = none ∧
    ∀ now send, run.watchdog.idleTimeout now send = ⟨run.watchdog, [], none⟩
  verdict_iff : run.log.isEnabled = true → ∀ target ∈ run.log.target?, ∀ now send,
    (run.watchdog.idleTimeout now send).failure =
      some (.network (.watchdogTimeout target.resolver)) ↔ run.log.Outstanding
  verdict_silent : run.log.isEnabled = true → run.log.Outstanding → ∀ now send,
    (run.watchdog.idleTimeout now send).prober = []
  probes : run.log.isEnabled = true → ¬ run.log.Outstanding → ∀ target ∈ run.log.target?,
    ∀ now send, (run.watchdog.idleTimeout now send).prober = [target.probe] ∧
      (run.watchdog.idleTimeout now send).failure =
        (send target.probe).map fun cause => .network (.sendFailed cause.message)
  waiting_iff : run.log.isEnabled = true →
    (run.watchdog.idleLimit = some (seconds 7) ↔ run.log.Outstanding)
  grows : run.log.isEnabled = true → ¬ run.log.Outstanding →
    run.watchdog.idleLimit = some (seconds (min (4 ^ run.log.attempts) 4096))

theorem Coherent.idleLimit_eq (h : run.Coherent) (henabled : run.log.isEnabled = true) :
    run.watchdog.idleLimit =
      some (if run.watchdog.probeOutstanding then pollTimeoutWaiting
        else pollTimeoutAfter run.log.attempts) := by
  rw [← h.enabled] at henabled
  rw [idleLimit, ← h.pollTimeout]
  cases run.watchdog.probeOutstanding <;> simp [henabled]

theorem Coherent.idleLimit_pos (h : run.Coherent) :
    ∀ limit ∈ run.watchdog.idleLimit, 0 < limit := by
  intro limit hlimit
  rw [idleLimit, h.pollTimeout] at hlimit
  split at hlimit
  · cases hlimit
  · split at hlimit
    · rw [← Option.mem_some_iff.1 hlimit]
      decide
    · rw [← Option.mem_some_iff.1 hlimit]
      exact pollTimeoutAfter_pos _

theorem Coherent.goesByLog (h : run.Coherent) : run.GoesByLog := by
  have hsettled : ¬ run.log.Outstanding → run.watchdog.probeOutstanding = false := by
    intro hnot
    rw [← h.outstanding_iff] at hnot
    exact Bool.eq_false_iff.2 hnot
  refine ⟨?_, ?_, ?_, ?_, ?_, ?_⟩
  · intro hdisabled
    rw [← h.enabled] at hdisabled
    refine ⟨?_, fun now send => idleTimeout_of_disabled hdisabled⟩
    rw [idleLimit, hdisabled]
    rfl
  · intro henabled target htarget now send
    rw [← h.enabled] at henabled
    rw [← h.target] at htarget
    by_cases houtstanding : run.log.Outstanding
    · rw [idleTimeout_of_outstanding henabled htarget (h.outstanding_iff.2 houtstanding)]
      exact iff_of_true rfl houtstanding
    · rw [idleTimeout_of_settled henabled htarget (hsettled houtstanding)]
      refine iff_of_false ?_ houtstanding
      cases send target.probe with
      | none => exact nofun
      | some cause => exact nofun
  · intro henabled houtstanding now send
    rw [← h.enabled] at henabled
    cases htarget : run.watchdog.target with
    | none => rw [idleTimeout_of_untargeted htarget]
    | some target =>
      rw [idleTimeout_of_outstanding henabled htarget (h.outstanding_iff.2 houtstanding)]
  · intro henabled hnot target htarget now send
    rw [← h.enabled] at henabled
    rw [← h.target] at htarget
    rw [idleTimeout_of_settled henabled htarget (hsettled hnot)]
    cases send target.probe with
    | none => exact ⟨rfl, rfl⟩
    | some cause => exact ⟨rfl, rfl⟩
  · intro henabled
    rw [h.idleLimit_eq henabled, ← h.outstanding_iff, Option.some.injEq]
    by_cases houtstanding : run.watchdog.probeOutstanding = true
    · rw [if_pos houtstanding]
      exact iff_of_true rfl houtstanding
    · rw [if_neg houtstanding]
      exact iff_of_false (pollTimeoutAfter_ne_waiting _) houtstanding
  · intro henabled hnot
    rw [h.idleLimit_eq henabled, if_neg (Bool.eq_false_iff.1 (hsettled hnot)), pollTimeoutAfter]

theorem goesByLog_after (h : OnTime calls) : (after calls).GoesByLog :=
  (coherent_after h).goesByLog

end WatchdogRun

end Sinkhole
