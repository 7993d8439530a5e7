import Sinkhole.Proofs.Forwarding.Fates
import Sinkhole.Proofs.Proxy.Requests

/-! # Which queries an addition keeps

Unless the clock goes back, pending queries stand in the order of the instants at which they were
added, whatever else happens to the tracker. The oldest ones that have waited too long are then all
that have, so that an addition keeps exactly the others, but for the oldest of these when they leave
no room.
-/
namespace Sinkhole

namespace Tracker

variable {ρ : Type}

/-- The queries that have not waited too long. -/
def youngAt (now : Nat) (queries : List (PendingQuery ρ)) : List (PendingQuery ρ) :=
  queries.filter fun query => decide (now - query.created ≤ queryTimeout)

def InOrder (queries : List (PendingQuery ρ)) : Prop :=
  queries.Pairwise fun earlier later => earlier.created ≤ later.created

variable {queries : List (PendingQuery ρ)} {now capacity : Nat}

theorem mem_youngAt_iff {query : PendingQuery ρ} :
    query ∈ youngAt now queries ↔ query ∈ queries ∧ now - query.created ≤ queryTimeout := by
  rw [youngAt, List.mem_filter, decide_eq_true_iff]

theorem isExpired_eq (now : Nat) (query : PendingQuery ρ) :
    isExpired now query = !decide (now - query.created ≤ queryTimeout) := by
  rw [isExpired, ← decide_not]
  simp only [Nat.not_le]

theorem InOrder.unexpired_eq (h : InOrder queries) (now : Nat) :
    unexpired now queries = youngAt now queries := by
  induction queries with
  | nil => rfl
  | cons query rest ih =>
    obtain ⟨hquery, hrest⟩ := List.pairwise_cons.1 h
    have ihrest := ih hrest
    rw [unexpired, youngAt] at ihrest
    rw [unexpired, youngAt, List.dropWhile_cons, isExpired_eq]
    by_cases hyoung : now - query.created ≤ queryTimeout
    · have hall : ∀ later ∈ query :: rest, decide (now - later.created ≤ queryTimeout) = true := by
        intro later hlater
        rw [decide_eq_true_iff]
        rcases List.mem_cons.1 hlater with rfl | hlater
        · exact hyoung
        · have hage := hquery later hlater
          omega
      simp only [hyoung, decide_true, Bool.not_true, Bool.false_eq_true, if_false]
      exact (List.filter_eq_self.2 hall).symm
    · simp only [hyoung, decide_false, Bool.not_false, if_true]
      rw [ihrest, List.filter_cons_of_neg]
      simpa using hyoung

theorem InOrder.head_le {query : PendingQuery ρ} (h : InOrder queries)
    (hhead : queries.head? = some query) : ∀ other ∈ queries, query.created ≤ other.created := by
  obtain ⟨rest, rfl⟩ := List.head?_eq_some_iff.1 hhead
  intro other hother
  rcases List.mem_cons.1 hother with rfl | hother
  · exact Nat.le_refl _
  · exact (List.pairwise_cons.1 h).1 other hother

theorem length_makeRoom_lt (hcapacity : 0 < capacity) (hfits : queries.length ≤ capacity) :
    (makeRoom capacity queries).length < capacity := by
  rw [makeRoom]
  split
  · rw [List.length_drop]
    omega
  · omega

theorem makeRoom_subset (capacity : Nat) (queries : List (PendingQuery ρ)) :
    makeRoom capacity queries ⊆ queries := by
  rw [makeRoom]
  split
  · exact List.drop_subset 1 queries
  · exact List.Subset.refl queries

theorem head?_of_not_mem_makeRoom (capacity : Nat) {query : PendingQuery ρ}
    (hquery : query ∈ queries) (hgone : query ∉ makeRoom capacity queries) :
    queries.head? = some query := by
  rw [makeRoom] at hgone
  split at hgone
  · cases queries with
    | nil => exact absurd hquery List.not_mem_nil
    | cons first rest =>
      rcases List.mem_cons.1 hquery with rfl | hrest
      · rfl
      · exact absurd hrest hgone
  · exact absurd hquery hgone

end Tracker

open Tracker

variable {ρ : Type}

def TrackerEvent.instant? : TrackerEvent ρ → Option Nat
  | .add now _ => some now
  | .drain _ | .clear => none

def OnClock (events : List (TrackerEvent ρ)) : Prop :=
  (events.filterMap TrackerEvent.instant?).Pairwise (· ≤ ·)

instance (events : List (TrackerEvent ρ)) : Decidable (OnClock events) :=
  inferInstanceAs (Decidable (List.Pairwise _ _))

theorem OnClock.le {events : List (TrackerEvent ρ)} (h : OnClock events) {place later : Nat}
    {now now' : Nat} {reply reply' : ρ} (hbefore : place < later)
    (hplace : events[place]? = some (.add now reply))
    (hlater : events[later]? = some (.add now' reply')) : now ≤ now' := by
  rw [OnClock, List.pairwise_filterMap, List.pairwise_iff_getElem] at h
  obtain ⟨hplace', hfirst⟩ := List.getElem?_eq_some_iff.1 hplace
  obtain ⟨hlater', hsecond⟩ := List.getElem?_eq_some_iff.1 hlater
  exact h place later hplace' hlater' hbefore now (by rw [hfirst]; rfl) now' (by rw [hsecond]; rfl)

namespace TrackerRun

variable [Reply ρ] {capacity : Nat} {events : List (TrackerEvent ρ)}

theorem capacity_step (run : TrackerRun ρ) (event : TrackerEvent ρ) :
    (run.step event).tracker.capacity = run.tracker.capacity := by
  cases event <;> rfl

theorem capacity_stateAt (capacity : Nat) (events : List (TrackerEvent ρ)) (count : Nat) :
    (stateAt capacity events count).tracker.capacity = max capacity 1 := by
  refine stateAt_induction (P := fun run => run.tracker.capacity = max capacity 1) rfl ?_ count
  intro count event _ ih
  rw [capacity_step, ih]

theorem inOrder_stateAt (hclock : OnClock events) (count : Nat) :
    InOrder (stateAt capacity events count).tracker.queries := by
  refine stateAt_induction (P := fun run => InOrder run.tracker.queries) List.Pairwise.nil ?_ count
  intro count event hevent ih
  obtain ⟨kept, hkept, hqueries | ⟨now, reply, rfl, hqueries⟩⟩ :=
    queries_step_cases (stateAt capacity events count) event
  · rw [hqueries]
    exact ih.sublist hkept
  · rw [hqueries, InOrder, List.pairwise_append]
    refine ⟨ih.sublist hkept, List.pairwise_singleton _ _, ?_⟩
    intro query hquery last hlast
    obtain ⟨place, hplace, hadded, -⟩ := exists_add_of_mem (hkept.subset hquery)
    rw [List.mem_singleton.1 hlast]
    exact hclock.le hplace hadded hevent

theorem length_queries_le (capacity : Nat) (events : List (TrackerEvent ρ)) (count : Nat) :
    (stateAt capacity events count).tracker.queries.length ≤ max capacity 1 := by
  refine stateAt_induction (P := fun run => run.tracker.queries.length ≤ max capacity 1)
    (Nat.zero_le _) ?_ count
  intro count event _ ih
  cases event with
  | add now reply =>
    have hunexpired : (unexpired now (stateAt capacity events count).tracker.queries).length ≤
        max capacity 1 := Nat.le_trans (List.dropWhile_sublist _).length_le ih
    rw [queries_step_add, capacity_stateAt, List.length_append, List.length_singleton]
    exact length_makeRoom_lt (by omega) hunexpired
  | drain read =>
    rw [queries_step_drain]
    exact Nat.le_trans (List.length_filter_le _ _) ih
  | clear => exact Nat.zero_le _

/-- What an addition makes of the tracked queries. -/
structure Admits (capacity now : Nat) (reply : ρ) (before after : TrackerRun ρ) : Prop where
  /-- Those that have not waited too long, less the first when they leave no room, and the new
  one. -/
  queries : after.tracker.queries =
    (if max capacity 1 ≤ (youngAt now before.tracker.queries).length then
      (youngAt now before.tracker.queries).tail
    else youngAt now before.tracker.queries) ++ [⟨before.added, reply, now⟩]
  /-- No other query goes before its time than the oldest. -/
  sacrificed : ∀ query ∈ youngAt now before.tracker.queries, ¬ after.Tracks query.socket →
    (youngAt now before.tracker.queries).head? = some query ∧
      ∀ other ∈ youngAt now before.tracker.queries, query.created ≤ other.created
  young : ∀ query ∈ after.tracker.queries, now - query.created ≤ queryTimeout
  counted : after.counters.count .pendingEvictions =
    before.counters.count .pendingEvictions +
      {query | before.Tracks query ∧ ¬ after.Tracks query}.ncard

variable {place now : Nat} {reply : ρ}

theorem queries_of_add (capacity : Nat) (hclock : OnClock events)
    (hevent : events[place]? = some (.add now reply)) :
    (stateAt capacity events (place + 1)).tracker.queries =
      makeRoom (max capacity 1) (youngAt now (stateAt capacity events place).tracker.queries) ++
        [⟨(stateAt capacity events place).added, reply, now⟩] := by
  rw [stateAt_succ hevent, queries_step_add, capacity_stateAt,
    (inOrder_stateAt hclock place).unexpired_eq now]

/-- On a clock that does not go back the tracker never holds more than its capacity, and every
addition keeps those that have not waited too long, but for the oldest of them when there is no
room. -/
theorem additions_keepYoung (capacity : Nat) (hclock : OnClock events) :
    (∀ count, (stateAt capacity events count).tracker.queries.length ≤ max capacity 1) ∧
      ∀ place now reply, events[place]? = some (.add now reply) →
        Admits capacity now reply (stateAt capacity events place)
          (stateAt capacity events (place + 1)) := by
  refine ⟨length_queries_le capacity events, ?_⟩
  intro place now reply hevent
  have hqueries := queries_of_add capacity hclock hevent
  have hinOrder : InOrder (youngAt now (stateAt capacity events place).tracker.queries) :=
    (inOrder_stateAt hclock place).sublist List.filter_sublist
  constructor
  case queries => rw [hqueries, makeRoom, List.drop_one]
  case sacrificed =>
    intro query hquery hgone
    have hhead :
        (youngAt now (stateAt capacity events place).tracker.queries).head? = some query := by
      apply head?_of_not_mem_makeRoom (max capacity 1) hquery
      intro hkept
      apply hgone
      rw [Tracks, Tracker.sockets, hqueries]
      exact List.mem_map_of_mem (List.mem_append_left _ hkept)
    exact ⟨hhead, hinOrder.head_le hhead⟩
  case young =>
    intro query hquery
    rw [hqueries, List.mem_append, List.mem_singleton] at hquery
    rcases hquery with hkept | rfl
    · exact (mem_youngAt_iff.1 (makeRoom_subset _ _ hkept)).2
    · simp
  case counted => exact ncard_leavesAt_add hevent

/-- With room for two, the third query finds one that has waited exactly as long as it may, and the
fourth one that has waited longer. -/
def fullAtTimeout : List (TrackerEvent Flow) :=
  [.add 0 mixedCaseFlow, .add (seconds 1) mixedCaseFlow, .add (seconds 10) mixedCaseFlow,
    .add (seconds 11 + 1) mixedCaseFlow]

theorem additions_keepYoung_fullAtTimeout :
    OnClock fullAtTimeout ∧
      (∀ count, (stateAt 2 fullAtTimeout count).tracker.queries.length ≤ 2) ∧
      Admits 2 (seconds 10) mixedCaseFlow (stateAt 2 fullAtTimeout 2) (stateAt 2 fullAtTimeout 3) ∧
      (youngAt (seconds 10) (stateAt 2 fullAtTimeout 2).tracker.queries).length = 2 ∧
      (stateAt 2 fullAtTimeout 3).tracker.sockets = [1, 2] := by
  have hclock : OnClock fullAtTimeout := by decide
  obtain ⟨hlength, hadmits⟩ := additions_keepYoung 2 hclock
  exact ⟨hclock, hlength, hadmits 2 (seconds 10) mixedCaseFlow rfl, by decide, by decide⟩

end TrackerRun

end Sinkhole
