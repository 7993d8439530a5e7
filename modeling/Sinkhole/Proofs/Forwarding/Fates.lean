import Sinkhole.Proofs.Forwarding.Draining
import Sinkhole.Proofs.Places

/-! # What becomes of a pending query

A tracker is run by any sequence of additions, drains and clearings, at any instants and with
anything on the sockets. At every moment each query that was added is tracked, or has left it in one
way: evicted by a later addition, drained, or cleared. A query that has left never comes back.
-/
namespace Sinkhole

inductive TrackerEvent (ρ : Type) where
  /-- A query is added at an instant. -/
  | add (now : Nat) (reply : ρ)
  /-- The sockets are read. -/
  | drain (read : Nat → SocketRead)
  | clear

/-- A tracker with what it did so far. Queries are numbered as they are added, and the number of a
query is that of its socket. -/
structure TrackerRun (ρ : Type) where
  tracker : Tracker ρ
  added : Nat
  /-- What the drains gave. -/
  packets : List Bytes
  counters : List Counter

inductive Fate where
  | tracked
  | evicted
  | drained
  | cleared
deriving DecidableEq, Repr

instance : Fintype Fate where
  elems := {.tracked, .evicted, .drained, .cleared}
  complete := by
    intro fate
    cases fate <;> decide

/-- How those queries leave that an event removes. -/
def TrackerEvent.fate {ρ : Type} : TrackerEvent ρ → Fate
  | .add _ _ => .evicted
  | .drain _ => .drained
  | .clear => .cleared

namespace TrackerRun

variable {ρ : Type} [Reply ρ]

def new (capacity : Nat) : TrackerRun ρ := ⟨.new capacity, 0, [], []⟩

def step (run : TrackerRun ρ) : TrackerEvent ρ → TrackerRun ρ
  | .add now reply =>
    let (tracker, evicted) := run.tracker.add now run.added reply
    { run with
      tracker := tracker
      added := run.added + 1
      counters := run.counters ++ Tracker.evictionCounts evicted }
  | .drain read =>
    let (tracker, packets, _) := run.tracker.drain read run.packets
    { run with tracker := tracker, packets := packets }
  | .clear => { run with tracker := run.tracker.clear }

def stateAt (capacity : Nat) (events : List (TrackerEvent ρ)) (count : Nat) : TrackerRun ρ :=
  (events.take count).foldl step (new capacity)

omit [Reply ρ] in
def Tracks (run : TrackerRun ρ) (query : Nat) : Prop := query ∈ run.tracker.sockets

/-- The query is tracked before the event at a place of the run, and not after it. -/
def LeavesAt (capacity : Nat) (events : List (TrackerEvent ρ)) (place query : Nat) : Prop :=
  (stateAt capacity events place).Tracks query ∧
    ¬ (stateAt capacity events (place + 1)).Tracks query

/-- What has become of a query after the first events of a run. -/
inductive HasFate (capacity : Nat) (events : List (TrackerEvent ρ)) (count query : Nat) :
    Fate → Prop where
  | tracked (htracks : (stateAt capacity events count).Tracks query) :
      HasFate capacity events count query .tracked
  | left {place : Nat} {event : TrackerEvent ρ} (hplace : place < count)
      (hevent : events[place]? = some event) (hleaves : LeavesAt capacity events place query) :
      HasFate capacity events count query event.fate

/-- The queries added by the first events of a run of which this has become. -/
def withFate (capacity : Nat) (events : List (TrackerEvent ρ)) (count : Nat) (fate : Fate) :
    Set Nat :=
  {query | query < (stateAt capacity events count).added ∧ HasFate capacity events count query fate}

/-- Queries stand in the order of their numbers. -/
structure Numbered (run : TrackerRun ρ) : Prop where
  increasing : run.tracker.sockets.Pairwise (· < ·)
  below : ∀ query, run.Tracks query → query < run.added

omit [Reply ρ] in
theorem makeRoom_suffix (capacity now : Nat) (queries : List (PendingQuery ρ)) :
    Tracker.makeRoom capacity (Tracker.unexpired now queries) <:+ queries := by
  have hunexpired : Tracker.unexpired now queries <:+ queries := List.dropWhile_suffix _
  rw [Tracker.makeRoom]
  split
  · exact (List.drop_suffix _ _).trans hunexpired
  · exact hunexpired

/-- An addition evicts the oldest queries, counts them, and puts the new one behind the others. -/
theorem step_add (run : TrackerRun ρ) (now : Nat) (reply : ρ) :
    ∃ evicted kept, run.tracker.sockets = evicted ++ kept ∧
      (run.step (.add now reply)).tracker.sockets = kept ++ [run.added] ∧
      (run.step (.add now reply)).counters =
        run.counters ++ List.replicate evicted.length .pendingEvictions := by
  obtain ⟨gone, hgone⟩ := makeRoom_suffix run.tracker.capacity now run.tracker.queries
  refine ⟨gone.map (·.socket), (Tracker.makeRoom run.tracker.capacity
    (Tracker.unexpired now run.tracker.queries)).map (·.socket), ?_, ?_, ?_⟩
  · rw [Tracker.sockets, ← List.map_append, hgone]
  · simp only [step, Tracker.add, Tracker.sockets, List.map_append, List.map_cons, List.map_nil]
  · have hlength := congrArg List.length hgone
    rw [List.length_append] at hlength
    simp only [step, Tracker.add, Tracker.evictionCounts, List.length_map]
    congr 2
    omega

theorem queries_step_add (run : TrackerRun ρ) (now : Nat) (reply : ρ) :
    (run.step (.add now reply)).tracker.queries =
      Tracker.makeRoom run.tracker.capacity (Tracker.unexpired now run.tracker.queries) ++
        [⟨run.added, reply, now⟩] := rfl

theorem queries_step_drain (run : TrackerRun ρ) (read : Nat → SocketRead) :
    (run.step (.drain read)).tracker.queries = run.tracker.queries.filter (Tracker.isIdle read) :=
  Tracker.kept_drainQueries read run.tracker.queries

theorem queries_step_cases (run : TrackerRun ρ) (event : TrackerEvent ρ) :
    ∃ kept, kept.Sublist run.tracker.queries ∧
      ((run.step event).tracker.queries = kept ∨
        ∃ now reply, event = .add now reply ∧
          (run.step event).tracker.queries = kept ++ [⟨run.added, reply, now⟩]) := by
  cases event with
  | add now reply =>
    exact ⟨_, (makeRoom_suffix run.tracker.capacity now run.tracker.queries).sublist,
      .inr ⟨now, reply, rfl, rfl⟩⟩
  | drain read => exact ⟨_, List.filter_sublist, .inl (run.queries_step_drain read)⟩
  | clear => exact ⟨[], List.nil_sublist _, .inl rfl⟩

theorem sockets_step_drain (run : TrackerRun ρ) (read : Nat → SocketRead) :
    (run.step (.drain read)).tracker.sockets =
      run.tracker.sockets.filter fun query => read query == .wouldBlock := by
  simp only [step, Tracker.drain, Tracker.sockets, Tracker.kept_drainQueries, List.filter_map]
  congr 2
  funext query
  simp only [Tracker.isIdle, Function.comp_apply]
  cases read query.socket <;> rfl

theorem tracks_step_drain_iff {run : TrackerRun ρ} {read : Nat → SocketRead} {query : Nat} :
    (run.step (.drain read)).Tracks query ↔ run.Tracks query ∧ read query = .wouldBlock := by
  rw [Tracks, sockets_step_drain, List.mem_filter, beq_iff_eq]
  rfl

theorem not_tracks_step_clear (run : TrackerRun ρ) (query : Nat) :
    ¬ (run.step .clear).Tracks query := List.not_mem_nil

theorem added_le_step (run : TrackerRun ρ) (event : TrackerEvent ρ) :
    run.added ≤ (run.step event).added := by
  cases event with
  | add now reply => exact Nat.le_succ _
  | drain read => exact Nat.le_refl _
  | clear => exact Nat.le_refl _

theorem tracks_step_cases {run : TrackerRun ρ} {event : TrackerEvent ρ} {query : Nat}
    (htracks : (run.step event).Tracks query) :
    run.Tracks query ∨ query = run.added ∧ query < (run.step event).added := by
  cases event with
  | add now reply =>
    obtain ⟨evicted, kept, hsockets, hnext, -⟩ := run.step_add now reply
    rw [Tracks, hnext, List.mem_append, List.mem_singleton] at htracks
    rcases htracks with hkept | hnew
    · left
      rw [Tracks, hsockets]
      exact List.mem_append_right _ hkept
    · exact .inr ⟨hnew, hnew ▸ Nat.lt_succ_self _⟩
  | drain read => exact .inl (tracks_step_drain_iff.1 htracks).1
  | clear => exact absurd htracks (not_tracks_step_clear _ _)

theorem tracks_of_step {run : TrackerRun ρ} {event : TrackerEvent ρ} {query : Nat}
    (htracks : (run.step event).Tracks query) (hold : query < run.added) : run.Tracks query :=
  (tracks_step_cases htracks).resolve_right fun hnew => absurd hnew.1 (Nat.ne_of_lt hold)

theorem tracks_step_of_new {run : TrackerRun ρ} {event : TrackerEvent ρ} {query : Nat}
    (hnew : run.added ≤ query) (hadded : query < (run.step event).added) :
    (run.step event).Tracks query := by
  cases event with
  | add now reply =>
    obtain ⟨evicted, kept, -, hnext, -⟩ := run.step_add now reply
    have hquery : query = run.added := Nat.le_antisymm (Nat.le_of_lt_succ hadded) hnew
    rw [Tracks, hnext, hquery]
    exact List.mem_append_right _ (List.mem_singleton_self _)
  | drain read => exact absurd hadded (Nat.not_lt.2 hnew)
  | clear => exact absurd hadded (Nat.not_lt.2 hnew)

theorem Numbered.step {run : TrackerRun ρ} (h : run.Numbered) (event : TrackerEvent ρ) :
    (run.step event).Numbered := by
  constructor
  · cases event with
    | add now reply =>
      obtain ⟨evicted, kept, hsockets, hnext, -⟩ := run.step_add now reply
      have hincreasing := h.increasing
      rw [hsockets, List.pairwise_append] at hincreasing
      rw [hnext, List.pairwise_append]
      refine ⟨hincreasing.2.1, List.pairwise_singleton _ _, ?_⟩
      intro query hkept last hlast
      rw [List.mem_singleton.1 hlast]
      apply h.below
      rw [Tracks, hsockets]
      exact List.mem_append_right _ hkept
    | drain read =>
      rw [sockets_step_drain]
      exact h.increasing.filter _
    | clear => exact List.Pairwise.nil
  · intro query htracks
    rcases tracks_step_cases htracks with hbefore | ⟨-, hnew⟩
    · exact Nat.lt_of_lt_of_le (h.below query hbefore) (run.added_le_step event)
    · exact hnew

variable {capacity : Nat} {events : List (TrackerEvent ρ)} {count : Nat}

theorem stateAt_succ {event : TrackerEvent ρ} (h : events[count]? = some event) :
    stateAt capacity events (count + 1) = (stateAt capacity events count).step event :=
  foldl_take_succ h

theorem stateAt_succ_of_none (h : events[count]? = none) :
    stateAt capacity events (count + 1) = stateAt capacity events count :=
  foldl_take_succ_of_none h

theorem stateAt_succ_cases (capacity : Nat) (events : List (TrackerEvent ρ)) (count : Nat) :
    (∃ event, events[count]? = some event ∧
        stateAt capacity events (count + 1) = (stateAt capacity events count).step event) ∨
      stateAt capacity events (count + 1) = stateAt capacity events count := by
  cases hevent : events[count]? with
  | none => exact .inr (stateAt_succ_of_none hevent)
  | some event => exact .inl ⟨event, rfl, stateAt_succ hevent⟩

theorem stateAt_induction {P : TrackerRun ρ → Prop} (hnew : P (new capacity))
    (hstep : ∀ count event, events[count]? = some event → P (stateAt capacity events count) →
      P ((stateAt capacity events count).step event)) (count : Nat) :
    P (stateAt capacity events count) := by
  induction count with
  | zero => exact hnew
  | succ count ih =>
    rcases stateAt_succ_cases capacity events count with ⟨event, hevent, hnext⟩ | hnext
    · rw [hnext]
      exact hstep count event hevent ih
    · rw [hnext]
      exact ih

theorem numbered_stateAt (capacity : Nat) (events : List (TrackerEvent ρ)) (count : Nat) :
    (stateAt capacity events count).Numbered := by
  refine foldl_take_keeps (P := Numbered) (fun _ event h => h.step event) (Nat.zero_le count) ?_
  exact ⟨List.Pairwise.nil, fun query htracks => absurd htracks List.not_mem_nil⟩

theorem added_mono {later : Nat} (h : count ≤ later) :
    (stateAt capacity events count).added ≤ (stateAt capacity events later).added := by
  refine foldl_take_keeps
    (P := fun run : TrackerRun ρ => (stateAt capacity events count).added ≤ run.added) ?_ h
    (Nat.le_refl _)
  intro run event hle
  exact Nat.le_trans hle (added_le_step run event)

theorem tracks_of_later {later query : Nat} (h : count ≤ later)
    (hadded : query < (stateAt capacity events count).added)
    (htracks : (stateAt capacity events later).Tracks query) :
    (stateAt capacity events count).Tracks query := by
  induction h with
  | refl => exact htracks
  | @step later hlater ih =>
    rcases stateAt_succ_cases capacity events later with ⟨event, -, hnext⟩ | hnext
    · rw [hnext] at htracks
      exact ih (tracks_of_step htracks (Nat.lt_of_lt_of_le hadded (added_mono hlater)))
    · rw [hnext] at htracks
      exact ih htracks

/-- A tracked query was added at its instant, as the one with its number. -/
theorem exists_add_of_mem {count : Nat} {query : PendingQuery ρ}
    (hquery : query ∈ (stateAt capacity events count).tracker.queries) :
    ∃ place < count, events[place]? = some (.add query.created query.reply) ∧
      (stateAt capacity events place).added = query.socket := by
  induction count with
  | zero => exact absurd hquery List.not_mem_nil
  | succ count ih =>
    have hearlier (hold : query ∈ (stateAt capacity events count).tracker.queries) :
        ∃ place < count + 1, events[place]? = some (.add query.created query.reply) ∧
          (stateAt capacity events place).added = query.socket := by
      obtain ⟨place, hplace, hevent⟩ := ih hold
      exact ⟨place, Nat.lt_succ_of_lt hplace, hevent⟩
    rcases stateAt_succ_cases capacity events count with ⟨event, hevent, hnext⟩ | hnext
    · rw [hnext] at hquery
      obtain ⟨kept, hkept, hqueries | ⟨now, reply, rfl, hqueries⟩⟩ :=
        queries_step_cases (stateAt capacity events count) event
      · rw [hqueries] at hquery
        exact hearlier (hkept.subset hquery)
      · rw [hqueries] at hquery
        rcases List.mem_append.1 hquery with hold | hnew
        · exact hearlier (hkept.subset hold)
        · rw [List.mem_singleton.1 hnew]
          exact ⟨count, Nat.lt_succ_self _, hevent, rfl⟩
    · rw [hnext] at hquery
      exact hearlier hquery

namespace LeavesAt

variable {place query : Nat}

theorem lt_added (h : LeavesAt capacity events place query) :
    query < (stateAt capacity events place).added :=
  (numbered_stateAt capacity events place).below query h.1

theorem not_tracks (h : LeavesAt capacity events place query) (hplace : place < count) :
    ¬ (stateAt capacity events count).Tracks query := by
  intro htracks
  have hadded := Nat.lt_of_lt_of_le h.lt_added (added_mono (Nat.le_succ place))
  exact h.2 (tracks_of_later hplace hadded htracks)

theorem unique {other : Nat} (h : LeavesAt capacity events place query)
    (hother : LeavesAt capacity events other query) : place = other := by
  rcases Nat.lt_trichotomy place other with hbefore | hsame | hafter
  · exact absurd hother.1 (h.not_tracks hbefore)
  · exact hsame
  · exact absurd h.1 (hother.not_tracks hafter)

theorem exists_event (h : LeavesAt capacity events place query) :
    ∃ event, events[place]? = some event := by
  cases hevent : events[place]? with
  | none =>
    have htracks := h.1
    rw [← stateAt_succ_of_none hevent] at htracks
    exact absurd htracks h.2
  | some event => exact ⟨event, rfl⟩

end LeavesAt

theorem exists_leavesAt {query : Nat} (hadded : query < (stateAt capacity events count).added)
    (hgone : ¬ (stateAt capacity events count).Tracks query) :
    ∃ place < count, LeavesAt capacity events place query := by
  induction count with
  | zero => exact absurd hadded (Nat.not_lt_zero _)
  | succ count ih =>
    rcases Nat.lt_or_ge query (stateAt capacity events count).added with hold | hnew
    · by_cases htracks : (stateAt capacity events count).Tracks query
      · exact ⟨count, Nat.lt_succ_self _, htracks, hgone⟩
      · obtain ⟨place, hplace, hleaves⟩ := ih hold htracks
        exact ⟨place, Nat.lt_succ_of_lt hplace, hleaves⟩
    · rcases stateAt_succ_cases capacity events count with ⟨event, -, hnext⟩ | hnext
      · rw [hnext] at hadded hgone
        exact absurd (tracks_step_of_new hnew hadded) hgone
      · rw [hnext] at hadded
        exact absurd hadded (Nat.not_lt.2 hnew)

theorem leavesAt_drain_iff {place query : Nat} {read : Nat → SocketRead}
    (hevent : events[place]? = some (.drain read)) :
    LeavesAt capacity events place query ↔
      (stateAt capacity events place).Tracks query ∧ read query ≠ .wouldBlock := by
  rw [LeavesAt, stateAt_succ hevent, tracks_step_drain_iff]
  tauto

theorem HasFate.unique {query : Nat} {fate other : Fate}
    (h : HasFate capacity events count query fate)
    (hother : HasFate capacity events count query other) : fate = other := by
  cases h with
  | tracked htracks =>
    cases hother with
    | tracked _ => rfl
    | left hplace _ hleaves => exact absurd htracks (hleaves.not_tracks hplace)
  | left hplace hevent hleaves =>
    cases hother with
    | tracked htracks => exact absurd htracks (hleaves.not_tracks hplace)
    | left _ hevent' hleaves' =>
      rw [hleaves.unique hleaves', hevent'] at hevent
      rw [Option.some.inj hevent]

theorem existsUnique_hasFate {query : Nat}
    (hadded : query < (stateAt capacity events count).added) :
    ∃! fate, HasFate capacity events count query fate := by
  have hsome : ∃ fate, HasFate capacity events count query fate := by
    by_cases htracks : (stateAt capacity events count).Tracks query
    · exact ⟨.tracked, .tracked htracks⟩
    · obtain ⟨place, hplace, hleaves⟩ := exists_leavesAt hadded htracks
      obtain ⟨event, hevent⟩ := hleaves.exists_event
      exact ⟨event.fate, .left hplace hevent hleaves⟩
  obtain ⟨fate, hfate⟩ := hsome
  exact ⟨fate, hfate, fun other hother => hother.unique hfate⟩

open Classical in
theorem sum_ncard_withFate (capacity : Nat) (events : List (TrackerEvent ρ)) (count : Nat) :
    ∑ fate : Fate, (withFate capacity events count fate).ncard =
      (stateAt capacity events count).added := by
  let queries := Finset.range (stateAt capacity events count).added
  let fateOf : Nat → Fate := fun query =>
    if h : ∃ fate, HasFate capacity events count query fate then h.choose else .tracked
  have hfateOf : ∀ {query fate}, query ∈ queries →
      (fateOf query = fate ↔ HasFate capacity events count query fate) := by
    intro query fate hquery
    obtain ⟨found, hfound, -⟩ := existsUnique_hasFate (Finset.mem_range.1 hquery)
    have hsome : ∃ fate, HasFate capacity events count query fate := ⟨found, hfound⟩
    simp only [fateOf, dif_pos hsome]
    exact ⟨fun h => h ▸ hsome.choose_spec, fun h => hsome.choose_spec.unique h⟩
  have hfiber : ∀ fate : Fate, (withFate capacity events count fate).ncard =
      (queries.filter fun query => fateOf query = fate).card := by
    intro fate
    rw [← Set.ncard_coe_finset]
    congr 1
    ext query
    rw [Finset.mem_coe, Finset.mem_filter]
    constructor
    · rintro ⟨hadded, hfate⟩
      have hquery : query ∈ queries := Finset.mem_range.2 hadded
      exact ⟨hquery, (hfateOf hquery).2 hfate⟩
    · rintro ⟨hquery, hfate⟩
      exact ⟨Finset.mem_range.1 hquery, (hfateOf hquery).1 hfate⟩
  calc ∑ fate : Fate, (withFate capacity events count fate).ncard
      = ∑ fate : Fate, (queries.filter fun query => fateOf query = fate).card :=
        Finset.sum_congr rfl fun fate _ => hfiber fate
    _ = queries.card :=
        (Finset.card_eq_sum_card_fiberwise fun query _ => Finset.mem_univ (fateOf query)).symm
    _ = (stateAt capacity events count).added := Finset.card_range _

theorem mem_withFate_evicted_iff {query : Nat} :
    query ∈ withFate capacity events count .evicted ↔
      ∃ place now reply, place < count ∧ events[place]? = some (.add now reply) ∧
        LeavesAt capacity events place query := by
  constructor
  · rintro ⟨-, hfate⟩
    generalize hevicted : Fate.evicted = fate at hfate
    cases hfate with
    | tracked _ => cases hevicted
    | @left place event hplace hevent hleaves =>
      cases event with
      | add now reply => exact ⟨place, now, reply, hplace, hevent, hleaves⟩
      | drain read => cases hevicted
      | clear => cases hevicted
  · rintro ⟨place, now, reply, hplace, hevent, hleaves⟩
    have hadded := Nat.lt_of_lt_of_le hleaves.lt_added (added_mono (Nat.le_of_lt hplace))
    exact ⟨hadded, .left hplace hevent hleaves⟩

theorem finite_withFate (capacity : Nat) (events : List (TrackerEvent ρ)) (count : Nat)
    (fate : Fate) : (withFate capacity events count fate).Finite :=
  (Set.finite_lt_nat _).subset fun _ hquery => hquery.1

theorem ncard_leavesAt_add {now : Nat} {reply : ρ}
    (hevent : events[count]? = some (.add now reply)) :
    ((stateAt capacity events (count + 1)).counters.count .pendingEvictions =
      (stateAt capacity events count).counters.count .pendingEvictions +
        {query | LeavesAt capacity events count query}.ncard) := by
  obtain ⟨evicted, kept, hsockets, hnext, hcounters⟩ :=
    (stateAt capacity events count).step_add now reply
  have hnumbered := numbered_stateAt capacity events count
  have hnodup : (evicted ++ kept).Nodup := by
    rw [← hsockets]
    exact hnumbered.increasing.imp Nat.ne_of_lt
  have hleaving : {query | LeavesAt capacity events count query} = ↑evicted.toFinset := by
    ext query
    rw [Set.mem_ofPred_eq, LeavesAt, stateAt_succ hevent, Tracks, Tracks, hnext, hsockets,
      Finset.mem_coe, List.mem_toFinset]
    simp only [List.mem_append, List.mem_singleton, not_or]
    constructor
    · rintro ⟨hevicted | hkept, hgone, -⟩
      · exact hevicted
      · exact absurd hkept hgone
    · intro hevicted
      have htracks : (stateAt capacity events count).Tracks query := by
        rw [Tracks, hsockets]
        exact List.mem_append_left _ hevicted
      exact ⟨.inl hevicted, List.disjoint_of_nodup_append hnodup hevicted,
        Nat.ne_of_lt (hnumbered.below query htracks)⟩
  rw [hleaving, Set.ncard_coe_finset, List.toFinset_card_of_nodup hnodup.of_append_left,
    stateAt_succ hevent, hcounters, List.count_append, List.count_replicate_self]

theorem counters_step_of_not_add {run : TrackerRun ρ} {event : TrackerEvent ρ}
    (h : event.fate ≠ .evicted) : (run.step event).counters = run.counters := by
  cases event with
  | add now reply => exact absurd rfl h
  | drain read => rfl
  | clear => rfl

theorem withFate_evicted_succ (capacity : Nat) (events : List (TrackerEvent ρ)) (count : Nat) :
    withFate capacity events (count + 1) .evicted =
      withFate capacity events count .evicted ∪
        {query | ∃ now reply, events[count]? = some (.add now reply) ∧
          LeavesAt capacity events count query} := by
  ext query
  rw [Set.mem_union, mem_withFate_evicted_iff, mem_withFate_evicted_iff, Set.mem_ofPred_eq]
  constructor
  · rintro ⟨place, now, reply, hplace, hevent, hleaves⟩
    rcases Nat.lt_succ_iff_lt_or_eq.1 hplace with hbefore | rfl
    · exact .inl ⟨place, now, reply, hbefore, hevent, hleaves⟩
    · exact .inr ⟨now, reply, hevent, hleaves⟩
  · rintro (⟨place, now, reply, hplace, hevent, hleaves⟩ | ⟨now, reply, hevent, hleaves⟩)
    · exact ⟨place, now, reply, Nat.lt_succ_of_lt hplace, hevent, hleaves⟩
    · exact ⟨count, now, reply, Nat.lt_succ_self _, hevent, hleaves⟩

theorem count_pendingEvictions (capacity : Nat) (events : List (TrackerEvent ρ)) (count : Nat) :
    (stateAt capacity events count).counters.count .pendingEvictions =
      (withFate capacity events count .evicted).ncard := by
  induction count with
  | zero =>
    have hnone : withFate capacity events 0 .evicted = ∅ :=
      Set.eq_empty_of_forall_notMem fun query hquery => Nat.not_lt_zero _ hquery.1
    rw [hnone, Set.ncard_empty]
    rfl
  | succ count ih =>
    rw [withFate_evicted_succ]
    by_cases hadd : ∃ now reply, events[count]? = some (.add now reply)
    · obtain ⟨now, reply, hevent⟩ := hadd
      have hleaving : {query | ∃ now reply, events[count]? = some (.add now reply) ∧
          LeavesAt capacity events count query} =
            {query | LeavesAt capacity events count query} := by
        ext query
        exact ⟨fun ⟨_, _, _, hleaves⟩ => hleaves, fun hleaves => ⟨now, reply, hevent, hleaves⟩⟩
      have hdisjoint : Disjoint (withFate capacity events count .evicted)
          {query | LeavesAt capacity events count query} := by
        rw [Set.disjoint_left]
        intro query hevicted hleaves
        obtain ⟨place, _, _, hplace, -, hbefore⟩ := mem_withFate_evicted_iff.1 hevicted
        exact hbefore.not_tracks hplace hleaves.1
      have hfinite : {query | LeavesAt capacity events count query}.Finite :=
        (Set.finite_lt_nat _).subset fun _ hleaves => LeavesAt.lt_added hleaves
      rw [hleaving, Set.ncard_union_eq hdisjoint (finite_withFate capacity events count .evicted)
        hfinite, ← ih]
      exact ncard_leavesAt_add hevent
    · have hleaving : {query | ∃ now reply, events[count]? = some (.add now reply) ∧
          LeavesAt capacity events count query} = ∅ :=
        Set.eq_empty_of_forall_notMem fun _ ⟨now, reply, hevent, _⟩ => hadd ⟨now, reply, hevent⟩
      rw [hleaving, Set.union_empty, ← ih]
      cases hevent : events[count]? with
      | none => rw [stateAt_succ_of_none hevent]
      | some event =>
        rw [stateAt_succ hevent, counters_step_of_not_add]
        intro hevicted
        cases event with
        | add now reply => exact hadd ⟨now, reply, hevent⟩
        | drain read => cases hevicted
        | clear => cases hevicted

end TrackerRun

end Sinkhole
