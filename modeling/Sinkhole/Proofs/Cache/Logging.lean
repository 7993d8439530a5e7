import Mathlib
import Sinkhole.Cache.QueryLog

/-! # The newest hosts of a log

Hosts are put into a log, and the log is cleared, in any order. Its queue and its set always hold
the same hosts, none of them twice, and these are the last ones that it took in since it was cleared,
as many as it may keep. A host that was forgotten is taken in again like one that was never there.
-/
namespace Sinkhole

namespace QueryLog

variable {log : QueryLog} {host : String}

/-- The queue and the set hold the same hosts, each once and no more than the log may keep. -/
structure Sound (log : QueryLog) : Prop where
  nodup : log.toList.Nodup
  mem_iff : ∀ host, host ∈ log.toList ↔ host ∈ log.seen
  size : log.size = log.toList.length
  bounded : log.size ≤ log.limit

theorem sound_empty (limit : Nat) : (empty limit).Sound where
  nodup := List.nodup_nil
  mem_iff _ := iff_of_false List.not_mem_nil Std.HashSet.not_mem_empty
  size := rfl
  bounded := Nat.zero_le limit

theorem forgetOldest_cases (log : QueryLog) :
    (log.toList = [] ∧ log.forgetOldest = log) ∨
      ∃ oldest order, log.toList = oldest :: order.toList ∧
        log.forgetOldest = ⟨order, log.seen.erase oldest, log.size - 1, log.limit⟩ := by
  rw [forgetOldest]
  cases hpop : log.order.pop? with
  | none => exact .inl ⟨Queue.pop?_eq_none.1 hpop, rfl⟩
  | some popped => exact .inr ⟨popped.1, popped.2, Queue.toList_of_pop? hpop, rfl⟩

theorem toList_forgetOldest (log : QueryLog) : log.forgetOldest.toList = log.toList.tail := by
  obtain ⟨hempty, hsame⟩ | ⟨oldest, order, hqueue, hforget⟩ := log.forgetOldest_cases
  · rw [hsame, hempty, List.tail_nil]
  · rw [hforget, hqueue, List.tail_cons, toList]

theorem limit_forgetOldest (log : QueryLog) : log.forgetOldest.limit = log.limit := by
  obtain ⟨-, hsame⟩ | ⟨oldest, order, -, hforget⟩ := log.forgetOldest_cases
  · rw [hsame]
  · rw [hforget]

theorem Sound.forgetOldest (h : log.Sound) : log.forgetOldest.Sound := by
  obtain ⟨-, hsame⟩ | ⟨oldest, order, hqueue, hforget⟩ := log.forgetOldest_cases
  · rw [hsame]
    exact h
  · have hmem := h.mem_iff
    have hnodup := h.nodup
    have hsize := h.size
    rw [hqueue] at hmem hnodup hsize
    obtain ⟨hgone, hrest⟩ := List.nodup_cons.1 hnodup
    rw [hforget]
    refine ⟨hrest, ?_, ?_, (Nat.sub_le _ _).trans h.bounded⟩
    · intro host
      have hother : host ∈ order.toList ↔
          oldest ≠ host ∧ (host = oldest ∨ host ∈ order.toList) := by
        constructor
        · intro hhost
          exact ⟨fun hsame => hgone (hsame ▸ hhost), .inr hhost⟩
        · rintro ⟨hne, hsame | hhost⟩
          · exact absurd hsame.symm hne
          · exact hhost
      rw [Std.HashSet.mem_erase, ← hmem, List.mem_cons, beq_eq_false_iff_ne]
      exact hother
    · show log.size - 1 = order.toList.length
      rw [hsize, List.length_cons, Nat.add_sub_cancel]

def withRoom (log : QueryLog) : QueryLog :=
  if log.limit ≤ log.size then log.forgetOldest else log

theorem insert_of_mem (h : log.Sound) (hmem : host ∈ log.toList) : log.insert host = log := by
  rw [insert, if_pos]
  exact Std.HashSet.mem_iff_contains.1 ((h.mem_iff host).1 hmem)

theorem insert_of_not_mem (h : log.Sound) (hmem : host ∉ log.toList) :
    log.insert host = ⟨log.withRoom.order.push host, log.withRoom.seen.insert host,
      log.withRoom.size + 1, log.withRoom.limit⟩ := by
  rw [insert, if_neg]
  · rfl
  · intro hcontains
    exact hmem ((h.mem_iff host).2 (Std.HashSet.mem_iff_contains.2 hcontains))

theorem limit_withRoom (log : QueryLog) : log.withRoom.limit = log.limit := by
  rw [withRoom]
  split
  · exact limit_forgetOldest log
  · rfl

theorem Sound.withRoom (h : log.Sound) : log.withRoom.Sound := by
  rw [QueryLog.withRoom]
  split
  · exact h.forgetOldest
  · exact h

theorem toList_withRoom (h : log.Sound) (hlimit : 0 < log.limit) :
    log.withRoom.toList = log.toList.rtake (log.limit - 1) := by
  have hbounded := h.bounded
  rw [withRoom, List.rtake, ← h.size]
  split
  · have hone : log.size - (log.limit - 1) = 1 := by omega
    rw [toList_forgetOldest, hone, List.drop_one]
  · have hzero : log.size - (log.limit - 1) = 0 := by omega
    rw [hzero, List.drop_zero]

theorem toList_insert_of_not_mem (h : log.Sound) (hmem : host ∉ log.toList) :
    (log.insert host).toList = log.withRoom.toList ++ [host] := by
  rw [insert_of_not_mem h hmem]
  exact Queue.toList_push _ _

theorem mem_insert_self (h : log.Sound) (host : String) : host ∈ (log.insert host).toList := by
  by_cases hmem : host ∈ log.toList
  · rw [insert_of_mem h hmem]
    exact hmem
  · rw [toList_insert_of_not_mem h hmem]
    exact List.mem_append_right _ (List.mem_singleton_self host)

theorem limit_insert (log : QueryLog) (host : String) : (log.insert host).limit = log.limit := by
  rw [insert]
  split
  · rfl
  · exact limit_withRoom log

theorem Sound.insert (h : log.Sound) (hlimit : 0 < log.limit) (host : String) :
    (log.insert host).Sound := by
  by_cases hmem : host ∈ log.toList
  · rw [insert_of_mem h hmem]
    exact h
  · have hroom := h.withRoom
    have hqueue := toList_withRoom h hlimit
    have hfresh : host ∉ log.withRoom.toList := by
      rw [hqueue]
      exact fun hkept => hmem (List.mem_of_mem_drop hkept)
    have hlength : log.withRoom.toList.length < log.limit := by
      rw [hqueue, List.rtake, List.length_drop]
      omega
    have hpush := toList_insert_of_not_mem h hmem
    refine ⟨?_, ?_, ?_, ?_⟩
    · rw [hpush]
      exact List.nodup_append_comm.1 (List.nodup_cons.2 ⟨hfresh, hroom.nodup⟩)
    · intro other
      rw [hpush, insert_of_not_mem h hmem, Std.HashSet.mem_insert, List.mem_append,
        hroom.mem_iff, List.mem_singleton, beq_iff_eq, or_comm, eq_comm]
    · rw [hpush, insert_of_not_mem h hmem, List.length_append, ← hroom.size]
      rfl
    · rw [insert_of_not_mem h hmem]
      show log.withRoom.size + 1 ≤ log.withRoom.limit
      rw [limit_withRoom, hroom.size]
      exact hlength

end QueryLog

inductive LogEvent where
  | insert (host : String)
  | clear

/-- A log with the hosts that it took in since it was last cleared. A host is taken in if the log
does not hold it when it is put in. -/
structure LogRun where
  log : QueryLog
  admitted : List String

namespace LogRun

def step (run : LogRun) : LogEvent → LogRun
  | .insert host =>
    ⟨run.log.insert host,
      if host ∈ run.log.toList then run.admitted else run.admitted ++ [host]⟩
  | .clear => ⟨run.log.clear, []⟩

/-- A log that was empty, after some events. -/
def after (limit : Nat) (events : List LogEvent) : LogRun :=
  events.foldl step ⟨.empty limit, []⟩

theorem after_concat (limit : Nat) (events : List LogEvent) (event : LogEvent) :
    after limit (events ++ [event]) = (after limit events).step event := by
  rw [after, List.foldl_append]
  rfl

variable {limit : Nat} {run : LogRun}

structure Newest (limit : Nat) (run : LogRun) : Prop where
  sound : run.log.Sound
  limit_eq : run.log.limit = limit
  newest : run.log.toList = run.admitted.rtake limit

theorem newest_empty (limit : Nat) : Newest limit ⟨.empty limit, []⟩ :=
  ⟨QueryLog.sound_empty limit, rfl, List.drop_nil.symm⟩

theorem rtake_rtake_of_le {α : Type} {m n : Nat} (h : m ≤ n) (l : List α) :
    (l.rtake n).rtake m = l.rtake m := by
  rw [List.rtake_eq_reverse_take_reverse, List.rtake_eq_reverse_take_reverse,
    List.reverse_reverse, List.take_take, Nat.min_eq_left h, ← List.rtake_eq_reverse_take_reverse]

theorem Newest.step (h : run.Newest limit) (hlimit : 0 < limit) (event : LogEvent) :
    (run.step event).Newest limit := by
  have hrun : 0 < run.log.limit := by
    rw [h.limit_eq]
    exact hlimit
  cases event with
  | clear =>
    have hempty : run.step .clear = ⟨.empty limit, []⟩ := by
      rw [LogRun.step, QueryLog.clear, h.limit_eq]
    rw [hempty]
    exact newest_empty limit
  | insert host =>
    refine ⟨h.sound.insert hrun host, (QueryLog.limit_insert _ _).trans h.limit_eq, ?_⟩
    by_cases hmem : host ∈ run.log.toList
    · rw [LogRun.step, if_pos hmem, QueryLog.insert_of_mem h.sound hmem]
      exact h.newest
    · obtain ⟨fewer, rfl⟩ := Nat.exists_eq_succ_of_ne_zero hlimit.ne'
      rw [LogRun.step, if_neg hmem, List.rtake_concat_succ]
      dsimp only
      rw [QueryLog.toList_insert_of_not_mem h.sound hmem, QueryLog.toList_withRoom h.sound hrun,
        h.newest, h.limit_eq, Nat.succ_sub_one, rtake_rtake_of_le (Nat.le_succ fewer)]

theorem newest_after (hlimit : 0 < limit) (events : List LogEvent) :
    (after limit events).Newest limit := by
  induction events using List.reverseRecOn with
  | nil => exact newest_empty limit
  | append_singleton events event ih =>
    rw [after_concat]
    exact ih.step hlimit event

/-- What a log holds after some events. -/
structure HoldsNewest (limit : Nat) (events : List LogEvent) : Prop where
  nodup : (after limit events).log.toList.Nodup
  mem_iff : ∀ host, host ∈ (after limit events).log.toList ↔ host ∈ (after limit events).log.seen
  bounded : (after limit events).log.toList.length ≤ limit
  inserted : ∀ host, host ∈ (after limit (events ++ [.insert host])).log.toList
  newest : (after limit events).log.toList =
    (after limit events).admitted.rtake (min limit (after limit events).admitted.length)

/-- However a log is filled and cleared, it holds the last hosts that it took in, each once. -/
theorem after_holdsNewest {limit : Nat} (hlimit : 1 ≤ limit) (events : List LogEvent) :
    HoldsNewest limit events := by
  have h := newest_after hlimit events
  refine ⟨h.sound.nodup, h.sound.mem_iff, ?_, ?_, ?_⟩
  · have hbounded := h.sound.bounded
    rwa [h.sound.size, h.limit_eq] at hbounded
  · intro host
    rw [after_concat]
    exact QueryLog.mem_insert_self h.sound host
  · rw [h.newest]
    rcases Nat.le_total limit (after limit events).admitted.length with hle | hle
    · rw [Nat.min_eq_left hle]
    · rw [Nat.min_eq_right hle, List.rtake, List.rtake, Nat.sub_eq_zero_of_le hle, Nat.sub_self]

/-- The first host is forgotten for the third and then taken in again. -/
def readmitting : List LogEvent :=
  [.insert "a.org", .clear, .insert "a.org", .insert "b.org", .insert "b.org", .insert "c.org",
    .insert "a.org"]

theorem after_holdsNewest_readmitting :
    1 ≤ 2 ∧ HoldsNewest 2 readmitting ∧
      (after 2 readmitting).admitted = ["a.org", "b.org", "c.org", "a.org"] ∧
      (after 2 readmitting).log.toList = ["c.org", "a.org"] := by
  have h : HoldsNewest 2 readmitting := after_holdsNewest (by decide) readmitting
  have hadmitted : (after 2 readmitting).admitted = ["a.org", "b.org", "c.org", "a.org"] := by
    simp [after, readmitting, step, QueryLog.insert, QueryLog.empty, QueryLog.toList,
      QueryLog.clear, QueryLog.forgetOldest, Queue.empty, Queue.push, Queue.pop?, Queue.toList]
  refine ⟨by decide, h, hadmitted, ?_⟩
  rw [h.newest, hadmitted]
  rfl

end LogRun

end Sinkhole
