import Sinkhole.Proofs.Packet.Lending

/-! # Buffers that do not come back

Storage that is too small for what it is asked for at least doubles, so what it can hold may pass
the largest packet though nobody asked for more than that. This takes storage that can already hold
more than half of the largest packet, and a buffer whose storage was stretched like that is given up
when it is dropped. All others come back. Main statement: as long as no more than the largest packet
is asked for, a history keeps its buffers exactly when it drops none that was stretched.
-/
namespace Sinkhole

def PoolEvent.length? : PoolEvent → Option Nat
  | .lend request => some request.length
  | .use _ (.resize length) => some length
  | .use _ (.write _) | .use _ (.truncate _) | .drop _ => none

/-- Nobody asks for more octets than the largest packet has. -/
def FitsPackets (events : List PoolEvent) : Prop :=
  ∀ length ∈ events.filterMap PoolEvent.length?, length ≤ maxPacketSize

instance (events : List PoolEvent) : Decidable (FitsPackets events) :=
  inferInstanceAs (Decidable (∀ length ∈ _, length ≤ maxPacketSize))

/-- The storage of a buffer is asked to hold so many octets. -/
structure Demand where
  buffer : Nat
  capacity : Nat
  length : Nat

/-- The storage is too small, but twice as much is more than the largest packet. -/
def Demand.Overshoots (demand : Demand) : Prop :=
  maxPacketSize < 2 * demand.capacity ∧ demand.capacity < demand.length

instance (demand : Demand) : Decidable demand.Overshoots :=
  inferInstanceAs (Decidable (_ ∧ _))

namespace PoolRun

def demand? (run : PoolRun) : PoolEvent → Option Demand
  | .lend request => some ⟨run.lent.length, run.pool.get.1.capacity, request.length⟩
  | .use buffer (.resize length) =>
    (run.held? buffer).map fun storage => ⟨buffer, storage.capacity, length⟩
  | .use _ (.write _) | .use _ (.truncate _) | .drop _ => none

def Stretches (run : PoolRun) (event : PoolEvent) (buffer : Nat) : Prop :=
  ∃ demand, run.demand? event = some demand ∧ demand.buffer = buffer ∧ demand.Overshoots

def WasStretched (size : Nat) (events : List PoolEvent) (buffer : Nat) : Prop :=
  ∃ front event back run, events = front ++ event :: back ∧ after? size front = some run ∧
    run.Stretches event buffer

def DropsUnstretched (size : Nat) (events : List PoolEvent) : Prop :=
  ∀ front buffer back, events = front ++ .drop buffer :: back → ¬ WasStretched size front buffer

def ReturnsDropped (size : Nat) (events : List PoolEvent) : Prop :=
  ∀ front buffer back before after, events = front ++ .drop buffer :: back →
    after? size front = some before → before.step? (.drop buffer) = some after →
      after.pool.available = before.pool.available + 1

/-- Dropped buffers come back, and when all are dropped the pool has at least as many as at the
beginning. -/
structure KeepsBuffers (size : Nat) (events : List PoolEvent) : Prop where
  returned : ReturnsDropped size events
  restored : ∀ run, after? size events = some run → run.lent.reduceOption = [] →
    size ≤ run.pool.available

variable {run next : PoolRun} {event : PoolEvent} {events : List PoolEvent}
  {buffer size length : Nat} {storage : Storage}

theorem capacity_resize_gt_iff (buffer : Nat) (h : length ≤ maxPacketSize) :
    maxPacketSize < (storage.resize length).capacity ↔ maxPacketSize < storage.capacity ∨
      Demand.Overshoots ⟨buffer, storage.capacity, length⟩ := by
  simp only [Storage.resize, Demand.Overshoots]
  split <;> omega

theorem capacity_lend (pool : BufferPool) (request : BufferRequest) :
    (pool.lend request).1.capacity = (pool.get.1.resize request.length).capacity := by
  cases request with
  | empty =>
    rw [Storage.resize, BufferRequest.length, if_neg (Nat.not_lt_zero _)]
    rfl
  | zeroed length => rfl
  | packet => rfl

theorem wasStretched_concat (h : after? size events = some run) :
    WasStretched size (events ++ [event]) buffer ↔
      WasStretched size events buffer ∨ run.Stretches event buffer := by
  constructor
  · rintro ⟨front, other, back, before, heq, hbefore, hstretches⟩
    rcases List.eq_nil_or_concat back with rfl | ⟨back, last, rfl⟩
    · obtain ⟨rfl, hevent⟩ := List.append_inj' heq rfl
      obtain rfl := List.singleton_inj.1 hevent
      obtain rfl := Option.some.inj (hbefore.symm.trans h)
      exact .inr hstretches
    · rw [List.concat_eq_append, ← List.cons_append, ← List.append_assoc] at heq
      exact .inl ⟨front, other, back, before, (List.append_inj' heq rfl).1, hbefore, hstretches⟩
  · rintro (⟨front, other, back, before, rfl, hbefore, hstretches⟩ | hstretches)
    · exact ⟨front, other, back ++ [event], before, List.append_assoc _ _ _, hbefore, hstretches⟩
    · exact ⟨events, event, [], run, rfl, h, hstretches⟩

/-- In the pool nothing is larger than the largest packet, and a lent buffer is only where it was
stretched. -/
structure Tight (run : PoolRun) (size : Nat) (events : List PoolEvent) : Prop where
  pooled : ∀ storage ∈ run.pool.free, storage.capacity ≤ maxPacketSize
  lent : ∀ buffer, WasStretched size events buffer → buffer < run.lent.length
  held : ∀ buffer storage, run.held? buffer = some storage →
    (maxPacketSize < storage.capacity ↔ WasStretched size events buffer)

theorem fitsPackets_concat_iff : FitsPackets (events ++ [event]) ↔
    FitsPackets events ∧ ∀ length, event.length? = some length → length ≤ maxPacketSize := by
  rw [FitsPackets, List.filterMap_append, List.forall_mem_append, FitsPackets]
  refine and_congr_right fun _ => ?_
  rw [List.filterMap_cons]
  cases event.length? <;> simp

theorem freshCapacity_le : freshCapacity ≤ maxPacketSize := by decide

theorem tight_new (size : Nat) : (new size).Tight size [] where
  pooled := by
    intro storage hmem
    obtain ⟨number, -, rfl⟩ := List.mem_map.1 (List.mem_reverse.1 hmem)
    exact freshCapacity_le
  lent := by
    rintro buffer ⟨front, event, back, run, heq, -⟩
    exact absurd heq.symm (List.append_ne_nil_of_right_ne_nil front (List.cons_ne_nil _ _))
  held _ _ hheld := by cases hheld

theorem Tight.capacity_get_le (h : run.Tight size events) :
    run.pool.get.1.capacity ≤ maxPacketSize := by
  rcases run.pool.get_cases with ⟨storage, rest, hfree, hget⟩ | ⟨-, hget⟩
  · rw [hget]
    exact h.pooled storage (hfree ▸ List.mem_cons_self)
  · rw [hget]
    exact freshCapacity_le

theorem Tight.lend (h : run.Tight size events) (hrun : after? size events = some run)
    (request : BufferRequest) (hfits : request.length ≤ maxPacketSize) :
    Tight ⟨(run.pool.lend request).2, run.lent ++ [some (run.pool.lend request).1]⟩ size
      (events ++ [.lend request]) := by
  have hstretches : ∀ buffer, run.Stretches (.lend request) buffer ↔ run.lent.length = buffer ∧
      Demand.Overshoots ⟨run.lent.length, run.pool.get.1.capacity, request.length⟩ := by
    intro buffer
    simp [Stretches, demand?]
  refine ⟨?_, ?_, ?_⟩
  · intro storage hmem
    rw [BufferPool.lend_snd] at hmem
    rcases run.pool.get_cases with ⟨first, rest, hfree, hget⟩ | ⟨hfree, hget⟩
    · rw [hget] at hmem
      exact h.pooled storage (hfree ▸ List.mem_cons_of_mem _ hmem)
    · rw [hget] at hmem
      exact h.pooled storage hmem
  · intro buffer hwas
    rw [List.length_append, List.length_singleton]
    rcases (wasStretched_concat hrun).1 hwas with hwas | hnow
    · exact Nat.lt_succ_of_lt (h.lent buffer hwas)
    · rw [((hstretches buffer).1 hnow).1]
      exact Nat.lt_succ_self _
  · intro buffer storage hheld
    rw [held?_lend] at hheld
    rw [wasStretched_concat hrun, hstretches]
    split at hheld
    · rename_i hbuffer
      obtain rfl := Option.some.inj hheld
      have hnew : ¬ WasStretched size events buffer :=
        fun hwas => (h.lent buffer hwas).ne hbuffer
      rw [capacity_lend, capacity_resize_gt_iff run.lent.length hfits,
        or_iff_right hnew, or_iff_right (Nat.not_lt.2 h.capacity_get_le),
        and_iff_right hbuffer.symm]
    · rename_i hbuffer
      rw [h.held buffer storage hheld, or_iff_left (fun hnow => hbuffer hnow.1.symm)]

theorem Tight.use (h : run.Tight size events) (hrun : after? size events = some run)
    (hheld : run.held? buffer = some storage) (use : BufferUse)
    (hfits : ∀ length, (PoolEvent.use buffer use).length? = some length → length ≤ maxPacketSize) :
    Tight { run with lent := run.lent.set buffer (some (use.apply storage)) } size
      (events ++ [.use buffer use]) := by
  have hgrown : maxPacketSize < (use.apply storage).capacity ↔
      maxPacketSize < storage.capacity ∨ run.Stretches (.use buffer use) buffer := by
    cases use with
    | write change => simp [Stretches, demand?, BufferUse.apply, Storage.write]
    | resize length =>
      rw [BufferUse.apply, capacity_resize_gt_iff buffer (hfits length rfl)]
      simp [Stretches, demand?, hheld]
    | truncate length => simp [Stretches, demand?, BufferUse.apply, Storage.truncate]
  have hstretches : ∀ other, run.Stretches (.use buffer use) other → other = buffer := by
    rintro other ⟨demand, hdemand, rfl, -⟩
    cases use with
    | resize length =>
      obtain ⟨_, -, rfl⟩ := Option.map_eq_some_iff.1 hdemand
      rfl
    | write change => cases hdemand
    | truncate length => cases hdemand
  refine ⟨h.pooled, ?_, ?_⟩
  · intro other hwas
    rw [List.length_set]
    rcases (wasStretched_concat hrun).1 hwas with hwas | hnow
    · exact h.lent other hwas
    · rw [hstretches other hnow]
      exact (List.getElem?_eq_some_iff.1 (held?_eq_some_iff.1 hheld)).1
  · intro other storage' hheld'
    rw [held?_set hheld] at hheld'
    rw [wasStretched_concat hrun]
    split at hheld'
    · rename_i hother
      subst hother
      obtain rfl := Option.some.inj hheld'
      rw [hgrown, h.held other storage hheld]
    · rename_i hother
      rw [h.held other storage' hheld', or_iff_left (fun hnow => hother (hstretches other hnow))]

theorem Tight.drop (h : run.Tight size events) (hrun : after? size events = some run)
    (hheld : run.held? buffer = some storage) :
    Tight ⟨run.pool.release storage, run.lent.set buffer none⟩ size
      (events ++ [.drop buffer]) := by
  have hstretches : ∀ other, ¬ run.Stretches (.drop buffer) other := by
    rintro other ⟨demand, hdemand, -⟩
    cases hdemand
  refine ⟨?_, ?_, ?_⟩
  · rw [BufferPool.release]
    split
    · rename_i hkept
      exact List.forall_mem_cons.2 ⟨hkept, h.pooled⟩
    · exact h.pooled
  · intro other hwas
    rw [List.length_set]
    rw [wasStretched_concat hrun, or_iff_left (hstretches other)] at hwas
    exact h.lent other hwas
  · intro other storage' hheld'
    rw [held?_set hheld] at hheld'
    rw [wasStretched_concat hrun, or_iff_left (hstretches other)]
    split at hheld'
    · cases hheld'
    · exact h.held other storage' hheld'

theorem tight_of_after (hfits : FitsPackets events) (h : after? size events = some run) :
    run.Tight size events := by
  refine after_induction (P := fun run events => FitsPackets events → run.Tight size events)
    (fun _ => tight_new size) ?_ h hfits
  intro run events event next hrun hstep hbefore hfits
  obtain ⟨hfits, hlength⟩ := fitsPackets_concat_iff.1 hfits
  have htight := hbefore hfits
  rcases step_cases hstep with ⟨request, rfl, rfl⟩ | ⟨buffer, use, storage, rfl, hheld, rfl⟩ |
    ⟨buffer, storage, rfl, hheld, rfl⟩
  · exact htight.lend hrun request (hlength _ rfl)
  · exact htight.use hrun hheld use hlength
  · exact htight.drop hrun hheld

theorem available_release (pool : BufferPool) (storage : Storage) :
    (pool.release storage).available = pool.available + 1 ↔ storage.capacity ≤ maxPacketSize := by
  rw [BufferPool.release]
  split
  · rename_i hkept
    exact iff_of_true rfl hkept
  · rename_i hlost
    exact iff_of_false (Nat.ne_of_lt (Nat.lt_succ_self _)) hlost

theorem available_drop_iff (hfits : FitsPackets events) (h : after? size events = some run)
    (hstep : run.step? (.drop buffer) = some next) :
    next.pool.available = run.pool.available + 1 ↔ ¬ WasStretched size events buffer := by
  obtain ⟨storage, hheld, rfl⟩ := Option.map_eq_some_iff.1 hstep
  rw [← (tight_of_after hfits h).held buffer storage hheld, Nat.not_lt]
  exact available_release run.pool storage

theorem length_numbers (run : PoolRun) :
    run.numbers.length = run.pool.available + run.lent.reduceOption.length := by
  rw [numbers, List.length_map, storages, List.length_append]
  rfl

theorem length_numbers_le (hstep : run.step? event = some next)
    (hreturned : ∀ buffer, event = .drop buffer →
      next.pool.available = run.pool.available + 1) :
    run.numbers.length ≤ next.numbers.length := by
  rcases step_cases hstep with ⟨request, rfl, rfl⟩ | ⟨buffer, use, storage, rfl, hheld, rfl⟩ |
    ⟨buffer, storage, rfl, hheld, rfl⟩
  · rw [numbers_lend, List.length_append, List.length_map, List.length_append,
      List.length_singleton, length_numbers, BufferPool.available]
    rcases run.pool.get_cases with ⟨first, rest, hfree, hget⟩ | ⟨hfree, hget⟩
    · rw [hget, hfree, List.length_cons]
      exact (Nat.add_right_comm _ _ _).le
    · rw [hget]
      exact Nat.le_succ _
  · rw [numbers_use hheld]
  · have hback := hreturned buffer rfl
    rw [(numbers_drop hheld).length_eq, List.length_cons, length_numbers, length_numbers, hback]
    exact (Nat.add_right_comm _ _ _).le

theorem le_length_numbers (h : after? size events = some run)
    (hreturned : ReturnsDropped size events) : size ≤ run.numbers.length := by
  refine after_induction
    (P := fun run events => ReturnsDropped size events → size ≤ run.numbers.length)
    ?_ ?_ h hreturned
  · intro _
    simp [length_numbers, new, BufferPool.new, BufferPool.available]
  · intro run events event next hrun hstep hbefore hreturned
    refine (hbefore ?_).trans (length_numbers_le hstep ?_)
    · intro front buffer back before after heq
      exact hreturned front buffer (back ++ [event]) before after
        (by rw [heq, List.append_assoc, List.cons_append])
    · rintro buffer rfl
      exact hreturned events buffer [] run next rfl hrun hstep

/-- As long as no more than the largest packet is asked for, exactly the histories that drop no
stretched buffer keep all their buffers. -/
theorem keepsBuffers_iff (hfits : FitsPackets events) (h : after? size events = some run) :
    KeepsBuffers size events ↔ DropsUnstretched size events := by
  have hfront : ∀ front back, events = front ++ back → FitsPackets front := by
    rintro front back rfl length hlength
    exact hfits length (List.filterMap_append ▸ List.mem_append_left _ hlength)
  constructor
  · rintro hkeeps front buffer back rfl
    rw [after?_append] at h
    obtain ⟨before, hbefore, hrest⟩ := Option.bind_eq_some_iff.1 h
    obtain ⟨after, hstep, -⟩ := Option.bind_eq_some_iff.1 hrest
    exact (available_drop_iff (hfront _ _ rfl) hbefore hstep).1
      (hkeeps.returned front buffer back before after rfl hbefore hstep)
  · intro hnone
    have hreturned : ReturnsDropped size events := by
      intro front buffer back before after heq hbefore hstep
      exact (available_drop_iff (hfront _ _ heq) hbefore hstep).2 (hnone front buffer back heq)
    refine ⟨hreturned, ?_⟩
    intro last hlast hdropped
    have hle := le_length_numbers hlast hreturned
    rwa [length_numbers, hdropped, List.length_nil, Nat.add_zero] at hle

/-- Storage for a short packet is made large enough for the largest one. -/
def shortThenLargest : List PoolEvent :=
  [.lend (.zeroed 3000), .drop 0, .lend .packet, .use 1 (.truncate 60), .drop 1]

theorem dropsUnstretched_of_demands (h : ∀ place < events.length,
    ∀ run ∈ after? size (events.take place), ∀ event ∈ events[place]?,
      ∀ demand ∈ run.demand? event, ¬ demand.Overshoots) : DropsUnstretched size events := by
  rintro front buffer back rfl ⟨before, event, rest, run, rfl, hrun, demand, hdemand, -, hover⟩
  rw [List.append_assoc, List.cons_append] at h
  refine h before.length ?_ run ?_ event ?_ demand hdemand hover
  · rw [List.length_append, List.length_cons]
    omega
  · rw [List.take_left]
    exact hrun
  · rw [List.getElem?_append_right le_rfl, Nat.sub_self]
    rfl

/-- The storage that was asked for twice is back in the pool. -/
theorem keepsBuffers_iff_shortThenLargest :
    FitsPackets shortThenLargest ∧
      after? 1 shortThenLargest = some ⟨⟨[⟨0, 32767, []⟩], 1, 1⟩, [none, none]⟩ ∧
      (KeepsBuffers 1 shortThenLargest ↔ DropsUnstretched 1 shortThenLargest) ∧
      KeepsBuffers 1 shortThenLargest := by
  have hfits : FitsPackets shortThenLargest := by decide
  have h : after? 1 shortThenLargest = some ⟨⟨[⟨0, 32767, []⟩], 1, 1⟩, [none, none]⟩ := by rfl
  have hunstretched : DropsUnstretched 1 shortThenLargest :=
    dropsUnstretched_of_demands (by decide)
  exact ⟨hfits, h, keepsBuffers_iff hfits h, (keepsBuffers_iff hfits h).2 hunstretched⟩

/-- Storage for a long packet is made large enough for the largest one, and too large for the
pool. -/
def longThenLargest : List PoolEvent :=
  [.lend (.zeroed 20000), .drop 0, .lend .packet, .use 1 (.truncate 60), .drop 1]

theorem not_keepsBuffers_longThenLargest :
    FitsPackets longThenLargest ∧
      after? 1 longThenLargest = some ⟨⟨[], 1, 1⟩, [none, none]⟩ ∧
      ¬ KeepsBuffers 1 longThenLargest := by
  have h : after? 1 longThenLargest = some ⟨⟨[], 1, 1⟩, [none, none]⟩ := by rfl
  refine ⟨by decide, h, fun hkeeps => ?_⟩
  exact absurd (hkeeps.restored _ h rfl) (by decide)

end PoolRun

end Sinkhole
