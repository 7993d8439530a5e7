import Sinkhole.Proofs.Packet.Lengths
import Sinkhole.Proofs.Packet.Pool

/-! # Lending buffers

A history says what is asked of a pool and done with the buffers that it lent, in any order. A pool
and its clones have one stock, so it does not matter through which of them a buffer is lent or
comes back. Buffers are numbered as they are lent; the storage behind them has numbers of its own,
which tell whether two buffers share it.

Main statements: storage is never in two places, what comes out of the pool is empty or zero, and a
buffer always holds what its own uses have made of fresh storage. So a packet that is built from the
pool does not depend on what the pool was used for before.
-/
namespace Sinkhole

inductive BufferRequest where
  | empty
  | zeroed (length : Nat)
  | packet

inductive BufferUse where
  /-- The octets in use are replaced by what is computed from them. -/
  | write (change : Bytes → Bytes)
  | resize (length : Nat)
  | truncate (length : Nat)

inductive PoolEvent where
  | lend (request : BufferRequest)
  | use (buffer : Nat) (use : BufferUse)
  | drop (buffer : Nat)

def BufferRequest.length : BufferRequest → Nat
  | empty => 0
  | zeroed length => length
  | packet => maxPacketSize

def BufferPool.lend (pool : BufferPool) : BufferRequest → Storage × BufferPool
  | .empty => pool.get
  | .zeroed length => pool.getZeroed length
  | .packet => pool.getPacket

def Storage.write (storage : Storage) (change : Bytes → Bytes) : Storage :=
  { storage with contents := overwrite 0 (change storage.contents) storage.contents }

def BufferUse.apply (storage : Storage) : BufferUse → Storage
  | write change => storage.write change
  | resize length => storage.resize length
  | truncate length => storage.truncate length

/-- A pool and the storage of the buffers that it has lent. -/
structure PoolRun where
  pool : BufferPool
  /-- In the order of lending; nothing stands for a buffer that was dropped. -/
  lent : List (Option Storage)
deriving DecidableEq

namespace PoolRun

def new (size : Nat) : PoolRun := ⟨BufferPool.new size, []⟩

def held? (run : PoolRun) (buffer : Nat) : Option Storage := (run.lent[buffer]?).join

/-- The pool and its buffers after an event, if it can happen: only buffers that are lent can be
used or dropped. -/
def step? (run : PoolRun) : PoolEvent → Option PoolRun
  | .lend request =>
    some ⟨(run.pool.lend request).2, run.lent ++ [some (run.pool.lend request).1]⟩
  | .use buffer use => (run.held? buffer).map fun storage =>
    { run with lent := run.lent.set buffer (some (use.apply storage)) }
  | .drop buffer => (run.held? buffer).map fun storage =>
    ⟨run.pool.release storage, run.lent.set buffer none⟩

def through? (run : PoolRun) (events : List PoolEvent) : Option PoolRun :=
  events.foldlM step? run

def after? (size : Nat) (events : List PoolEvent) : Option PoolRun := (new size).through? events

/-- The storage that is in the pool or lent. -/
def storages (run : PoolRun) : List Storage := run.pool.free ++ run.lent.reduceOption

def numbers (run : PoolRun) : List Nat := run.storages.map Storage.number

end PoolRun

def PoolEvent.request? : PoolEvent → Option BufferRequest
  | .lend request => some request
  | .use _ _ | .drop _ => none

def PoolEvent.useOf? (buffer : Nat) : PoolEvent → Option BufferUse
  | .use other action => if other = buffer then some action else none
  | .lend _ | .drop _ => none

def requestsIn (events : List PoolEvent) : List BufferRequest :=
  events.filterMap PoolEvent.request?

def usesIn (events : List PoolEvent) (buffer : Nat) : List BufferUse :=
  events.filterMap (PoolEvent.useOf? buffer)

/-- What a request and some uses make of storage that nobody else has ever had. -/
def BufferRequest.alone (request : BufferRequest) (uses : List BufferUse) : Storage :=
  uses.foldl BufferUse.apply ((Storage.fresh 0).resize request.length)

def buildingIn (buffer : Nat) (payload : Bytes) (flow : Flow) : List PoolEvent :=
  [.lend (.zeroed (Packet.packetSize flow payload.length)),
    .use buffer (.write (Packet.writePacket flow payload)), .drop buffer]

/-- What a history leaves is clean, and every buffer holds what its own uses have made of it. -/
structure PoolRun.Unstained (run : PoolRun) (events : List PoolEvent) : Prop where
  pooled : ∀ storage ∈ run.pool.free, storage.contents = []
  unshared : run.numbers.Nodup
  got : run.pool.get.1.contents = []
  zeroed : ∀ length, (run.pool.getZeroed length).1.contents = List.replicate length 0
  own : ∀ buffer storage, run.held? buffer = some storage →
    ∃ request, (requestsIn events)[buffer]? = some request ∧
      storage.contents = (request.alone (usesIn events buffer)).contents
  built : ∀ payload request,
    (Packet.buildResponse run.pool payload request).1 = Packet.response payload request
  /-- What building a packet does to the pool is a piece of history too. -/
  building : ∀ payload (request : Flow), request.source.isV6 = request.destination.isV6 →
    run.through? (buildingIn run.lent.length payload request.reversed) =
      some ⟨(Packet.buildResponse run.pool payload request).2, run.lent ++ [none]⟩

theorem BufferUse.number_apply (use : BufferUse) (storage : Storage) :
    (use.apply storage).number = storage.number := by
  cases use <;> rfl

theorem BufferUse.contents_apply_congr (use : BufferUse) {storage other : Storage}
    (h : storage.contents = other.contents) :
    (use.apply storage).contents = (use.apply other).contents := by
  cases use with
  | write change => simp only [apply, Storage.write, h]
  | resize length => simp only [apply, Storage.resize, h]
  | truncate length => simp only [apply, Storage.truncate, h]

theorem BufferRequest.alone_concat (request : BufferRequest) (uses : List BufferUse)
    (use : BufferUse) : request.alone (uses ++ [use]) = use.apply (request.alone uses) := by
  rw [alone, List.foldl_concat]
  rfl

theorem BufferRequest.contents_alone_nil (request : BufferRequest) :
    (request.alone []).contents = List.replicate request.length 0 := by
  change (Storage.fresh 0).contents.take request.length ++ _ = _
  rw [Storage.fresh, List.take_nil, List.nil_append, List.length_nil, Nat.sub_zero]

namespace BufferPool

variable {pool : BufferPool}

theorem lend_snd (pool : BufferPool) (request : BufferRequest) :
    (pool.lend request).2 = pool.get.2 := by
  cases request <;> rfl

theorem number_lend (pool : BufferPool) (request : BufferRequest) :
    (pool.lend request).1.number = pool.get.1.number := by
  cases request <;> rfl

theorem Clean.lend (h : pool.Clean) (request : BufferRequest) :
    (pool.lend request).1.contents = List.replicate request.length 0 ∧
      (pool.lend request).2.Clean := by
  cases request with
  | empty => exact h.get
  | zeroed length => exact h.getZeroed length
  | packet => exact h.getZeroed maxPacketSize

theorem get_cases (pool : BufferPool) :
    (∃ storage rest, pool.free = storage :: rest ∧
      pool.get = (storage, { pool with free := rest })) ∨
    (pool.free = [] ∧
      pool.get = (Storage.fresh pool.made, { pool with made := pool.made + 1 })) := by
  rcases pool with ⟨_ | ⟨storage, rest⟩, initialSize, made⟩
  · exact .inr ⟨rfl, rfl⟩
  · exact .inl ⟨storage, rest, rfl, rfl⟩

end BufferPool

namespace PoolRun

variable {run next : PoolRun} {event : PoolEvent} {events front back : List PoolEvent}
  {buffer size : Nat} {storage : Storage}

theorem held?_eq_some_iff : run.held? buffer = some storage ↔
    run.lent[buffer]? = some (some storage) := by
  rw [held?, Option.join_eq_some_iff]

theorem step_cases (h : run.step? event = some next) :
    (∃ request, event = .lend request ∧
      next = ⟨(run.pool.lend request).2, run.lent ++ [some (run.pool.lend request).1]⟩) ∨
    (∃ buffer use storage, event = .use buffer use ∧ run.held? buffer = some storage ∧
      next = { run with lent := run.lent.set buffer (some (use.apply storage)) }) ∨
    (∃ buffer storage, event = .drop buffer ∧ run.held? buffer = some storage ∧
      next = ⟨run.pool.release storage, run.lent.set buffer none⟩) := by
  cases event with
  | lend request => exact .inl ⟨request, rfl, (Option.some.inj h).symm⟩
  | use buffer use =>
    obtain ⟨storage, hheld, rfl⟩ := Option.map_eq_some_iff.1 h
    exact .inr (.inl ⟨buffer, use, storage, rfl, hheld, rfl⟩)
  | drop buffer =>
    obtain ⟨storage, hheld, rfl⟩ := Option.map_eq_some_iff.1 h
    exact .inr (.inr ⟨buffer, storage, rfl, hheld, rfl⟩)

theorem through?_cons : run.through? (event :: events) =
    (run.step? event).bind (·.through? events) := rfl

theorem after?_append (size : Nat) (front back : List PoolEvent) :
    after? size (front ++ back) = (after? size front).bind (·.through? back) :=
  List.foldlM_append

theorem after?_concat (size : Nat) (events : List PoolEvent) (event : PoolEvent) :
    after? size (events ++ [event]) = (after? size events).bind (·.step? event) := by
  rw [after?_append]
  refine congrArg _ (funext fun run => ?_)
  rw [through?_cons]
  cases run.step? event <;> rfl

theorem after_induction {P : PoolRun → List PoolEvent → Prop} (hnew : P (new size) [])
    (hstep : ∀ run events event next, after? size events = some run →
      run.step? event = some next → P run events → P next (events ++ [event]))
    (h : after? size events = some run) : P run events := by
  induction events using List.reverseRecOn generalizing run with
  | nil => exact Option.some.inj h ▸ hnew
  | append_singleton events event ih =>
    rw [after?_concat] at h
    obtain ⟨before, hbefore, hevent⟩ := Option.bind_eq_some_iff.1 h
    exact hstep before events event run hbefore hevent (ih hbefore)

theorem held?_lend (run : PoolRun) (pool : BufferPool) (lent : Storage) (other : Nat) :
    held? ⟨pool, run.lent ++ [some lent]⟩ other =
      if other = run.lent.length then some lent else run.held? other := by
  rw [held?, held?]
  rcases Nat.lt_trichotomy other run.lent.length with hlt | rfl | hgt
  · rw [List.getElem?_append_left hlt, if_neg hlt.ne]
  · rw [List.getElem?_append_right le_rfl, Nat.sub_self, if_pos rfl]
    rfl
  · rw [if_neg hgt.ne', List.getElem?_eq_none (by simp; omega), List.getElem?_eq_none hgt.le]

theorem held?_set (hheld : run.held? buffer = some storage) (pool : BufferPool)
    (left : Option Storage) (other : Nat) :
    held? ⟨pool, run.lent.set buffer left⟩ other =
      if other = buffer then left else run.held? other := by
  obtain ⟨hlt, -⟩ := List.getElem?_eq_some_iff.1 (held?_eq_some_iff.1 hheld)
  rw [held?, held?, List.getElem?_set]
  by_cases hother : buffer = other
  · rw [if_pos hother, if_pos hother.symm, if_pos hlt]
    rfl
  · rw [if_neg hother, if_neg (Ne.symm hother)]

theorem exists_split (hheld : run.held? buffer = some storage) :
    ∃ front back, run.lent = front ++ some storage :: back ∧
      ∀ left, run.lent.set buffer left = front ++ left :: back := by
  obtain ⟨hlt, hbuffer⟩ := List.getElem?_eq_some_iff.1 (held?_eq_some_iff.1 hheld)
  refine ⟨run.lent.take buffer, run.lent.drop (buffer + 1), ?_, ?_⟩
  · rw [← hbuffer, ← List.drop_eq_getElem_cons, List.take_append_drop]
  · exact fun left => List.set_eq_take_append_cons_drop.trans (if_pos hlt)

/-- Free storage is empty, and no storage is in two places. -/
structure Sound (run : PoolRun) : Prop where
  clean : run.pool.Clean
  unshared : run.numbers.Nodup
  made : ∀ number ∈ run.numbers, number < run.pool.made

theorem sound_new (size : Nat) : (new size).Sound := by
  have hnumbers : (new size).numbers = (List.range size).reverse := by
    rw [numbers, storages, new, BufferPool.new, List.reduceOption_nil, List.append_nil,
      List.map_reverse, List.map_map]
    exact congrArg List.reverse (List.map_id _)
  refine ⟨BufferPool.clean_new size, ?_, ?_⟩
  · rw [hnumbers, List.nodup_reverse]
    exact List.nodup_range
  · intro number hnumber
    rw [hnumbers, List.mem_reverse, List.mem_range] at hnumber
    exact hnumber

theorem numbers_lend (run : PoolRun) (request : BufferRequest) :
    numbers ⟨(run.pool.lend request).2, run.lent ++ [some (run.pool.lend request).1]⟩ =
      (run.pool.get.2.free ++ run.lent.reduceOption).map Storage.number ++
        [run.pool.get.1.number] := by
  rw [numbers, storages, List.reduceOption_append, List.reduceOption_cons_of_some,
    List.reduceOption_nil, ← List.append_assoc, List.map_append, List.map_singleton,
    BufferPool.number_lend, BufferPool.lend_snd]

theorem numbers_use (hheld : run.held? buffer = some storage) (use : BufferUse) :
    numbers { run with lent := run.lent.set buffer (some (use.apply storage)) } = run.numbers := by
  obtain ⟨front, back, hlent, hset⟩ := exists_split hheld
  rw [numbers, storages, hset, numbers, storages, hlent]
  simp only [List.reduceOption_append, List.reduceOption_cons_of_some, List.map_append,
    List.map_cons, BufferUse.number_apply]

theorem numbers_drop (hheld : run.held? buffer = some storage) :
    run.numbers.Perm (storage.number ::
      numbers { run with lent := run.lent.set buffer none }) := by
  obtain ⟨front, back, hlent, hset⟩ := exists_split hheld
  rw [numbers, storages, numbers, storages, hset, hlent]
  simp only [List.reduceOption_append, List.reduceOption_cons_of_some,
    List.reduceOption_cons_of_none, List.map_append, List.map_cons, ← List.append_assoc]
  exact List.perm_middle

theorem Sound.lend (h : run.Sound) (request : BufferRequest) :
    Sound ⟨(run.pool.lend request).2, run.lent ++ [some (run.pool.lend request).1]⟩ := by
  have hclean := (h.clean.lend request).2
  have hperm := (List.perm_append_singleton run.pool.get.1.number
    ((run.pool.get.2.free ++ run.lent.reduceOption).map Storage.number))
  rw [← numbers_lend run request] at hperm
  rcases run.pool.get_cases with ⟨free, rest, hfree, hget⟩ | ⟨hfree, hget⟩
  · have hnumbers : run.numbers = run.pool.get.1.number ::
        (run.pool.get.2.free ++ run.lent.reduceOption).map Storage.number := by
      rw [numbers, storages, hfree, hget]
      rfl
    rw [← hnumbers] at hperm
    refine ⟨hclean, hperm.nodup_iff.2 h.unshared, fun number hnumber => ?_⟩
    rw [BufferPool.lend_snd, hget]
    exact h.made number (hperm.mem_iff.1 hnumber)
  · -- new storage has a number that was never given before
    have hnumbers : run.numbers =
        (run.pool.get.2.free ++ run.lent.reduceOption).map Storage.number := by
      rw [numbers, storages, hget]
    have hmade : run.pool.get.1.number = run.pool.made := by rw [hget]; rfl
    rw [← hnumbers, hmade] at hperm
    refine ⟨hclean, hperm.nodup_iff.2 (List.nodup_cons.2 ⟨?_, h.unshared⟩), ?_⟩
    · exact fun hmem => Nat.lt_irrefl _ (h.made _ hmem)
    · intro number hnumber
      rw [BufferPool.lend_snd, hget]
      rcases List.mem_cons.1 (hperm.mem_iff.1 hnumber) with rfl | hmem
      · exact Nat.lt_succ_self _
      · exact Nat.lt_succ_of_lt (h.made number hmem)

theorem Sound.use (h : run.Sound) (hheld : run.held? buffer = some storage) (use : BufferUse) :
    Sound { run with lent := run.lent.set buffer (some (use.apply storage)) } := by
  refine ⟨h.clean, ?_, ?_⟩
  · rw [numbers_use hheld]
    exact h.unshared
  · rw [numbers_use hheld]
    exact h.made

theorem Sound.drop (h : run.Sound) (hheld : run.held? buffer = some storage) :
    Sound ⟨run.pool.release storage, run.lent.set buffer none⟩ := by
  have hperm := numbers_drop hheld
  have hclean := h.clean.release storage
  rw [BufferPool.release] at hclean ⊢
  split
  · rename_i hkept
    rw [if_pos hkept] at hclean
    have hnumbers : numbers ⟨{ run.pool with
          free := { storage with contents := [] } :: run.pool.free }, run.lent.set buffer none⟩ =
        storage.number :: numbers { run with lent := run.lent.set buffer none } := rfl
    rw [← hnumbers] at hperm
    exact ⟨hclean, hperm.nodup_iff.1 h.unshared,
      fun number hnumber => h.made number (hperm.mem_iff.2 hnumber)⟩
  · exact ⟨h.clean, (List.nodup_cons.1 (hperm.nodup_iff.1 h.unshared)).2,
      fun number hnumber => h.made number (hperm.mem_iff.2 (List.mem_cons_of_mem _ hnumber))⟩

theorem Sound.step (h : run.Sound) (hstep : run.step? event = some next) : next.Sound := by
  rcases step_cases hstep with ⟨request, -, rfl⟩ | ⟨buffer, use, storage, -, hheld, rfl⟩ |
    ⟨buffer, storage, -, hheld, rfl⟩
  · exact h.lend request
  · exact h.use hheld use
  · exact h.drop hheld

theorem sound_of_after (h : after? size events = some run) : run.Sound :=
  after_induction (P := fun run _ => run.Sound) (sound_new size)
    (fun _ _ _ _ _ hstep hrun => hrun.step hstep) h

/-- Buffers are those asked for, and each holds what its own uses have made of fresh storage. -/
structure Recounts (run : PoolRun) (events : List PoolEvent) : Prop where
  lent : run.lent.length = (requestsIn events).length
  unused : ∀ buffer, run.lent.length ≤ buffer → usesIn events buffer = []
  own : ∀ buffer storage, run.held? buffer = some storage →
    ∃ request, (requestsIn events)[buffer]? = some request ∧
      storage.contents = (request.alone (usesIn events buffer)).contents

theorem recounts_new (size : Nat) : (new size).Recounts [] where
  lent := rfl
  unused _ _ := rfl
  own _ _ hheld := by cases hheld

theorem usesIn_concat (events : List PoolEvent) (event : PoolEvent) (buffer : Nat) :
    usesIn (events ++ [event]) buffer = usesIn events buffer ++ (event.useOf? buffer).toList := by
  rw [usesIn, List.filterMap_append, List.filterMap_cons]
  cases event.useOf? buffer <;> rfl

theorem requestsIn_concat (events : List PoolEvent) (event : PoolEvent) :
    requestsIn (events ++ [event]) = requestsIn events ++ event.request?.toList := by
  rw [requestsIn, List.filterMap_append, List.filterMap_cons]
  cases event.request? <;> rfl

theorem Recounts.lend (h : run.Recounts events) (hclean : run.pool.Clean)
    (request : BufferRequest) :
    Recounts ⟨(run.pool.lend request).2, run.lent ++ [some (run.pool.lend request).1]⟩
      (events ++ [.lend request]) := by
  have huses : ∀ buffer, usesIn (events ++ [.lend request]) buffer = usesIn events buffer :=
    fun buffer => (usesIn_concat _ _ _).trans (List.append_nil _)
  refine ⟨?_, ?_, ?_⟩
  · rw [requestsIn_concat, List.length_append, List.length_append, h.lent]
    rfl
  · intro buffer hbuffer
    rw [List.length_append] at hbuffer
    rw [huses]
    exact h.unused buffer (Nat.le_of_add_right_le hbuffer)
  · intro buffer storage hheld
    rw [held?_lend] at hheld
    rw [huses, requestsIn_concat]
    split at hheld
    · rename_i hbuffer
      obtain rfl := Option.some.inj hheld
      refine ⟨request, ?_, ?_⟩
      · rw [hbuffer, h.lent, List.getElem?_append_right le_rfl, Nat.sub_self]
        rfl
      · rw [h.unused buffer hbuffer.ge, request.contents_alone_nil]
        exact (hclean.lend request).1
    · obtain ⟨request', hrequest, hcontents⟩ := h.own buffer storage hheld
      refine ⟨request', ?_, hcontents⟩
      rw [List.getElem?_append_left (List.getElem?_eq_some_iff.1 hrequest).1, hrequest]

theorem Recounts.use (h : run.Recounts events) (hheld : run.held? buffer = some storage)
    (use : BufferUse) :
    Recounts { run with lent := run.lent.set buffer (some (use.apply storage)) }
      (events ++ [.use buffer use]) := by
  obtain ⟨hlt, -⟩ := List.getElem?_eq_some_iff.1 (held?_eq_some_iff.1 hheld)
  have hrequests : requestsIn (events ++ [.use buffer use]) = requestsIn events :=
    (requestsIn_concat _ _).trans (List.append_nil _)
  have hother : ∀ other, other ≠ buffer →
      usesIn (events ++ [.use buffer use]) other = usesIn events other := by
    intro other hne
    rw [usesIn_concat, PoolEvent.useOf?, if_neg hne.symm]
    exact List.append_nil _
  refine ⟨?_, ?_, ?_⟩
  · rw [hrequests, List.length_set, h.lent]
  · intro other hle
    rw [List.length_set] at hle
    rw [hother other (by omega)]
    exact h.unused other hle
  · intro other storage' hheld'
    rw [held?_set hheld] at hheld'
    rw [hrequests]
    split at hheld'
    · rename_i hbuffer
      subst hbuffer
      obtain rfl := Option.some.inj hheld'
      obtain ⟨request, hrequest, hcontents⟩ := h.own other storage hheld
      have huses : usesIn (events ++ [.use other use]) other = usesIn events other ++ [use] := by
        rw [usesIn_concat, PoolEvent.useOf?, if_pos rfl]
        rfl
      refine ⟨request, hrequest, ?_⟩
      rw [huses, request.alone_concat]
      exact use.contents_apply_congr hcontents
    · rename_i hne
      rw [hother other hne]
      exact h.own other storage' hheld'

theorem Recounts.drop (h : run.Recounts events) (hheld : run.held? buffer = some storage) :
    Recounts ⟨run.pool.release storage, run.lent.set buffer none⟩ (events ++ [.drop buffer]) := by
  have hrequests : requestsIn (events ++ [.drop buffer]) = requestsIn events :=
    (requestsIn_concat _ _).trans (List.append_nil _)
  have huses : ∀ other, usesIn (events ++ [.drop buffer]) other = usesIn events other :=
    fun other => (usesIn_concat _ _ _).trans (List.append_nil _)
  refine ⟨?_, ?_, ?_⟩
  · rw [hrequests, List.length_set, h.lent]
  · intro other hle
    rw [List.length_set] at hle
    rw [huses]
    exact h.unused other hle
  · intro other storage' hheld'
    rw [held?_set hheld] at hheld'
    rw [hrequests, huses]
    split at hheld'
    · cases hheld'
    · exact h.own other storage' hheld'

theorem recounts_of_after (h : after? size events = some run) : run.Recounts events := by
  refine after_induction (P := Recounts) (recounts_new size) ?_ h
  intro run events event next hrun hstep hrecounts
  rcases step_cases hstep with ⟨request, rfl, rfl⟩ | ⟨buffer, use, storage, rfl, hheld, rfl⟩ |
    ⟨buffer, storage, rfl, hheld, rfl⟩
  · exact hrecounts.lend (sound_of_after hrun).clean request
  · exact hrecounts.use hheld use
  · exact hrecounts.drop hheld

theorem through?_buildingIn (run : PoolRun) (payload : Bytes) (request : Flow)
    (hfamily : request.source.isV6 = request.destination.isV6) :
    run.through? (buildingIn run.lent.length payload request.reversed) =
      some ⟨(Packet.buildResponse run.pool payload request).2, run.lent ++ [none]⟩ := by
  let flow := request.reversed
  let taken := run.pool.getZeroed (Packet.packetSize flow payload.length)
  let lentRun : PoolRun := ⟨taken.2, run.lent ++ [some taken.1]⟩
  let written := taken.1.write (Packet.writePacket flow payload)
  let writtenRun : PoolRun := ⟨taken.2, run.lent ++ [some written]⟩
  have hbuild : (Packet.buildResponse run.pool payload request).2 = taken.2.release written := by
    rw [Packet.buildResponse, if_neg (by simp [hfamily])]
    rfl
  have hset : ∀ lent left : Option Storage,
      (run.lent ++ [lent]).set run.lent.length left = run.lent ++ [left] := by
    intro lent left
    rw [List.set_append_right _ _ le_rfl, Nat.sub_self]
    rfl
  have hwrite : lentRun.step? (.use run.lent.length (.write (Packet.writePacket flow payload))) =
      some writtenRun := by
    rw [step?, held?_lend, if_pos rfl, Option.map_some, hset]
    rfl
  have hdrop : writtenRun.step? (.drop run.lent.length) =
      some ⟨taken.2.release written, run.lent ++ [none]⟩ := by
    rw [step?, held?_lend, if_pos rfl, Option.map_some, hset]
  rw [hbuild, buildingIn, through?_cons]
  change (lentRun.through? _) = _
  rw [through?_cons, hwrite, Option.bind_some, through?_cons, hdrop]
  rfl

/-- Whatever is done with a pool, nothing of it is left in what the pool lends later or builds. -/
theorem unstained_of_after (h : after? size events = some run) : run.Unstained events := by
  have hsound := sound_of_after h
  exact ⟨hsound.clean, hsound.unshared, hsound.clean.get.1,
    fun length => (hsound.clean.getZeroed length).1, (recounts_of_after h).own,
    fun payload request => (Packet.buildResponse_eq_response hsound.clean payload request).1,
    through?_buildingIn run⟩

/-- The storage of a buffer that was written and grown is lent again, beside new storage. -/
def reusedStorage : List PoolEvent :=
  [.lend (.zeroed 3), .use 0 (.write fun _ => [7, 8, 9]), .use 0 (.resize 5), .use 0 (.truncate 4),
    .drop 0, .lend (.zeroed 2), .lend .empty, .use 2 (.resize 1)]

def reusedRun : PoolRun :=
  ⟨⟨[], 1, 2⟩, [none, some ⟨0, 2048, [0, 0]⟩, some ⟨1, 2048, [0]⟩]⟩

theorem unstained_of_after_reusedStorage :
    after? 1 reusedStorage = some reusedRun ∧ reusedRun.Unstained reusedStorage := by
  have h : after? 1 reusedStorage = some reusedRun := by rfl
  exact ⟨h, unstained_of_after h⟩

end PoolRun

end Sinkhole
