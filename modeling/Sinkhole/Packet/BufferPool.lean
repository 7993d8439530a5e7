import Sinkhole.Octets

/-! # Buffer pool

Scratch space for packets is lent from a pool and comes back empty. Storage keeps its capacity in
the pool; storage that has outgrown the largest packet is given up when it comes back. Each piece
of storage has a number of its own, so that it can be told whether it is lent or free.
-/
namespace Sinkhole

/-- The largest packet read in one go. -/
def maxPacketSize : Nat := 32767

def freshCapacity : Nat := 2048

/-- One piece of storage and the octets in use. -/
structure Storage where
  number : Nat
  capacity : Nat
  contents : Bytes
deriving DecidableEq, Repr

namespace Storage

def fresh (number : Nat) : Storage := ⟨number, freshCapacity, []⟩

/-- Cuts or extends the contents to a length, new octets being zero. Storage that is too small
grows to twice its capacity, or to the length if that is more. -/
def resize (storage : Storage) (length : Nat) : Storage :=
  { storage with
    capacity := if storage.capacity < length then max (2 * storage.capacity) length
      else storage.capacity
    contents := storage.contents.take length ++
      List.replicate (length - storage.contents.length) 0 }

def truncate (storage : Storage) (length : Nat) : Storage :=
  { storage with contents := storage.contents.take length }

def fill (storage : Storage) (octet : UInt8) : Storage :=
  { storage with contents := List.replicate storage.contents.length octet }

@[simp] theorem length_resize (storage : Storage) (length : Nat) :
    (storage.resize length).contents.length = length := by
  simp only [resize, List.length_append, List.length_take, List.length_replicate]
  omega

end Storage

/-- The free storage, last returned first, and how much has ever been made. -/
structure BufferPool where
  free : List Storage
  initialSize : Nat
  made : Nat
deriving DecidableEq, Repr

namespace BufferPool

def new (size : Nat) : BufferPool :=
  ⟨((List.range size).map Storage.fresh).reverse, size, size⟩

def defaultSize : Nat := 64

/-- Lends the storage returned last, or fresh storage when none is free. -/
def get (pool : BufferPool) : Storage × BufferPool :=
  match pool.free with
  | storage :: rest => (storage, { pool with free := rest })
  | [] => (Storage.fresh pool.made, { pool with made := pool.made + 1 })

/-- Lends storage holding `length` zero octets. -/
def getZeroed (pool : BufferPool) (length : Nat) : Storage × BufferPool :=
  let (storage, pool) := pool.get
  (storage.resize length, pool)

def getPacket (pool : BufferPool) : Storage × BufferPool :=
  pool.getZeroed maxPacketSize

/-- Takes storage back, emptied, unless it has outgrown the largest packet. -/
def release (pool : BufferPool) (storage : Storage) : BufferPool :=
  if storage.capacity ≤ maxPacketSize then
    { pool with free := { storage with contents := [] } :: pool.free }
  else pool

def available (pool : BufferPool) : Nat := pool.free.length

end BufferPool

end Sinkhole
