import Mathlib
import Sinkhole.Packet.Response

/-! # Packets from borrowed storage

Storage goes back to its pool emptied, so what is written into it later does not depend on what it
was used for. A packet that is built from a pool is the one written into fresh zero octets.
-/
namespace Sinkhole

namespace BufferPool

def Clean (pool : BufferPool) : Prop :=
  ∀ storage ∈ pool.free, storage.contents = []

variable {pool : BufferPool}

theorem clean_new (size : Nat) : (new size).Clean := by
  intro storage hmem
  rw [new, List.mem_reverse, List.mem_map] at hmem
  obtain ⟨number, -, rfl⟩ := hmem
  rfl

theorem Clean.get (h : pool.Clean) : pool.get.1.contents = [] ∧ pool.get.2.Clean := by
  rcases pool with ⟨_ | ⟨storage, rest⟩, initialSize, made⟩
  · exact ⟨rfl, h⟩
  · refine ⟨h storage List.mem_cons_self, ?_⟩
    intro other hmem
    exact h other (List.mem_cons_of_mem _ hmem)

theorem Clean.getZeroed (h : pool.Clean) (length : Nat) :
    (pool.getZeroed length).1.contents = List.replicate length 0 ∧
      (pool.getZeroed length).2.Clean := by
  obtain ⟨hempty, hclean⟩ := h.get
  refine ⟨?_, hclean⟩
  change (pool.get.1.resize length).contents = _
  rw [Storage.resize, hempty, List.take_nil, List.nil_append, List.length_nil, Nat.sub_zero]

theorem Clean.release (h : pool.Clean) (storage : Storage) : (pool.release storage).Clean := by
  rw [BufferPool.release]
  split
  · intro other hmem
    rcases List.mem_cons.1 hmem with rfl | hmem
    · rfl
    · exact h other hmem
  · exact h

end BufferPool

namespace Packet

/-- A pool whose storage came back emptied builds what fresh octets give, and stays so. -/
theorem buildResponse_eq_response {pool : BufferPool} (h : pool.Clean) (payload : Bytes)
    (request : Flow) :
    (buildResponse pool payload request).1 = response payload request ∧
      (buildResponse pool payload request).2.Clean := by
  rw [buildResponse, response]
  split
  · exact ⟨rfl, h⟩
  · obtain ⟨hzero, hclean⟩ := h.getZeroed (packetSize request.reversed payload.length)
    refine ⟨?_, hclean.release _⟩
    exact congrArg (fun scratch => Except.ok (writePacket request.reversed payload scratch)) hzero

end Packet

end Sinkhole
