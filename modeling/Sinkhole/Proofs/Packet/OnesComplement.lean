import Mathlib
import Sinkhole.Packet.Checksum

/-! # One's-complement sums

Adding words with the carry put back in at the low end is adding modulo 65535, where only a sum of
no words or of zeros is zero and every other multiple of 65535 shows as sixteen ones. Folding the
carries of a plain sum gives the same, and so a checksum brings the words it is added to up to
sixteen ones.
-/
namespace Sinkhole.Packet

/-- The words of the octets, high octet first, an odd last octet padded with zero. -/
def words : Bytes → List Nat
  | hi :: lo :: rest => (hi.toNat * 256 + lo.toNat) :: words rest
  | [hi] => [hi.toNat * 256]
  | [] => []

/-- The sum of two words, a carry out of the sixteenth bit being added at the low end. -/
def addOnes (a b : Nat) : Nat :=
  if a + b < 65536 then a + b else a + b - 65535

/-- The one's-complement sum of the words. -/
def onesSum (octets : Bytes) : Nat :=
  (words octets).foldl addOnes 0

structure FoldsTo (sum folded : Nat) : Prop where
  lt : folded < 65536
  modEq : folded ≡ sum [MOD 65535]
  eq_zero_iff : folded = 0 ↔ sum = 0

namespace FoldsTo

variable {sum folded : Nat}

theorem self (h : sum < 65536) : FoldsTo sum sum :=
  ⟨h, Nat.ModEq.refl sum, Iff.rfl⟩

theorem unique {other : Nat} (h : FoldsTo sum folded) (h' : FoldsTo sum other) :
    folded = other := by
  have hcongr : folded % 65535 = other % 65535 := h.modEq.trans h'.modEq.symm
  have hzero : folded = 0 ↔ other = 0 := h.eq_zero_iff.trans h'.eq_zero_iff.symm
  have hlt := h.lt
  have hlt' := h'.lt
  omega

theorem eq_ones_iff (h : FoldsTo sum folded) : folded = 65535 ↔ 0 < sum ∧ 65535 ∣ sum := by
  have hcongr : folded % 65535 = sum % 65535 := h.modEq
  have hzero := h.eq_zero_iff
  have hlt := h.lt
  omega

theorem add {word : Nat} (h : FoldsTo sum folded) (hword : word < 65536) :
    FoldsTo (sum + word) (addOnes folded word) := by
  have hcongr : folded % 65535 = sum % 65535 := h.modEq
  have hzero := h.eq_zero_iff
  have hlt := h.lt
  refine ⟨?_, ?_, ?_⟩
  · rw [addOnes]
    split <;> omega
  · rw [addOnes, Nat.ModEq]
    split <;> omega
  · rw [addOnes]
    split <;> omega

end FoldsTo

theorem lt_of_mem_words {octets : Bytes} {word : Nat} (h : word ∈ words octets) :
    word < 65536 := by
  fun_induction words octets with
  | case1 hi lo rest ih =>
    have hhi := hi.toNat_lt
    have hlo := lo.toNat_lt
    rcases List.mem_cons.1 h with rfl | h
    · omega
    · exact ih h
  | case2 hi =>
    have hhi := hi.toNat_lt
    rw [List.mem_singleton.1 h]
    omega
  | case3 => cases h

theorem sum_words (octets : Bytes) : (words octets).sum = sumWords octets := by
  fun_induction words octets with
  | case1 hi lo rest ih => rw [List.sum_cons, ih, sumWords]
  | case2 hi => rw [List.sum_singleton, sumWords]
  | case3 => rfl

theorem foldsTo_foldl {ws : List Nat} (hws : ∀ word ∈ ws, word < 65536) {sum folded : Nat}
    (h : FoldsTo sum folded) : FoldsTo (sum + ws.sum) (ws.foldl addOnes folded) := by
  induction ws generalizing sum folded with
  | nil => exact h
  | cons word rest ih =>
    obtain ⟨hword, hrest⟩ := List.forall_mem_cons.1 hws
    rw [List.sum_cons, ← Nat.add_assoc, List.foldl_cons]
    exact ih hrest (h.add hword)

theorem foldsTo_onesSum (octets : Bytes) : FoldsTo (sumWords octets) (onesSum octets) := by
  have hlt : ∀ word ∈ words octets, word < 65536 := fun _ hmem => lt_of_mem_words hmem
  have hstart : FoldsTo 0 0 := FoldsTo.self (by decide)
  have hwords := foldsTo_foldl hlt hstart
  rwa [Nat.zero_add, sum_words] at hwords

theorem foldsTo_foldCarries (sum : Nat) : FoldsTo sum (foldCarries sum) := by
  fun_induction foldCarries sum with
  | case1 sum h => exact FoldsTo.self h
  | case2 sum h ih =>
    -- A turn takes 65535 from the sum for every carry, and leaves no zero.
    have hcongr : foldCarries (sum / 65536 + sum % 65536) % 65535 =
        (sum / 65536 + sum % 65536) % 65535 := ih.modEq
    have hzero := ih.eq_zero_iff
    exact ⟨ih.lt, by rw [Nat.ModEq]; omega, by omega⟩

/-- Adding the words one by one or folding their plain sum is the same. -/
theorem onesSum_eq_foldCarries (octets : Bytes) : onesSum octets = foldCarries (sumWords octets) :=
  (foldsTo_onesSum octets).unique (foldsTo_foldCarries _)

/-- The plain sum is 0x2ddf0, and the two carries come back in at the low end. -/
example : onesSum [0x00, 0x01, 0xf2, 0x03, 0xf4, 0xf5, 0xf6, 0xf7] = 0xddf2 := by decide

theorem onesSum_eq_ones_iff (octets : Bytes) :
    onesSum octets = 65535 ↔ 0 < sumWords octets ∧ 65535 ∣ sumWords octets :=
  (foldsTo_onesSum octets).eq_ones_iff

theorem sumWords_append {front : Bytes} (back : Bytes) (h : 2 ∣ front.length) :
    sumWords (front ++ back) = sumWords front + sumWords back := by
  fun_induction sumWords front with
  | case1 hi lo rest ih =>
    have hrest : 2 ∣ rest.length := by
      simp only [List.length_cons] at h
      omega
    rw [List.cons_append, List.cons_append, sumWords, ih hrest]
    omega
  | case2 hi => simp at h
  | case3 => simp

theorem sumWords_octets16 (w : UInt16) : sumWords (Word.octets16 w) = w.toNat := by
  have hw := w.toNat_lt
  simp only [Word.octets16, sumWords, UInt8.toNat_ofNat']
  omega

theorem sumWords_le (octets : Bytes) : 2 * sumWords octets ≤ 65535 * (octets.length + 1) := by
  fun_induction sumWords octets with
  | case1 hi lo rest ih =>
    have hhi := hi.toNat_lt
    have hlo := lo.toNat_lt
    simp only [List.length_cons]
    omega
  | case2 hi =>
    have hhi := hi.toNat_lt
    simp only [List.length_cons, List.length_nil]
    omega
  | case3 => simp

theorem sumWordsSkipping_le (word : Nat) (octets : Bytes) :
    2 * sumWordsSkipping word octets ≤ 65535 * (octets.length + 2) := by
  have hfront := sumWords_le (octets.take (2 * word))
  have hback := sumWords_le (octets.drop (2 * word + 2))
  rw [List.length_take] at hfront
  rw [List.length_drop] at hback
  rw [sumWordsSkipping]
  omega

theorem sumWords_field {front rest : Bytes} {word : Nat} (h : front.length = 2 * word)
    (kept written : UInt16) :
    sumWords (front ++ (Word.octets16 written ++ rest)) =
      sumWordsSkipping word (front ++ (Word.octets16 kept ++ rest)) + written.toNat := by
  have heven : 2 ∣ front.length := ⟨word, h⟩
  have htake : (front ++ (Word.octets16 kept ++ rest)).take (2 * word) = front := by
    rw [← h, List.take_left]
  have hdrop : (front ++ (Word.octets16 kept ++ rest)).drop (2 * word + 2) = rest := by
    rw [← h, ← List.drop_drop, List.drop_left]
    rfl
  rw [sumWordsSkipping, htake, hdrop, sumWords_append _ heven, sumWords_append rest (by rfl),
    sumWords_octets16]
  omega

section Checksums

variable {sum : Nat}

theorem toNat_complementSum (h : sum < 4294967296) :
    (complementSum sum).toNat = 65535 - foldCarries sum := by
  rw [complementSum, Nat.mod_eq_of_lt h, UInt16.toNat_ofNat']
  omega

theorem dvd_add_complementSum (h : sum < 4294967296) :
    65535 ∣ sum + (complementSum sum).toNat := by
  have hfold := foldsTo_foldCarries sum
  have hcongr : foldCarries sum % 65535 = sum % 65535 := hfold.modEq
  have hlt := hfold.lt
  rw [toNat_complementSum h]
  omega

/-- Octets that hold the checksum of all their other words verify. -/
theorem onesSum_eq_ones {octets : Bytes} (h : sum < 4294967296)
    (hoctets : sumWords octets = sum + (complementSum sum).toNat) (hpos : 0 < sumWords octets) :
    onesSum octets = 65535 := by
  rw [onesSum_eq_ones_iff]
  refine ⟨hpos, ?_⟩
  rw [hoctets]
  exact dvd_add_complementSum h

theorem complementSum_eq_zero_iff (h : sum < 4294967296) :
    complementSum sum = 0 ↔ foldCarries sum = 65535 := by
  have hlt := foldCarries_lt sum
  rw [← UInt16.toNat_inj, toNat_complementSum h, UInt16.toNat_zero]
  omega

end Checksums

end Sinkhole.Packet
