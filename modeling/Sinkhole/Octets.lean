/-! # Octets and network words

Packets and messages are lists of octets. Words travel with the high octet first; each writer
below has a reader beside it, and reading what was written gives the word back.
-/
namespace Sinkhole

abbrev Bytes := List UInt8

namespace Word

def octets16 (w : UInt16) : Bytes :=
  [UInt8.ofNat (w.toNat / 256), UInt8.ofNat (w.toNat % 256)]

def of16 (hi lo : UInt8) : UInt16 :=
  UInt16.ofNat (hi.toNat * 256 + lo.toNat)

def octets32 (w : UInt32) : Bytes :=
  [UInt8.ofNat (w.toNat / 16777216), UInt8.ofNat (w.toNat / 65536 % 256),
    UInt8.ofNat (w.toNat / 256 % 256), UInt8.ofNat (w.toNat % 256)]

def of32 (a b c d : UInt8) : UInt32 :=
  UInt32.ofNat (((a.toNat * 256 + b.toNat) * 256 + c.toNat) * 256 + d.toNat)

@[simp] theorem length_octets16 (w : UInt16) : (octets16 w).length = 2 := rfl

@[simp] theorem length_octets32 (w : UInt32) : (octets32 w).length = 4 := rfl

theorem of16_octets16 (w : UInt16) :
    of16 (UInt8.ofNat (w.toNat / 256)) (UInt8.ofNat (w.toNat % 256)) = w := by
  have h := w.toNat_lt
  apply UInt16.toNat.inj
  simp only [of16, UInt16.toNat_ofNat', UInt8.toNat_ofNat']
  omega

theorem of32_octets32 (w : UInt32) :
    of32 (UInt8.ofNat (w.toNat / 16777216)) (UInt8.ofNat (w.toNat / 65536 % 256))
      (UInt8.ofNat (w.toNat / 256 % 256)) (UInt8.ofNat (w.toNat % 256)) = w := by
  have h := w.toNat_lt
  apply UInt32.toNat.inj
  simp only [of32, UInt32.toNat_ofNat', UInt8.toNat_ofNat']
  omega

end Word

/-- The octets in units of one size; the last unit may be shorter. -/
def unitsOf (size : Nat) (octets : Bytes) : List Bytes :=
  if size = 0 ∨ octets = [] then []
  else octets.take size :: unitsOf size (octets.drop size)
termination_by octets.length
decreasing_by
  have := List.length_pos_iff.2 fun h : octets = [] => by simp_all
  simp only [List.length_drop]
  omega

@[simp] theorem unitsOf_nil (size : Nat) : unitsOf size [] = [] := by
  rw [unitsOf, if_pos (Or.inr rfl)]

theorem unitsOf_of_ne_nil {size : Nat} (hsize : 0 < size) {octets : Bytes} (h : octets ≠ []) :
    unitsOf size octets = octets.take size :: unitsOf size (octets.drop size) := by
  rw [unitsOf, if_neg]
  rintro (hzero | hnil)
  · omega
  · exact h hnil

theorem flatten_unitsOf {size : Nat} (hsize : 0 < size) (octets : Bytes) :
    (unitsOf size octets).flatten = octets := by
  fun_induction unitsOf size octets with
  | case1 octets h =>
    rcases h with hzero | rfl
    · omega
    · rfl
  | case2 octets h ih => rw [List.flatten_cons, ih, List.take_append_drop]

theorem unitsOf_whole {size count : Nat} (hsize : 0 < size) {octets : Bytes}
    (h : octets.length = count * size) :
    (unitsOf size octets).length = count ∧ ∀ unit ∈ unitsOf size octets, unit.length = size := by
  induction count generalizing octets with
  | zero =>
    rw [Nat.zero_mul] at h
    obtain rfl := List.length_eq_zero_iff.1 h
    simp
  | succ count ih =>
    rw [Nat.succ_mul] at h
    have hne : octets ≠ [] := by
      rintro rfl
      simp at h
      omega
    have hrest : (octets.drop size).length = count * size := by
      rw [List.length_drop]
      omega
    have hfirst : (octets.take size).length = size := by
      rw [List.length_take]
      omega
    obtain ⟨hcount, hunits⟩ := ih hrest
    rw [unitsOf_of_ne_nil hsize hne, List.length_cons, hcount]
    refine ⟨rfl, ?_⟩
    intro unit hunit
    rcases List.mem_cons.1 hunit with rfl | hunit
    · exact hfirst
    · exact hunits unit hunit

/-- Overwrites the octets from `offset` on with `new`; octets past the end are not added. -/
def overwrite (offset : Nat) (new buffer : Bytes) : Bytes :=
  (buffer.take offset ++ new ++ buffer.drop (offset + new.length)).take buffer.length

@[simp] theorem length_overwrite (offset : Nat) (new buffer : Bytes) :
    (overwrite offset new buffer).length = buffer.length := by
  simp only [overwrite, List.length_take, List.length_append, List.length_drop]
  omega

end Sinkhole
