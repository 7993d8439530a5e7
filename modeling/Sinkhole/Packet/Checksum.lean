import Sinkhole.Address

/-! # The internet checksum

The complement of the one's-complement sum of 16-bit words, an odd last octet being padded with
zero. Words are added as numbers in 32 bits and the carries are folded in at the end.
-/
namespace Sinkhole.Packet

def sumWords : Bytes → Nat
  | hi :: lo :: rest => (hi.toNat * 256 + lo.toNat) + sumWords rest
  | [hi] => hi.toNat * 256
  | [] => 0

def sumWordsSkipping (word : Nat) (octets : Bytes) : Nat :=
  sumWords (octets.take (2 * word)) + sumWords (octets.drop (2 * word + 2))

/-- Adds the carries back until sixteen bits hold the sum. -/
def foldCarries (sum : Nat) : Nat :=
  if sum < 65536 then sum else foldCarries (sum / 65536 + sum % 65536)
termination_by sum
decreasing_by omega

def complementSum (sum : Nat) : UInt16 :=
  UInt16.ofNat (65535 - foldCarries (sum % 4294967296))

theorem foldCarries_lt (sum : Nat) : foldCarries sum < 65536 := by
  fun_induction foldCarries sum with
  | case1 sum h => exact h
  | case2 sum h ih => exact ih

end Sinkhole.Packet
