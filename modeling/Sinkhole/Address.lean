import Sinkhole.Octets

/-! # Addresses

An address of either family is its octets in network order. A subnet here always leaves exactly
the last octet free, so its hosts are the addresses that agree with its base elsewhere.
-/
namespace Sinkhole

/-- An address of either family, as its octets. -/
inductive IpAddress where
  | v4 (octets : Vector UInt8 4)
  | v6 (octets : Vector UInt8 16)
deriving DecidableEq, Repr

namespace IpAddress

def toBytes : IpAddress → Bytes
  | v4 octets => octets.toList
  | v6 octets => octets.toList

def isV6 : IpAddress → Bool
  | v4 _ => false
  | v6 _ => true

/-- The last octet: the part that a subnet leaves free. -/
def lastOctet : IpAddress → UInt8
  | v4 octets => octets[3]
  | v6 octets => octets[15]

def withLastOctet (last : UInt8) : IpAddress → IpAddress
  | v4 octets => v4 (octets.set 3 last)
  | v6 octets => v6 (octets.set 15 last)

/-- Same family, and the same octets up to the last. -/
def sameNetwork : IpAddress → IpAddress → Bool
  | v4 a, v4 b => a.toList.take 3 == b.toList.take 3
  | v6 a, v6 b => a.toList.take 15 == b.toList.take 15
  | _, _ => false

/-- The octets of an IPv4 address, also of one that is mapped into IPv6. -/
def ipv4Octets? : IpAddress → Option Bytes
  | v4 octets => some octets.toList
  | v6 octets =>
    if octets.toList.take 12 = List.replicate 10 0 ++ [255, 255] then some (octets.toList.drop 12)
    else none

/-- The octets of a number, as many as asked for, the highest first. -/
def numberOctets (width value : Nat) : Vector UInt8 width :=
  Vector.ofFn fun i => UInt8.ofNat (value >>> (8 * (width - 1 - i.val)))

def advance (places : Nat) (address : IpAddress) : IpAddress :=
  let value := address.toBytes.foldl (fun value octet => value * 256 + octet.toNat) 0 + places
  match address with
  | v4 _ => v4 (numberOctets 4 value)
  | v6 _ => v6 (numberOctets 16 value)

def hostPrefix : IpAddress → Nat
  | v4 _ => 32
  | v6 _ => 128

end IpAddress

def groupsOfOctets : Bytes → List Nat
  | hi :: lo :: rest => (hi.toNat * 256 + lo.toNat) :: groupsOfOctets rest
  | _ => []

/-- The IPv6 address of eight 16-bit groups; missing groups count as zero. -/
def IpAddress.ofGroups (groups : List Nat) : IpAddress :=
  .v6 (Vector.ofFn fun i =>
    let group := (groups[i.val / 2]?).getD 0
    if i.val % 2 = 0 then UInt8.ofNat (group / 256) else UInt8.ofNat (group % 256))

structure Endpoint where
  address : IpAddress
  port : UInt16
deriving DecidableEq, Repr

/-- A claimed block of addresses that differ in the last octet only. -/
structure Subnet where
  base : IpAddress
  prefixBits : Nat
deriving DecidableEq, Repr

namespace Subnet

def host (subnet : Subnet) (last : UInt8) : IpAddress :=
  subnet.base.withLastOctet last

def contains (subnet : Subnet) (address : IpAddress) : Bool :=
  subnet.base.sameNetwork address

end Subnet

end Sinkhole
