import Sinkhole.Packet.Flow

/-! # Datagrams inside IP packets

A packet starts with its IP header and has no link layer. Only UDP is of interest. What follows
the header is cut to the length that the header declares, and to the octets that are there; the
UDP length must then fit into it.
-/
namespace Sinkhole.Packet

def udpHeaderSize : Nat := 8
def ipv4HeaderSize : Nat := 20
def ipv6HeaderSize : Nat := 40

def udpProtocol : UInt8 := 17

def octetAt (packet : Bytes) (offset : Nat) : UInt8 :=
  packet.getD offset 0

def wordAt (packet : Bytes) (offset : Nat) : Nat :=
  (octetAt packet offset).toNat * 256 + (octetAt packet (offset + 1)).toNat

def ipv4At (packet : Bytes) (offset : Nat) : IpAddress :=
  .v4 (Vector.ofFn fun i => octetAt packet (offset + i.val))

def ipv6At (packet : Bytes) (offset : Nat) : IpAddress :=
  .v6 (Vector.ofFn fun i => octetAt packet (offset + i.val))

/-- The octets of an IP packet behind its header, with the addresses of both ends. -/
structure Transport where
  source : IpAddress
  destination : IpAddress
  octets : Bytes
deriving DecidableEq, Repr

/-- An IPv4 header may be longer than twenty octets; a declared length below that counts as
twenty for where the payload starts, and as declared for how long it is. -/
def ipv4Transport? (packet : Bytes) : Option Transport :=
  if packet.length < ipv4HeaderSize then none
  else if octetAt packet 9 != udpProtocol then none
  else
    let headerLength := (octetAt packet 0).toNat % 16 * 4
    let start := ipv4HeaderSize + (headerLength - ipv4HeaderSize)
    some ⟨ipv4At packet 12, ipv4At packet 16,
      (packet.drop start).take (wordAt packet 2 - headerLength)⟩

def ipv6Transport? (packet : Bytes) : Option Transport :=
  if packet.length < ipv6HeaderSize then none
  else if octetAt packet 6 != udpProtocol then none
  else
    some ⟨ipv6At packet 8, ipv6At packet 24,
      (packet.drop ipv6HeaderSize).take (wordAt packet 4)⟩

def transport? (packet : Bytes) : Option Transport :=
  match packet with
  | [] => none
  | first :: _ =>
    if first.toNat / 16 = 4 then ipv4Transport? packet
    else if first.toNat / 16 = 6 then ipv6Transport? packet
    else none

/-- The UDP datagram of a packet: its flow and its payload. -/
def datagram? (packet : Bytes) : Option (Flow × Bytes) := do
  let transport ← transport? packet
  let octets := transport.octets
  let length := wordAt octets 4
  if octets.length < udpHeaderSize || length < udpHeaderSize || octets.length < length then none
  else
    let flow : Flow := {
      source := transport.source
      destination := transport.destination
      sourcePort := UInt16.ofNat (wordAt octets 0)
      destinationPort := UInt16.ofNat (wordAt octets 2) }
    some (flow, (octets.take length).drop udpHeaderSize)

end Sinkhole.Packet
