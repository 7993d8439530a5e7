import Sinkhole.Error.System
import Sinkhole.Octets

/-! # Tunnel descriptors

A tunnel is a descriptor that carries one packet a read and one a write, without waiting. A
datagram descriptor keeps packets apart and cuts one that does not fit the read. On a stream the
packets of several writes are read together, and a read of nothing means that the other end is
closed. A pipe only takes writes and holds a number of octets. A packet is written whole or not at
all: a short write is a failure.
-/
namespace Sinkhole

inductive DescriptorKind where
  | datagram
  | stream
  | pipe (capacity : Nat)
deriving DecidableEq, Repr

inductive PeerState where
  | connected
  | closed
  /-- A write of a datagram found the other end closed, which undid the connection. -/
  | disconnected
deriving DecidableEq, Repr

structure Descriptor where
  kind : DescriptorKind
  arrived : List Bytes
  peer : PeerState
deriving DecidableEq, Repr

inductive DescriptorRead where
  | waiting
  | packet (octets : Bytes)
deriving DecidableEq, Repr

namespace Descriptor

def new (kind : DescriptorKind) : Descriptor := ⟨kind, [], .connected⟩

def arrive (descriptor : Descriptor) (octets : Bytes) : Descriptor :=
  { descriptor with arrived := descriptor.arrived ++ [octets] }

def closePeer (descriptor : Descriptor) : Descriptor := { descriptor with peer := .closed }

/-- Reads a packet into a buffer of some size. A buffer without room takes nothing. -/
def read (descriptor : Descriptor) (size : Nat) : DescriptorRead × Descriptor :=
  match descriptor.kind with
  | .datagram =>
    match descriptor.arrived with
    | packet :: rest =>
      (.packet (packet.take size),
        if size = 0 then descriptor else { descriptor with arrived := rest })
    | [] => (.waiting, descriptor)
  | .stream =>
    let octets := descriptor.arrived.flatten
    if octets.isEmpty then
      (if descriptor.peer = .connected then .waiting else .packet [], descriptor)
    else (.packet (octets.take size), { descriptor with arrived := [octets.drop size] })
  | .pipe _ => (.waiting, descriptor)

def shortWrite (written length : Nat) : IoError :=
  .other ("short tunnel write: " ++ toString written ++ " of " ++ toString length ++ " bytes")

/-- Writes a packet, or says why it cannot be written. The first datagram that finds the other end
closed is refused, and what arrived before is lost with the connection. -/
def write (descriptor : Descriptor) (packet : Bytes) : Option IoError × Descriptor :=
  match descriptor.kind, descriptor.peer with
  | .datagram, .connected => (none, descriptor)
  | .datagram, .closed =>
    (some .connectionRefused, { descriptor with arrived := [], peer := .disconnected })
  | .datagram, .disconnected => (some .notConnected, descriptor)
  | .stream, peer => (if peer = .connected then none else some .brokenPipe, descriptor)
  | .pipe capacity, peer =>
    if packet.isEmpty then (none, descriptor)
    else if peer != .connected then (some .brokenPipe, descriptor)
    else if capacity < packet.length then (some (shortWrite capacity packet.length), descriptor)
    else (none, descriptor)

end Descriptor

end Sinkhole
