import Sinkhole.Error
import Sinkhole.Packet.BufferPool
import Sinkhole.Packet.Checksum
import Sinkhole.Packet.Datagram

/-! # Response packets

The answer to a datagram travels back along its flow. It is written into scratch octets of its
exact size: the header fields below are set, all others keep what the scratch octets hold, so
these have to be zero. Length fields hold the low sixteen bits of the true length.
-/
namespace Sinkhole.Packet

def hopLimit : UInt8 := 64

/-- Sets the upper four bits of the first octet. -/
def writeVersion (version : UInt8) (packet : Bytes) : Bytes :=
  overwrite 0 [version * 16 + octetAt packet 0 % 16] packet

def lengthField (length : Nat) : Bytes :=
  Word.octets16 (UInt16.ofNat length)

def writeIpv4Header (total : Nat) (source destination : IpAddress) (packet : Bytes) : Bytes :=
  let packet := overwrite 0 [0x45] packet
  let packet := overwrite 2 (lengthField total) packet
  let packet := overwrite 8 [hopLimit, udpProtocol] packet
  let packet := overwrite 12 (source.toBytes ++ destination.toBytes) packet
  let sum := sumWordsSkipping 5 (packet.take ipv4HeaderSize)
  overwrite 10 (Word.octets16 (complementSum sum)) packet

def writeIpv6Header (length : Nat) (source destination : IpAddress) (packet : Bytes) : Bytes :=
  let packet := writeVersion 6 packet
  let packet := overwrite 4 (lengthField length) packet
  let packet := overwrite 6 [udpProtocol, hopLimit] packet
  overwrite 8 (source.toBytes ++ destination.toBytes) packet

def pseudoHeaderSum (source destination : IpAddress) (length : Nat) : Nat :=
  sumWords source.toBytes + sumWords destination.toBytes + udpProtocol.toNat + length

def writeDatagram (flow : Flow) (payload datagram : Bytes) : Bytes :=
  let datagram := overwrite 0
    (Word.octets16 flow.sourcePort ++ Word.octets16 flow.destinationPort ++
      lengthField (udpHeaderSize + payload.length)) datagram
  let datagram := overwrite udpHeaderSize payload datagram
  let sum := pseudoHeaderSum flow.source flow.destination datagram.length +
    sumWordsSkipping 3 datagram
  overwrite 6 (Word.octets16 (complementSum sum)) datagram

def writePacket (flow : Flow) (payload scratch : Bytes) : Bytes :=
  let headerSize := if flow.source.isV6 then ipv6HeaderSize else ipv4HeaderSize
  let header := scratch.take headerSize
  let length := udpHeaderSize + payload.length
  let header :=
    if flow.source.isV6 then writeIpv6Header length flow.source flow.destination header
    else writeIpv4Header (ipv4HeaderSize + length) flow.source flow.destination header
  header ++ writeDatagram flow payload (scratch.drop headerSize)

def packetSize (flow : Flow) (payloadLength : Nat) : Nat :=
  (if flow.source.isV6 then ipv6HeaderSize else ipv4HeaderSize) + (udpHeaderSize + payloadLength)

/-- The families of the two ends differ, so no packet can carry the flow. -/
def mixedFamilies : Error :=
  .network (.packetConstruction "mixed IPv4/IPv6 addresses")

/-- The packet that answers a request, written into storage of the pool. -/
def buildResponse (pool : BufferPool) (payload : Bytes) (request : Flow) :
    Except Error Bytes × BufferPool :=
  if request.source.isV6 != request.destination.isV6 then (.error mixedFamilies, pool)
  else
    let flow := request.reversed
    let (scratch, pool) := pool.getZeroed (packetSize flow payload.length)
    let scratch := { scratch with contents := writePacket flow payload scratch.contents }
    (.ok scratch.contents, pool.release scratch)

/-- The packet that answers a request, written into fresh zero octets. -/
def response (payload : Bytes) (request : Flow) : Except Error Bytes :=
  if request.source.isV6 != request.destination.isV6 then .error mixedFamilies
  else
    let flow := request.reversed
    .ok (writePacket flow payload (List.replicate (packetSize flow payload.length) 0))

end Sinkhole.Packet
