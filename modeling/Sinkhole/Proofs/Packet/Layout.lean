import Mathlib
import Sinkhole.Packet.Response

/-! # The layout of response packets

What the writers leave in the scratch octets, as a list of fields. A datagram fills all of its
octets; the header fields that are never written keep what the scratch octets held.
-/
namespace Sinkhole

theorem overwrite_append (front old back new : Bytes) (h : new.length = old.length) :
    overwrite front.length new (front ++ (old ++ back)) = front ++ (new ++ back) := by
  have hdrop : (front ++ (old ++ back)).drop (front.length + new.length) = back := by
    rw [← List.drop_drop, List.drop_left, h, List.drop_left]
  rw [overwrite, List.take_left, hdrop, List.append_assoc]
  apply List.take_of_length_le
  simp only [List.length_append, h, Nat.le_refl]

theorem overwrite_end (front old new : Bytes) (h : new.length = old.length) :
    overwrite front.length new (front ++ old) = front ++ new := by
  simpa using overwrite_append front old [] new h

theorem exists_append_of_length (front back : Nat) {octets : Bytes}
    (h : octets.length = front + back) :
    ∃ first second, octets = first ++ second ∧ first.length = front ∧ second.length = back := by
  refine ⟨octets.take front, octets.drop front, (List.take_append_drop front octets).symm, ?_, ?_⟩
  · rw [List.length_take]
    omega
  · rw [List.length_drop]
    omega

namespace Packet

theorem length_lengthField (length : Nat) : (lengthField length).length = 2 := rfl

def datagramFields (flow : Flow) (payload : Bytes) (checksum : UInt16) : Bytes :=
  Word.octets16 flow.sourcePort ++ Word.octets16 flow.destinationPort ++
    lengthField (udpHeaderSize + payload.length) ++ (Word.octets16 checksum ++ payload)

def datagramChecksum (flow : Flow) (payload : Bytes) : UInt16 :=
  complementSum (pseudoHeaderSum flow.source flow.destination (udpHeaderSize + payload.length) +
    sumWordsSkipping 3 (datagramFields flow payload 0))

theorem length_datagramFields (flow : Flow) (payload : Bytes) (checksum : UInt16) :
    (datagramFields flow payload checksum).length = udpHeaderSize + payload.length := by
  simp only [datagramFields, List.length_append, Word.length_octets16, length_lengthField,
    udpHeaderSize]
  omega

/-- The sum skips the checksum, so it is the same whatever stands there. -/
theorem sumWordsSkipping_datagramFields (flow : Flow) (payload other : Bytes) (checksum : UInt16)
    (h : other.length = 2) :
    sumWordsSkipping 3 (Word.octets16 flow.sourcePort ++ Word.octets16 flow.destinationPort ++
        lengthField (udpHeaderSize + payload.length) ++ (other ++ payload)) =
      sumWordsSkipping 3 (datagramFields flow payload checksum) := by
  obtain ⟨a, b, rfl⟩ : ∃ a b, other = [a, b] := List.length_eq_two.1 h
  rfl

/-- A written datagram depends on the number of scratch octets only. -/
theorem writeDatagram_eq (flow : Flow) (payload scratch : Bytes)
    (h : scratch.length = udpHeaderSize + payload.length) :
    writeDatagram flow payload scratch =
      datagramFields flow payload (datagramChecksum flow payload) := by
  obtain ⟨ports, rest, rfl, hports, hrest⟩ :=
    exists_append_of_length 6 (2 + payload.length) (h.trans (Nat.add_assoc 6 2 payload.length))
  obtain ⟨sum, data, rfl, hsum, hdata⟩ := exists_append_of_length 2 payload.length hrest
  let header := Word.octets16 flow.sourcePort ++ Word.octets16 flow.destinationPort ++
    lengthField (udpHeaderSize + payload.length)
  have hheader : overwrite 0 header (ports ++ (sum ++ data)) = header ++ (sum ++ data) :=
    overwrite_append [] ports (sum ++ data) header hports.symm
  have hpayload : overwrite udpHeaderSize payload (header ++ (sum ++ data)) =
      header ++ (sum ++ payload) := by
    have hlen : (header ++ sum).length = udpHeaderSize := by
      rw [List.length_append, hsum]; rfl
    rw [← List.append_assoc, ← hlen, overwrite_end _ _ _ hdata.symm, List.append_assoc]
  have hlength : (header ++ (sum ++ payload)).length = udpHeaderSize + payload.length := by
    simp only [List.length_append, hsum, udpHeaderSize]
    change 6 + _ = _
    omega
  have hskip := sumWordsSkipping_datagramFields flow payload sum 0 hsum
  simp only [writeDatagram]
  rw [hheader, hpayload, hlength, hskip]
  exact overwrite_append header sum payload _ hsum.symm

/-- The service octet and those of identification and fragment are left alone. -/
def ipv4Fields (scratch : Bytes) (total : Nat) (source destination : IpAddress)
    (checksum : UInt16) : Bytes :=
  ([0x45, octetAt scratch 1] : Bytes) ++ lengthField total ++
    [octetAt scratch 4, octetAt scratch 5, octetAt scratch 6, octetAt scratch 7, hopLimit,
      udpProtocol] ++
    (Word.octets16 checksum ++ (source.toBytes ++ destination.toBytes))

def ipv4Checksum (scratch : Bytes) (total : Nat) (source destination : IpAddress) : UInt16 :=
  complementSum (sumWordsSkipping 5 (ipv4Fields scratch total source destination 0))

/-- The octet whose upper half is a version, and whose lower half was there before. -/
def versionOctet (version kept : UInt8) : UInt8 :=
  version * 16 + kept % 16

/-- Traffic class, which shares an octet with the version, and flow label are left alone. -/
def ipv6Fields (scratch : Bytes) (length : Nat) (source destination : IpAddress) : Bytes :=
  ([versionOctet 6 (octetAt scratch 0), octetAt scratch 1, octetAt scratch 2,
      octetAt scratch 3] : Bytes) ++
    lengthField length ++ [udpProtocol, hopLimit] ++ (source.toBytes ++ destination.toBytes)

theorem length_toBytes (address : IpAddress) :
    address.toBytes.length = if address.isV6 then 16 else 4 := by
  cases address <;> simp [IpAddress.toBytes, IpAddress.isV6]

theorem length_ipv4Fields (scratch : Bytes) (total : Nat) (source destination : IpAddress)
    (checksum : UInt16) (hs : source.isV6 = false) (hd : destination.isV6 = false) :
    (ipv4Fields scratch total source destination checksum).length = ipv4HeaderSize := by
  simp only [ipv4Fields, List.length_append, length_toBytes, hs, hd]
  rfl

theorem length_ipv6Fields (scratch : Bytes) (length : Nat) (source destination : IpAddress)
    (hs : source.isV6 = true) (hd : destination.isV6 = true) :
    (ipv6Fields scratch length source destination).length = ipv6HeaderSize := by
  simp only [ipv6Fields, List.length_append, length_toBytes, hs, hd]
  rfl

theorem writeIpv4Header_eq (total : Nat) (source destination : IpAddress) (scratch : Bytes)
    (hs : source.isV6 = false) (hd : destination.isV6 = false)
    (h : scratch.length = ipv4HeaderSize) :
    writeIpv4Header total source destination scratch =
      ipv4Fields scratch total source destination
        (ipv4Checksum scratch total source destination) := by
  obtain ⟨front, ends, rfl, hfront, hends⟩ := exists_append_of_length 12 8 h
  have haddresses : (source.toBytes ++ destination.toBytes).length = ends.length := by
    simp only [List.length_append, length_toBytes, hs, hd, hends]
    rfl
  match front, hfront with
  | [version, service, lengthHi, lengthLo, a, b, c, d, hops, protocol, sumHi, sumLo], _ =>
    let start : Bytes := [0x45, service] ++ lengthField total
    let fields : Bytes := start ++ [a, b, c, d, hopLimit, udpProtocol]
    let addresses := source.toBytes ++ destination.toBytes
    have hversion : overwrite 0 [0x45] ([version, service, lengthHi, lengthLo, a, b, c, d, hops,
        protocol, sumHi, sumLo] ++ ends) =
          [0x45, service] ++ ([lengthHi, lengthLo] ++ ([a, b, c, d, hops, protocol, sumHi, sumLo] ++
            ends)) :=
      overwrite_append [] [version] _ [0x45] rfl
    have hlength : overwrite 2 (lengthField total) ([0x45, service] ++ ([lengthHi, lengthLo] ++
        ([a, b, c, d, hops, protocol, sumHi, sumLo] ++ ends))) =
          (start ++ [a, b, c, d]) ++ ([hops, protocol] ++ ([sumHi, sumLo] ++ ends)) :=
      overwrite_append [0x45, service] [lengthHi, lengthLo] _ (lengthField total) rfl
    have hprotocol : overwrite 8 [hopLimit, udpProtocol]
        ((start ++ [a, b, c, d]) ++ ([hops, protocol] ++ ([sumHi, sumLo] ++ ends))) =
          (fields ++ [sumHi, sumLo]) ++ ends :=
      overwrite_append (start ++ [a, b, c, d]) [hops, protocol] _ [hopLimit, udpProtocol] rfl
    have hwritten : overwrite 12 addresses ((fields ++ [sumHi, sumLo]) ++ ends) =
        fields ++ ([sumHi, sumLo] ++ addresses) :=
      overwrite_end (fields ++ [sumHi, sumLo]) ends addresses haddresses
    have htake : (fields ++ ([sumHi, sumLo] ++ addresses)).take ipv4HeaderSize =
        fields ++ ([sumHi, sumLo] ++ addresses) := by
      apply List.take_of_length_le
      rw [List.length_append]
      change 10 + (addresses.length + 2) ≤ 20
      rw [haddresses, hends]
    simp only [writeIpv4Header]
    rw [hversion, hlength, hprotocol, hwritten, htake]
    exact overwrite_append fields [sumHi, sumLo] addresses (Word.octets16 _) rfl

theorem writeIpv6Header_eq (length : Nat) (source destination : IpAddress) (scratch : Bytes)
    (hs : source.isV6 = true) (hd : destination.isV6 = true)
    (h : scratch.length = ipv6HeaderSize) :
    writeIpv6Header length source destination scratch =
      ipv6Fields scratch length source destination := by
  obtain ⟨front, ends, rfl, hfront, hends⟩ := exists_append_of_length 8 32 h
  have haddresses : (source.toBytes ++ destination.toBytes).length = ends.length := by
    simp only [List.length_append, length_toBytes, hs, hd, hends]
    rfl
  match front, hfront with
  | [version, a, b, c, lengthHi, lengthLo, next, hops], _ =>
    let first : Bytes := [versionOctet 6 version, a, b, c]
    have hversion : writeVersion 6 ([version, a, b, c, lengthHi, lengthLo, next, hops] ++ ends) =
        first ++ ([lengthHi, lengthLo] ++ ([next, hops] ++ ends)) :=
      overwrite_append [] [version] _ [versionOctet 6 version] rfl
    have hlength : overwrite 4 (lengthField length)
        (first ++ ([lengthHi, lengthLo] ++ ([next, hops] ++ ends))) =
          (first ++ lengthField length) ++ ([next, hops] ++ ends) :=
      overwrite_append first [lengthHi, lengthLo] _ (lengthField length) rfl
    have hnext : overwrite 6 [udpProtocol, hopLimit]
        ((first ++ lengthField length) ++ ([next, hops] ++ ends)) =
          ((first ++ lengthField length) ++ [udpProtocol, hopLimit]) ++ ends :=
      overwrite_append (first ++ lengthField length) [next, hops] ends [udpProtocol, hopLimit] rfl
    simp only [writeIpv6Header]
    rw [hversion, hlength, hnext]
    exact overwrite_end ((first ++ lengthField length) ++ [udpProtocol, hopLimit]) ends _ haddresses

theorem writePacket_v4 (flow : Flow) (payload scratch : Bytes)
    (hs : flow.source.isV6 = false) (hd : flow.destination.isV6 = false)
    (h : scratch.length = packetSize flow payload.length) :
    writePacket flow payload scratch =
      let header := scratch.take ipv4HeaderSize
      let total := ipv4HeaderSize + (udpHeaderSize + payload.length)
      ipv4Fields header total flow.source flow.destination
          (ipv4Checksum header total flow.source flow.destination) ++
        datagramFields flow payload (datagramChecksum flow payload) := by
  simp only [packetSize, hs, Bool.false_eq_true, if_false] at h
  have hheader : (scratch.take ipv4HeaderSize).length = ipv4HeaderSize := by
    rw [List.length_take, h]
    omega
  have hdatagram : (scratch.drop ipv4HeaderSize).length = udpHeaderSize + payload.length := by
    rw [List.length_drop, h]
    omega
  simp only [writePacket, hs, Bool.false_eq_true, if_false]
  rw [writeIpv4Header_eq _ _ _ _ hs hd hheader, writeDatagram_eq _ _ _ hdatagram]

theorem writePacket_v6 (flow : Flow) (payload scratch : Bytes)
    (hs : flow.source.isV6 = true) (hd : flow.destination.isV6 = true)
    (h : scratch.length = packetSize flow payload.length) :
    writePacket flow payload scratch =
      ipv6Fields (scratch.take ipv6HeaderSize) (udpHeaderSize + payload.length) flow.source
          flow.destination ++
        datagramFields flow payload (datagramChecksum flow payload) := by
  simp only [packetSize, hs, if_true] at h
  have hheader : (scratch.take ipv6HeaderSize).length = ipv6HeaderSize := by
    rw [List.length_take, h]
    omega
  have hdatagram : (scratch.drop ipv6HeaderSize).length = udpHeaderSize + payload.length := by
    rw [List.length_drop, h]
    omega
  simp only [writePacket, hs, if_true]
  rw [writeIpv6Header_eq _ _ _ _ hs hd hheader, writeDatagram_eq _ _ _ hdatagram]

end Packet

end Sinkhole
