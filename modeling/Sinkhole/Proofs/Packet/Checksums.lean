import Sinkhole.Proofs.Packet.OnesComplement
import Sinkhole.Proofs.Packet.RoundTrip

/-! # Checksums of response packets

A receiver adds up the words of an IPv4 header, and those of a pseudo-header and the datagram; both
sums have to be sixteen ones. The writer's sums leave out the checksum and add the complement, so
the receiver's do come out, whatever the scratch octets held. Only that a checksum of zero stands
for none, which IPv6 does not allow, is not seen to.
-/
namespace Sinkhole.Packet

/-- What a UDP checksum covers besides the datagram: both addresses, the protocol, and the length
that the datagram declares, which has 32 bits with IPv6. -/
def pseudoHeader (transport : Transport) : Bytes :=
  let addresses := transport.source.toBytes ++ transport.destination.toBytes
  let length := (transport.octets.drop 4).take 2
  if transport.source.isV6 then addresses ++ ([0, 0] ++ length ++ [0, 0, 0, udpProtocol])
  else addresses ++ ([0, udpProtocol] ++ length)

/-- What a receiver adds up for the checksum of a datagram. -/
def Transport.covered (transport : Transport) : Bytes :=
  pseudoHeader transport ++ transport.octets

/-- A receiver of the packet finds its checksums right. An IPv6 header has none. -/
structure ChecksumsVerify (packet : Bytes) (transport : Transport) : Prop where
  header : transport.source.isV6 = false → onesSum (packet.take ipv4HeaderSize) = 65535
  datagram : onesSum transport.covered = 65535

def udpChecksum (transport : Transport) : Nat :=
  wordAt transport.octets 6

def carrying (flow : Flow) (payload : Bytes) (checksum : UInt16) : Transport :=
  ⟨flow.source, flow.destination, datagramFields flow payload checksum⟩

def coveredSum (flow : Flow) (payload : Bytes) : Nat :=
  pseudoHeaderSum flow.source flow.destination (udpHeaderSize + payload.length) +
    sumWordsSkipping 3 (datagramFields flow payload 0)

theorem sumWords_lengthField {length : Nat} (h : length < 65536) :
    sumWords (lengthField length) = length := by
  rw [lengthField, sumWords_octets16, UInt16.toNat_ofNat', Nat.mod_eq_of_lt h]

theorem two_dvd_length_addresses (source destination : IpAddress) :
    2 ∣ source.toBytes.length ∧ 2 ∣ (source.toBytes ++ destination.toBytes).length := by
  have hone (address : IpAddress) : 2 ∣ address.toBytes.length := by
    rw [length_toBytes]
    split <;> decide
  refine ⟨hone source, ?_⟩
  rw [List.length_append]
  exact Nat.dvd_add (hone source) (hone destination)

theorem sumWords_toBytes_le (address : IpAddress) : 2 * sumWords address.toBytes ≤ 65535 * 17 := by
  have hle := sumWords_le address.toBytes
  have hlength : address.toBytes.length ≤ 16 := by
    rw [length_toBytes]
    split <;> decide
  omega

section Datagram

variable (flow : Flow) {payload : Bytes}

/-- The writer counts the octets that are there, the receiver reads the length that is declared. -/
theorem sumWords_pseudoHeader (h : udpHeaderSize + payload.length < 65536) (checksum : UInt16) :
    sumWords (pseudoHeader (carrying flow payload checksum)) =
      pseudoHeaderSum flow.source flow.destination (udpHeaderSize + payload.length) := by
  let length := lengthField (udpHeaderSize + payload.length)
  have hfield : ((datagramFields flow payload checksum).drop 4).take 2 = length := rfl
  have hlength : sumWords length = udpHeaderSize + payload.length := sumWords_lengthField h
  obtain ⟨hsource, haddresses⟩ := two_dvd_length_addresses flow.source flow.destination
  have hv4 : sumWords ([0, udpProtocol] ++ length) = udpProtocol.toNat + sumWords length := by
    rw [sumWords_append _ (by rfl)]
    rfl
  have hv6 : sumWords ([0, 0] ++ length ++ [0, 0, 0, udpProtocol]) =
      sumWords length + udpProtocol.toNat := by
    rw [List.append_assoc, sumWords_append _ (by rfl), sumWords_append _ (by rfl)]
    exact Nat.zero_add _
  simp only [pseudoHeader, carrying, hfield, pseudoHeaderSum]
  split
  · rw [sumWords_append _ haddresses, sumWords_append _ hsource, hv6, hlength]
    omega
  · rw [sumWords_append _ haddresses, sumWords_append _ hsource, hv4, hlength]
    omega

theorem two_dvd_length_pseudoHeader (checksum : UInt16) :
    2 ∣ (pseudoHeader (carrying flow payload checksum)).length := by
  have haddresses := (two_dvd_length_addresses flow.source flow.destination).2
  rw [pseudoHeader]
  split
  · rw [List.length_append]
    exact Nat.dvd_add haddresses ⟨4, rfl⟩
  · rw [List.length_append]
    exact Nat.dvd_add haddresses ⟨2, rfl⟩

theorem sumWords_covered (h : udpHeaderSize + payload.length < 65536) (checksum : UInt16) :
    sumWords (carrying flow payload checksum).covered =
      coveredSum flow payload + checksum.toNat := by
  have hfields : sumWords (datagramFields flow payload checksum) =
      sumWordsSkipping 3 (datagramFields flow payload 0) + checksum.toNat :=
    sumWords_field rfl 0 checksum
  rw [Transport.covered, sumWords_append _ (two_dvd_length_pseudoHeader flow checksum),
    sumWords_pseudoHeader flow h, carrying, hfields, coveredSum, Nat.add_assoc]

theorem coveredSum_pos (payload : Bytes) : 0 < coveredSum flow payload := by
  have hprotocol : udpProtocol.toNat = 17 := rfl
  rw [coveredSum, pseudoHeaderSum, hprotocol]
  omega

theorem coveredSum_lt (h : udpHeaderSize + payload.length < 65536) :
    coveredSum flow payload < 4294967296 := by
  have hprotocol : udpProtocol.toNat = 17 := rfl
  have hsource := sumWords_toBytes_le flow.source
  have hdestination := sumWords_toBytes_le flow.destination
  have hdatagram := sumWordsSkipping_le 3 (datagramFields flow payload 0)
  rw [length_datagramFields] at hdatagram
  rw [coveredSum, pseudoHeaderSum, hprotocol]
  omega

theorem onesSum_covered (h : udpHeaderSize + payload.length < 65536) :
    onesSum (carrying flow payload (datagramChecksum flow payload)).covered = 65535 := by
  have hcovered := sumWords_covered flow h (datagramChecksum flow payload)
  apply onesSum_eq_ones (coveredSum_lt flow h) hcovered
  rw [hcovered]
  exact Nat.add_pos_left (coveredSum_pos flow payload) _

theorem udpChecksum_eq_zero_iff (h : udpHeaderSize + payload.length < 65536) :
    udpChecksum (carrying flow payload (datagramChecksum flow payload)) = 0 ↔
      onesSum (carrying flow payload 0).covered = 65535 := by
  have hfield : udpChecksum (carrying flow payload (datagramChecksum flow payload)) =
      (datagramChecksum flow payload).toNat :=
    wordAt_field (Word.octets16 flow.sourcePort ++ Word.octets16 flow.destinationPort ++
      lengthField (udpHeaderSize + payload.length)) payload _
  have hchecksum : datagramChecksum flow payload = 0 ↔
      foldCarries (coveredSum flow payload) = 65535 :=
    complementSum_eq_zero_iff (coveredSum_lt flow h)
  have hrest : sumWords (carrying flow payload 0).covered = coveredSum flow payload :=
    sumWords_covered flow h 0
  rw [hfield, onesSum_eq_foldCarries, hrest, ← hchecksum, ← UInt16.toNat_inj, UInt16.toNat_zero]

end Datagram

theorem onesSum_ipv4Fields (scratch : Bytes) (total : Nat) {source destination : IpAddress}
    (hs : source.isV6 = false) (hd : destination.isV6 = false) :
    onesSum (ipv4Fields scratch total source destination
      (ipv4Checksum scratch total source destination)) = 65535 := by
  let checksum := ipv4Checksum scratch total source destination
  have hsum : sumWords (ipv4Fields scratch total source destination checksum) =
      sumWordsSkipping 5 (ipv4Fields scratch total source destination 0) + checksum.toNat :=
    sumWords_field rfl 0 checksum
  have hbound := sumWordsSkipping_le 5 (ipv4Fields scratch total source destination 0)
  rw [length_ipv4Fields scratch total source destination 0 hs hd, ipv4HeaderSize] at hbound
  have hpos : 0 < sumWords (ipv4Fields scratch total source destination checksum) := by
    have hversion : (0x45 : UInt8).toNat = 69 := rfl
    change 0 < sumWords (0x45 :: octetAt scratch 1 :: _)
    rw [sumWords, hversion]
    omega
  exact onesSum_eq_ones (by omega) hsum hpos

theorem checksumsVerify_writePacket {flow : Flow} {payload scratch : Bytes}
    (hflow : flow.OneFamily) (hscratch : scratch.length = packetSize flow payload.length)
    (h : udpHeaderSize + payload.length < 65536) :
    ChecksumsVerify (writePacket flow payload scratch)
      (carrying flow payload (datagramChecksum flow payload)) := by
  refine ⟨?_, onesSum_covered flow h⟩
  intro hsource
  have hs : flow.source.isV6 = false := hsource
  have hd : flow.destination.isV6 = false := hflow.symm.trans hs
  rw [writePacket_v4 flow payload scratch hs hd hscratch]
  dsimp only
  rw [List.take_left' (length_ipv4Fields _ _ _ _ _ hs hd)]
  exact onesSum_ipv4Fields _ _ hs hd

theorem transport?_of_buildResponse {request : Flow} (hrequest : request.OneFamily)
    (pool : BufferPool) {payload : Bytes} (h : payload.length ≤ request.maxPayload) :
    ∃ scratch : Bytes, scratch.length = packetSize request.reversed payload.length ∧
      (buildResponse pool payload request).1 =
        .ok (writePacket request.reversed payload scratch) ∧
      transport? (writePacket request.reversed payload scratch) =
        some (carrying request.reversed payload (datagramChecksum request.reversed payload)) := by
  have hscratch := length_contents_getZeroed pool (packetSize request.reversed payload.length)
  rw [← Flow.maxPayload_reversed hrequest] at h
  exact ⟨_, hscratch, buildResponse_eq hrequest pool payload,
    transport?_writePacket hrequest.reversed hscratch h⟩

/-- From every pool, an answer that fits is put into a packet whose checksums verify. -/
theorem buildResponse_checksumsVerify (pool : BufferPool) (payload : Bytes) (request : Flow)
    (hrequest : request.OneFamily) (h : payload.length ≤ request.maxPayload) :
    ∃ packet transport, (buildResponse pool payload request).1 = .ok packet ∧
      transport? packet = some transport ∧ ChecksumsVerify packet transport := by
  obtain ⟨scratch, hscratch, hbuilt, htransport⟩ := transport?_of_buildResponse hrequest pool h
  exact ⟨_, _, hbuilt, htransport,
    checksumsVerify_writePacket hrequest.reversed hscratch (udpLength_lt h)⟩

/-- Three octets, so that the last word is padded, in storage that was never emptied. -/
theorem buildResponse_checksumsVerify_oddAnswer :
    (emptyDatagramFlow.OneFamily ∧ [1, 2, 3].length ≤ emptyDatagramFlow.maxPayload ∧
      ∃ packet transport, (buildResponse stalePool [1, 2, 3] emptyDatagramFlow).1 = .ok packet ∧
        transport? packet = some transport ∧ ChecksumsVerify packet transport) ∧
    (ipv6Request.OneFamily ∧ [1, 2, 3].length ≤ ipv6Request.maxPayload ∧
      ∃ packet transport, (buildResponse stalePool [1, 2, 3] ipv6Request).1 = .ok packet ∧
        transport? packet = some transport ∧ ChecksumsVerify packet transport) :=
  ⟨⟨rfl, by decide, buildResponse_checksumsVerify stalePool _ emptyDatagramFlow rfl (by decide)⟩,
    ⟨rfl, by decide, buildResponse_checksumsVerify stalePool _ ipv6Request rfl (by decide)⟩⟩

/-- The checksum of an answer that fits is not zero, exactly if the words that a receiver adds to it
do not make sixteen ones by themselves. -/
theorem udpChecksum_ne_zero_iff (pool : BufferPool) (payload : Bytes) (request : Flow)
    (hrequest : request.OneFamily) (h : payload.length ≤ request.maxPayload) :
    ∃ packet transport, (buildResponse pool payload request).1 = .ok packet ∧
      transport? packet = some transport ∧
      (udpChecksum transport ≠ 0 ↔
        onesSum (carrying request.reversed payload 0).covered ≠ 65535) := by
  obtain ⟨scratch, -, hbuilt, htransport⟩ := transport?_of_buildResponse hrequest pool h
  exact ⟨_, _, hbuilt, htransport,
    not_congr (udpChecksum_eq_zero_iff request.reversed (udpLength_lt h))⟩

def resolverRequest : Flow :=
  ⟨.ofGroups [0xfd00, 0, 0, 0, 0, 0, 0, 1], .ofGroups [0x2001, 0xdb8, 0, 0, 0, 0, 0, 2], 40000, 53⟩

def emptyAnswer (id : UInt16) : Bytes :=
  Word.octets16 id ++ [0x81, 0x80, 0, 0, 0, 0, 0, 0, 0, 0]

theorem udpChecksum_ne_zero_iff_usualId :
    resolverRequest.OneFamily ∧ (emptyAnswer 7).length ≤ resolverRequest.maxPayload ∧
      onesSum (carrying resolverRequest.reversed (emptyAnswer 7) 0).covered ≠ 65535 ∧
      ∃ packet transport,
        (buildResponse (BufferPool.new 1) (emptyAnswer 7) resolverRequest).1 = .ok packet ∧
          transport? packet = some transport ∧ udpChecksum transport ≠ 0 := by
  have hones : onesSum (carrying resolverRequest.reversed (emptyAnswer 7) 0).covered ≠ 65535 := by
    cbv
  obtain ⟨packet, transport, hbuilt, htransport, hzero⟩ :=
    udpChecksum_ne_zero_iff (BufferPool.new 1) (emptyAnswer 7) resolverRequest rfl (by decide)
  exact ⟨rfl, by decide, hones, packet, transport, hbuilt, htransport, hzero.2 hones⟩

/-- With this id the answer goes out over IPv6 with no checksum, and is discarded. -/
theorem udpChecksum_eq_zero_emptyAnswer :
    ∃ packet transport,
      (buildResponse (BufferPool.new 1) (emptyAnswer 0xb713) resolverRequest).1 = .ok packet ∧
        transport? packet = some transport ∧ transport.source.isV6 = true ∧
        udpChecksum transport = 0 := by
  have hfamily : resolverRequest.OneFamily := rfl
  have hfits : (emptyAnswer 0xb713).length ≤ resolverRequest.maxPayload := by decide
  have hones : onesSum (carrying resolverRequest.reversed (emptyAnswer 0xb713) 0).covered =
      65535 := by cbv
  obtain ⟨scratch, -, hbuilt, htransport⟩ :=
    transport?_of_buildResponse hfamily (BufferPool.new 1) hfits
  exact ⟨_, _, hbuilt, htransport, rfl,
    (udpChecksum_eq_zero_iff resolverRequest.reversed (udpLength_lt hfits)).2 hones⟩

end Sinkhole.Packet
