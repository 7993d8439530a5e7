import Sinkhole.Proofs.Packet.RoundTrip

/-! # Length fields of response packets

A length field is written as the low sixteen bits of a length that is never checked. The three
lengths of a packet differ by its headers, so the first that does not fit decides: the total length
with IPv4, the payload length with IPv6. Answers longer than that still become packets, whose
fields tell less than is there.
-/
namespace Sinkhole.Packet

/-- The headers declare the octets that are there. -/
inductive TellsLengths (packet : Bytes) : Prop
  | v4 (version : octetAt packet 0 = 0x45)
      (total : wordAt packet 2 = packet.length)
      (datagram : ipv4HeaderSize + wordAt packet (ipv4HeaderSize + 4) = packet.length)
  | v6 (version : (octetAt packet 0).toNat / 16 = 6)
      (rest : ipv6HeaderSize + wordAt packet 4 = packet.length)
      (datagram : ipv6HeaderSize + wordAt packet (ipv6HeaderSize + 4) = packet.length)

theorem wordAt_append (front rest : Bytes) (i : Nat) :
    wordAt (front ++ rest) (front.length + i) = wordAt rest i := by
  rw [wordAt, wordAt, octetAt_append, Nat.add_assoc, octetAt_append]

theorem wordAt_lengthField_mod (front rest : Bytes) (length : Nat) :
    wordAt (front ++ (lengthField length ++ rest)) front.length = length % 65536 := by
  rw [lengthField, wordAt_field, UInt16.toNat_ofNat']

theorem declaredLength_datagramFields (flow : Flow) (payload : Bytes) (checksum : UInt16) :
    wordAt (datagramFields flow payload checksum) 4 =
      (udpHeaderSize + payload.length) % 65536 := by
  rw [datagramFields, List.append_assoc]
  exact wordAt_lengthField_mod
    (Word.octets16 flow.sourcePort ++ Word.octets16 flow.destinationPort) _ _

theorem length_writePacket {flow : Flow} {payload scratch : Bytes}
    (hscratch : scratch.length = packetSize flow payload.length) :
    (writePacket flow payload scratch).length = packetSize flow payload.length := by
  have hheader : (if flow.source.isV6 then ipv6HeaderSize else ipv4HeaderSize) ≤
      scratch.length := by
    rw [hscratch, packetSize]
    exact Nat.le_add_right _ _
  simp only [writePacket, writeIpv4Header, writeIpv6Header, writeVersion, writeDatagram,
    List.length_append, apply_ite List.length, length_overwrite, List.length_take,
    List.length_drop, ite_self, ← hscratch]
  omega

theorem declares_v4 {flow : Flow} {payload scratch : Bytes} (hs : flow.source.isV6 = false)
    (hd : flow.destination.isV6 = false)
    (hscratch : scratch.length = packetSize flow payload.length) :
    let packet := writePacket flow payload scratch
    octetAt packet 0 = 0x45 ∧
      wordAt packet 2 = (ipv4HeaderSize + (udpHeaderSize + payload.length)) % 65536 ∧
      wordAt packet (ipv4HeaderSize + 4) = (udpHeaderSize + payload.length) % 65536 := by
  intro packet
  let header := scratch.take ipv4HeaderSize
  let size := ipv4HeaderSize + (udpHeaderSize + payload.length)
  let sum := ipv4Checksum header size flow.source flow.destination
  have hfields : packet = ipv4Fields header size flow.source flow.destination sum ++
      datagramFields flow payload (datagramChecksum flow payload) :=
    writePacket_v4 flow payload scratch hs hd hscratch
  have hversion : octetAt packet 0 = 0x45 := by
    rw [hfields]
    rfl
  have htotal : wordAt packet 2 = size % 65536 := by
    rw [hfields, ipv4Fields]
    simp only [List.append_assoc]
    exact wordAt_lengthField_mod [0x45, octetAt header 1] _ size
  have hdatagram : wordAt packet (ipv4HeaderSize + 4) =
      (udpHeaderSize + payload.length) % 65536 := by
    rw [hfields, ← length_ipv4Fields header size _ _ sum hs hd, wordAt_append,
      declaredLength_datagramFields]
  exact ⟨hversion, htotal, hdatagram⟩

theorem declares_v6 {flow : Flow} {payload scratch : Bytes} (hs : flow.source.isV6 = true)
    (hd : flow.destination.isV6 = true)
    (hscratch : scratch.length = packetSize flow payload.length) :
    let packet := writePacket flow payload scratch
    (octetAt packet 0).toNat / 16 = 6 ∧
      wordAt packet 4 = (udpHeaderSize + payload.length) % 65536 ∧
      wordAt packet (ipv6HeaderSize + 4) = (udpHeaderSize + payload.length) % 65536 := by
  intro packet
  let header := scratch.take ipv6HeaderSize
  let size := udpHeaderSize + payload.length
  have hfields : packet = ipv6Fields header size flow.source flow.destination ++
      datagramFields flow payload (datagramChecksum flow payload) :=
    writePacket_v6 flow payload scratch hs hd hscratch
  have hversion : (octetAt packet 0).toNat / 16 = 6 := by
    rw [hfields]
    exact toNat_versionOctet_div (octetAt header 0)
  have hrest : wordAt packet 4 = size % 65536 := by
    rw [hfields, ipv6Fields]
    simp only [List.append_assoc]
    exact wordAt_lengthField_mod
      [versionOctet 6 (octetAt header 0), octetAt header 1, octetAt header 2, octetAt header 3] _
      size
  have hdatagram : wordAt packet (ipv6HeaderSize + 4) = size % 65536 := by
    rw [hfields, ← length_ipv6Fields header size _ _ hs hd, wordAt_append,
      declaredLength_datagramFields]
  exact ⟨hversion, hrest, hdatagram⟩

theorem tellsLengths_v4_iff {flow : Flow} {payload scratch : Bytes}
    (hs : flow.source.isV6 = false) (hd : flow.destination.isV6 = false)
    (hscratch : scratch.length = packetSize flow payload.length) :
    TellsLengths (writePacket flow payload scratch) ↔ payload.length ≤ 65507 := by
  obtain ⟨hversion, htotal, hdatagram⟩ := declares_v4 hs hd hscratch
  have hlength : (writePacket flow payload scratch).length = 20 + (8 + payload.length) := by
    rw [length_writePacket hscratch, packetSize, hs]
    rfl
  rw [ipv4HeaderSize, udpHeaderSize] at htotal hdatagram
  constructor
  · rintro (⟨-, hsize, -⟩ | ⟨hother, -, -⟩)
    · omega
    · rw [hversion] at hother
      exact absurd hother (by decide)
  · intro hfits
    refine .v4 hversion ?_ ?_
    · omega
    · rw [ipv4HeaderSize]
      omega

theorem tellsLengths_v6_iff {flow : Flow} {payload scratch : Bytes}
    (hs : flow.source.isV6 = true) (hd : flow.destination.isV6 = true)
    (hscratch : scratch.length = packetSize flow payload.length) :
    TellsLengths (writePacket flow payload scratch) ↔ payload.length ≤ 65527 := by
  obtain ⟨hversion, hrest, hdatagram⟩ := declares_v6 hs hd hscratch
  have hlength : (writePacket flow payload scratch).length = 40 + (8 + payload.length) := by
    rw [length_writePacket hscratch, packetSize, hs]
    rfl
  rw [udpHeaderSize] at hrest hdatagram
  constructor
  · rintro (⟨hother, -, -⟩ | ⟨-, hsize, -⟩)
    · rw [hother] at hversion
      exact absurd hversion (by decide)
    · rw [ipv6HeaderSize] at hsize
      omega
  · intro hfits
    refine .v6 hversion ?_ ?_
    · rw [ipv6HeaderSize]
      omega
    · rw [hdatagram, ipv6HeaderSize]
      omega

theorem tellsLengths_writePacket_iff {flow : Flow} {payload scratch : Bytes}
    (hflow : flow.OneFamily) (hscratch : scratch.length = packetSize flow payload.length) :
    TellsLengths (writePacket flow payload scratch) ↔ payload.length ≤ flow.maxPayload := by
  cases hs : flow.source.isV6 with
  | false =>
    rw [tellsLengths_v4_iff hs (hflow.symm.trans hs) hscratch, Flow.maxPayload, hs]
    rfl
  | true =>
    rw [tellsLengths_v6_iff hs (hflow.symm.trans hs) hscratch, Flow.maxPayload, hs]
    rfl

theorem tellsLengths_of_buildResponse_iff {pool : BufferPool} {payload packet : Bytes}
    {request : Flow} (hrequest : request.OneFamily)
    (hbuilt : (buildResponse pool payload request).1 = .ok packet) :
    TellsLengths packet ↔ payload.length ≤ request.maxPayload := by
  rw [buildResponse_eq hrequest] at hbuilt
  cases hbuilt
  rw [tellsLengths_writePacket_iff hrequest.reversed (length_contents_getZeroed pool _),
    Flow.maxPayload_reversed hrequest]

/-- An answer that is one octet too long for IPv4 gets a packet that declares no octets at all. -/
theorem exists_declaresNone {request : Flow} (hs : request.source.isV6 = false)
    (hd : request.destination.isV6 = false) (pool : BufferPool) {answer : Bytes}
    (hanswer : answer.length = 65508) :
    ∃ packet, (buildResponse pool answer request).1 = .ok packet ∧
      packet.length = 65536 ∧ wordAt packet 2 = 0 ∧ ¬ TellsLengths packet := by
  have hrequest : request.OneFamily := hs.trans hd.symm
  have hbuilt := buildResponse_eq hrequest pool answer
  have hscratch := length_contents_getZeroed pool (packetSize request.reversed answer.length)
  obtain ⟨-, htotal, -⟩ := declares_v4 hd hs hscratch
  refine ⟨_, hbuilt, ?_, ?_, ?_⟩
  · rw [length_writePacket hscratch, packetSize, show request.reversed.source.isV6 = false from hd,
      hanswer]
    rfl
  · rw [htotal, hanswer]
    rfl
  · rw [tellsLengths_of_buildResponse_iff hrequest hbuilt, hanswer, Flow.maxPayload, hs]
    decide

/-- From every pool, either no packet is built or one whose length fields are true, exactly if the
ends of the request are of two families or the answer fits the fields of theirs. -/
theorem buildResponse_tellsLengths_iff (pool : BufferPool) (payload : Bytes) (request : Flow) :
    (∀ packet, (buildResponse pool payload request).1 = .ok packet → TellsLengths packet) ↔
      (request.OneFamily → payload.length ≤ request.maxPayload) := by
  by_cases hrequest : request.OneFamily
  · constructor
    · intro htells _
      have hbuilt := buildResponse_eq hrequest pool payload
      exact (tellsLengths_of_buildResponse_iff hrequest hbuilt).1 (htells _ hbuilt)
    · intro hfits packet hbuilt
      exact (tellsLengths_of_buildResponse_iff hrequest hbuilt).2 (hfits hrequest)
  · constructor
    · intro _ hfamily
      exact absurd hfamily hrequest
    · intro _ packet hbuilt
      rw [buildResponse, if_pos (bne_iff_ne.2 hrequest)] at hbuilt
      cases hbuilt

theorem not_tellsLengths_longAnswer :
    ∃ packet, (buildResponse (BufferPool.new 1) (List.replicate 65508 0) emptyDatagramFlow).1 =
        .ok packet ∧
      packet.length = 65536 ∧ wordAt packet 2 = 0 ∧ ¬ TellsLengths packet :=
  exists_declaresNone rfl rfl (BufferPool.new 1) List.length_replicate

end Sinkhole.Packet
