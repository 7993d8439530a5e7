import Sinkhole.Proofs.Packet.Layout

/-! # Reading what was written

A response packet reads back as the flow it was written for and the whole payload, as long as the
payload fits the length fields of its family. No field that is read is one that the writer leaves
alone, so it does not matter what the scratch octets held. The two ends of a flow that was read are
of one family, so that every datagram that was read can be answered.
-/
namespace Sinkhole

/-- The longest payload that the length fields of a flow's family can tell. -/
def Flow.maxPayload (flow : Flow) : Nat :=
  if flow.source.isV6 then 65527 else 65507

def Flow.OneFamily (flow : Flow) : Prop :=
  flow.source.isV6 = flow.destination.isV6

theorem Flow.OneFamily.reversed {flow : Flow} (h : flow.OneFamily) : flow.reversed.OneFamily :=
  h.symm

theorem Flow.OneFamily.bne_eq_false {flow : Flow} (h : flow.OneFamily) :
    (flow.source.isV6 != flow.destination.isV6) = false := by
  rw [show flow.source.isV6 = flow.destination.isV6 from h, bne_self_eq_false]

theorem Flow.maxPayload_reversed {flow : Flow} (h : flow.OneFamily) :
    flow.reversed.maxPayload = flow.maxPayload := by
  have hends : flow.destination.isV6 = flow.source.isV6 := h.symm
  simp only [Flow.maxPayload, Flow.reversed, hends]

namespace Packet

theorem octetAt_append (front rest : Bytes) (i : Nat) :
    octetAt (front ++ rest) (front.length + i) = octetAt rest i := by
  rw [octetAt, octetAt, List.getD_eq_getElem?_getD, List.getD_eq_getElem?_getD,
    List.getElem?_append_right (Nat.le_add_right _ _), Nat.add_sub_cancel_left]

theorem wordAt_octets16 (w : UInt16) (rest : Bytes) :
    wordAt (Word.octets16 w ++ rest) 0 = w.toNat := by
  have hw := w.toNat_lt
  have hhi : octetAt (Word.octets16 w ++ rest) 0 = UInt8.ofNat (w.toNat / 256) := rfl
  have hlo : octetAt (Word.octets16 w ++ rest) (0 + 1) = UInt8.ofNat (w.toNat % 256) := rfl
  simp only [wordAt, hhi, hlo, UInt8.toNat_ofNat']
  omega

theorem wordAt_field (front rest : Bytes) (w : UInt16) :
    wordAt (front ++ (Word.octets16 w ++ rest)) front.length = w.toNat := by
  have hhi := octetAt_append front (Word.octets16 w ++ rest) 0
  have hlo := octetAt_append front (Word.octets16 w ++ rest) 1
  rw [Nat.add_zero] at hhi
  rw [← wordAt_octets16 w rest, wordAt, wordAt, hhi, hlo]

theorem wordAt_lengthField (front rest : Bytes) {length : Nat} (h : length < 65536) :
    wordAt (front ++ (lengthField length ++ rest)) front.length = length := by
  rw [lengthField, wordAt_field, UInt16.toNat_ofNat']
  omega

theorem octetAt_toList {n : Nat} (front rest : Bytes) (octets : Vector UInt8 n) (i : Fin n) :
    octetAt (front ++ (octets.toList ++ rest)) (front.length + i.val) = octets[i.val] := by
  have hi : i.val < octets.toList.length := by rw [Vector.length_toList]; exact i.isLt
  rw [octetAt_append, octetAt, List.getD_eq_getElem?_getD, List.getElem?_append_left hi,
    List.getElem?_eq_getElem hi, Option.getD_some, Vector.getElem_toList]

theorem ipv4At_append (front rest : Bytes) (octets : Vector UInt8 4) :
    ipv4At (front ++ (octets.toList ++ rest)) front.length = .v4 octets := by
  simp only [ipv4At, octetAt_toList, Vector.ofFn_getElem]

theorem ipv4At_append_append (front rest : Bytes) (first octets : Vector UInt8 4) :
    ipv4At (front ++ (first.toList ++ (octets.toList ++ rest))) (front.length + 4) =
      .v4 octets := by
  have h := ipv4At_append (front ++ first.toList) rest octets
  rwa [List.append_assoc, List.length_append, Vector.length_toList] at h

theorem ipv6At_append (front rest : Bytes) (octets : Vector UInt8 16) :
    ipv6At (front ++ (octets.toList ++ rest)) front.length = .v6 octets := by
  simp only [ipv6At, octetAt_toList, Vector.ofFn_getElem]

theorem ipv6At_append_append (front rest : Bytes) (first octets : Vector UInt8 16) :
    ipv6At (front ++ (first.toList ++ (octets.toList ++ rest))) (front.length + 16) =
      .v6 octets := by
  have h := ipv6At_append (front ++ first.toList) rest octets
  rwa [List.append_assoc, List.length_append, Vector.length_toList] at h

theorem transport?_ipv4Fields (scratch : Bytes) (source destination : Vector UInt8 4)
    (checksum : UInt16) (octets : Bytes) (h : ipv4HeaderSize + octets.length < 65536) :
    transport? (ipv4Fields scratch (ipv4HeaderSize + octets.length) (.v4 source) (.v4 destination)
        checksum ++ octets) =
      some ⟨.v4 source, .v4 destination, octets⟩ := by
  let total := ipv4HeaderSize + octets.length
  let header := ipv4Fields scratch total (.v4 source) (.v4 destination) checksum
  have hheader : header.length = ipv4HeaderSize := length_ipv4Fields _ _ _ _ _ rfl rfl
  let front : Bytes := ([0x45, octetAt scratch 1] : Bytes) ++ lengthField total ++
    [octetAt scratch 4, octetAt scratch 5, octetAt scratch 6, octetAt scratch 7, hopLimit,
      udpProtocol] ++ Word.octets16 checksum
  have hpacket : header ++ octets =
      front ++ (source.toList ++ (destination.toList ++ octets)) := by
    simp only [header, ipv4Fields, front, IpAddress.toBytes, List.append_assoc]
  have hsource : ipv4At (header ++ octets) 12 = .v4 source := by
    rw [hpacket]; exact ipv4At_append front _ source
  have hdestination : ipv4At (header ++ octets) 16 = .v4 destination := by
    rw [hpacket]; exact ipv4At_append_append front octets source destination
  have htotal : wordAt (header ++ octets) 2 = total :=
    wordAt_lengthField [0x45, octetAt scratch 1] _ h
  have hlength : ¬ (header ++ octets).length < ipv4HeaderSize := by
    rw [List.length_append, hheader]; omega
  have hoctets :
      ((header ++ octets).drop ipv4HeaderSize).take (total - ipv4HeaderSize) = octets := by
    rw [← hheader, List.drop_left, hheader, Nat.add_sub_cancel_left, List.take_length]
  have hip : ipv4Transport? (header ++ octets) =
      some ⟨.v4 source, .v4 destination, octets⟩ := by
    have hprotocol : octetAt (header ++ octets) 9 = udpProtocol := rfl
    have hfirst : octetAt (header ++ octets) 0 = 0x45 := rfl
    have hsize : (octetAt (header ++ octets) 0).toNat % 16 * 4 = ipv4HeaderSize := by
      rw [hfirst]; decide
    rw [ipv4Transport?, if_neg hlength, hprotocol, if_neg (by decide)]
    simp only [hsize, hsource, hdestination, htotal, Nat.sub_self, Nat.add_zero, hoctets]
  exact hip

theorem toNat_versionOctet_div (kept : UInt8) : (versionOctet 6 kept).toNat / 16 = 6 := by
  simp only [versionOctet, UInt8.toNat_add, UInt8.toNat_mul, UInt8.toNat_mod, UInt8.reduceToNat]
  omega

theorem transport?_ipv6Fields (scratch : Bytes) (source destination : Vector UInt8 16)
    (octets : Bytes) (h : octets.length < 65536) :
    transport? (ipv6Fields scratch octets.length (.v6 source) (.v6 destination) ++ octets) =
      some ⟨.v6 source, .v6 destination, octets⟩ := by
  let header := ipv6Fields scratch octets.length (.v6 source) (.v6 destination)
  have hheader : header.length = ipv6HeaderSize := length_ipv6Fields _ _ _ _ rfl rfl
  let first : Bytes :=
    [versionOctet 6 (octetAt scratch 0), octetAt scratch 1, octetAt scratch 2, octetAt scratch 3]
  let front : Bytes := first ++ lengthField octets.length ++ [udpProtocol, hopLimit]
  have hpacket : header ++ octets =
      front ++ (source.toList ++ (destination.toList ++ octets)) := by
    simp only [header, ipv6Fields, front, first, IpAddress.toBytes, List.append_assoc]
  have hsource : ipv6At (header ++ octets) 8 = .v6 source := by
    rw [hpacket]; exact ipv6At_append front _ source
  have hdestination : ipv6At (header ++ octets) 24 = .v6 destination := by
    rw [hpacket]; exact ipv6At_append_append front octets source destination
  have hdeclared : wordAt (header ++ octets) 4 = octets.length := wordAt_lengthField first _ h
  have hprotocol : octetAt (header ++ octets) 6 = udpProtocol := rfl
  have hlength : ¬ (header ++ octets).length < ipv6HeaderSize := by
    rw [List.length_append, hheader]; omega
  have hoctets : ((header ++ octets).drop ipv6HeaderSize).take octets.length = octets := by
    rw [← hheader, List.drop_left, List.take_length]
  have hip : ipv6Transport? (header ++ octets) =
      some ⟨.v6 source, .v6 destination, octets⟩ := by
    rw [ipv6Transport?, if_neg hlength, hprotocol, if_neg (by decide), hsource, hdestination,
      hdeclared, hoctets]
  have hversion := toNat_versionOctet_div (octetAt scratch 0)
  let version := versionOctet 6 (octetAt scratch 0)
  change (if version.toNat / 16 = 4 then ipv4Transport? (header ++ octets)
    else if version.toNat / 16 = 6 then ipv6Transport? (header ++ octets) else none) = _
  rw [hversion, if_neg (by decide), if_pos rfl]
  exact hip

theorem datagram?_of_transport {packet : Bytes} {flow : Flow} {payload : Bytes} {checksum : UInt16}
    (htransport : transport? packet =
      some ⟨flow.source, flow.destination, datagramFields flow payload checksum⟩)
    (h : udpHeaderSize + payload.length < 65536) :
    datagram? packet = some (flow, payload) := by
  let octets := datagramFields flow payload checksum
  have hlength : octets.length = udpHeaderSize + payload.length :=
    length_datagramFields flow payload checksum
  have hports : octets = Word.octets16 flow.sourcePort ++ (Word.octets16 flow.destinationPort ++
      (lengthField (udpHeaderSize + payload.length) ++ (Word.octets16 checksum ++ payload))) := by
    simp only [octets, datagramFields, List.append_assoc]
  have hsource : wordAt octets 0 = flow.sourcePort.toNat := by
    rw [hports, wordAt_octets16]
  have hdestination : wordAt octets 2 = flow.destinationPort.toNat := by
    rw [hports]; exact wordAt_field (Word.octets16 flow.sourcePort) _ _
  have hdeclared : wordAt octets 4 = udpHeaderSize + payload.length :=
    wordAt_lengthField (Word.octets16 flow.sourcePort ++ Word.octets16 flow.destinationPort) _ h
  have hpayload : (octets.take (udpHeaderSize + payload.length)).drop udpHeaderSize = payload := by
    rw [← hlength, List.take_length]; rfl
  have hfits : (octets.length < udpHeaderSize || udpHeaderSize + payload.length < udpHeaderSize ||
      octets.length < udpHeaderSize + payload.length) = false := by
    simp [hlength]
  rw [datagram?, htransport]
  change (if _ then _ else _) = _
  simp only [show datagramFields flow payload checksum = octets from rfl, hsource, hdestination,
    hdeclared, hpayload, hfits, UInt16.ofNat_toNat]
  rfl

theorem udpLength_lt {flow : Flow} {payload : Bytes} (h : payload.length ≤ flow.maxPayload) :
    udpHeaderSize + payload.length < 65536 := by
  have hmax : flow.maxPayload ≤ 65527 := by
    rw [Flow.maxPayload]; split <;> omega
  rw [udpHeaderSize]
  omega

theorem transport?_writePacket {flow : Flow} {payload scratch : Bytes} (hflow : flow.OneFamily)
    (hscratch : scratch.length = packetSize flow payload.length)
    (h : payload.length ≤ flow.maxPayload) :
    transport? (writePacket flow payload scratch) =
      some ⟨flow.source, flow.destination,
        datagramFields flow payload (datagramChecksum flow payload)⟩ := by
  have hlength := length_datagramFields flow payload (datagramChecksum flow payload)
  have hudp := udpLength_lt h
  rcases flow with ⟨source, destination, sourcePort, destinationPort⟩
  rcases source with source | source <;> rcases destination with destination | destination
  · have hpayload : payload.length ≤ 65507 := h
    rw [writePacket_v4 _ _ _ rfl rfl hscratch, ← hlength]
    apply transport?_ipv4Fields
    rw [hlength, ipv4HeaderSize, udpHeaderSize]
    omega
  · exact absurd hflow Bool.false_ne_true
  · exact absurd hflow.symm Bool.false_ne_true
  · rw [writePacket_v6 _ _ _ rfl rfl hscratch, ← hlength]
    apply transport?_ipv6Fields
    rw [hlength]
    exact hudp

/-- A packet written for a flow reads back as the flow and the payload. -/
theorem datagram?_writePacket {flow : Flow} {payload scratch : Bytes} (hflow : flow.OneFamily)
    (hscratch : scratch.length = packetSize flow payload.length)
    (h : payload.length ≤ flow.maxPayload) :
    datagram? (writePacket flow payload scratch) = some (flow, payload) :=
  datagram?_of_transport (transport?_writePacket hflow hscratch h) (udpLength_lt h)

theorem isV6_ipv4At (packet : Bytes) (offset : Nat) : (ipv4At packet offset).isV6 = false := rfl

theorem isV6_ipv6At (packet : Bytes) (offset : Nat) : (ipv6At packet offset).isV6 = true := rfl

theorem transport?_oneFamily {packet : Bytes} {transport : Transport}
    (h : transport? packet = some transport) :
    transport.source.isV6 = transport.destination.isV6 := by
  cases packet with
  | nil => cases h
  | cons first rest =>
    simp only [transport?, ipv4Transport?, ipv6Transport?] at h
    split at h
    · split at h
      · cases h
      · split at h
        · cases h
        · cases h
          rw [isV6_ipv4At, isV6_ipv4At]
    · split at h
      · split at h
        · cases h
        · split at h
          · cases h
          · cases h
            rw [isV6_ipv6At, isV6_ipv6At]
      · cases h

theorem datagram?_oneFamily {packet payload : Bytes} {flow : Flow}
    (h : datagram? packet = some (flow, payload)) : flow.OneFamily := by
  obtain ⟨transport, htransport, hflow⟩ := Option.bind_eq_some_iff.1 h
  have hfamily := transport?_oneFamily htransport
  simp only at hflow
  split at hflow
  · cases hflow
  · cases hflow
    exact hfamily

/-- A request of one family can always be answered, and the answer reads back whole. -/
theorem response_ok (answer : Bytes) {request : Flow} (hrequest : request.OneFamily) :
    ∃ packet, response answer request = .ok packet ∧
      (answer.length ≤ request.maxPayload →
        datagram? packet = some (request.reversed, answer)) := by
  refine ⟨_, by rw [response, hrequest.bne_eq_false]; rfl, ?_⟩
  intro hanswer
  exact datagram?_writePacket hrequest.reversed List.length_replicate
    (by rwa [Flow.maxPayload_reversed hrequest])

/-- With this pool, the payload is answered to the request in a packet that reads back as the
reversed flow and the payload. -/
def Answers (pool : BufferPool) (payload : Bytes) (request : Flow) : Prop :=
  ∃ packet after, buildResponse pool payload request = (.ok packet, after) ∧
    datagram? packet = some (request.reversed, payload)

theorem length_contents_getZeroed (pool : BufferPool) (length : Nat) :
    (pool.getZeroed length).1.contents.length = length :=
  Storage.length_resize _ _

theorem buildResponse_eq {request : Flow} (hrequest : request.OneFamily) (pool : BufferPool)
    (payload : Bytes) :
    (buildResponse pool payload request).1 = .ok (writePacket request.reversed payload
      (pool.getZeroed (packetSize request.reversed payload.length)).1.contents) := by
  rw [buildResponse, hrequest.bne_eq_false]
  rfl

theorem answers_of_oneFamily (pool : BufferPool) {payload : Bytes} {request : Flow}
    (hrequest : request.OneFamily) (h : payload.length ≤ request.maxPayload) :
    Answers pool payload request := by
  refine ⟨_, _, by rw [buildResponse, hrequest.bne_eq_false]; rfl, ?_⟩
  exact datagram?_writePacket hrequest.reversed (length_contents_getZeroed pool _)
    (by rwa [Flow.maxPayload_reversed hrequest])

/-- Whatever the pool holds, a payload that fits is answered to every request of one family, and
so to every datagram that was read. -/
theorem buildResponse_roundTrip (pool : BufferPool) (payload : Bytes) :
    (∀ request : Flow, request.OneFamily → payload.length ≤ request.maxPayload →
      Answers pool payload request) ∧
    ∀ packet request asked, datagram? packet = some (request, asked) →
      payload.length ≤ request.maxPayload → Answers pool payload request := by
  refine ⟨fun request => answers_of_oneFamily pool, ?_⟩
  intro packet request asked hread
  exact answers_of_oneFamily pool (datagram?_oneFamily hread)

def stalePool : BufferPool := ⟨[⟨0, freshCapacity, List.replicate 64 255⟩], 1, 1⟩

def ipv6Request : Flow :=
  ⟨.v6 (Vector.replicate 16 0xfd), .v6 (Vector.replicate 16 7), 40000, 53⟩

def emptyDatagram : Bytes :=
  [0x45, 0, 0, 28, 0, 0, 0, 0, 64, 17, 0, 0, 10, 10, 10, 10, 9, 9, 9, 9, 0x9c, 0x40, 0, 53, 0, 8,
    0, 0]

def emptyDatagramFlow : Flow :=
  ⟨.v4 (Vector.replicate 4 10), .v4 (Vector.replicate 4 9), 40000, 53⟩

theorem buildResponse_roundTrip_stalePool :
    (ipv6Request.OneFamily ∧ [1, 2, 3].length ≤ ipv6Request.maxPayload ∧
      Answers stalePool [1, 2, 3] ipv6Request) ∧
    (datagram? emptyDatagram = some (emptyDatagramFlow, []) ∧
      [1, 2, 3].length ≤ emptyDatagramFlow.maxPayload ∧
      Answers stalePool [1, 2, 3] emptyDatagramFlow) := by
  have hread : datagram? emptyDatagram = some (emptyDatagramFlow, []) := by cbv
  have hroundTrip := buildResponse_roundTrip stalePool [1, 2, 3]
  exact ⟨⟨rfl, by decide, hroundTrip.1 ipv6Request rfl (by decide)⟩,
    ⟨hread, by decide, hroundTrip.2 emptyDatagram emptyDatagramFlow [] hread (by decide)⟩⟩

end Packet

end Sinkhole
