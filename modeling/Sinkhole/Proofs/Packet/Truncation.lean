import Sinkhole.Proofs.Packet.RoundTrip
import Sinkhole.Proxy.Request

/-! # Packets cut short

A read into a buffer leaves the first octets of a packet. Its headers tell where the payload ends.
When the cut is behind that end, the datagram reads as before; when it is not, there is no
datagram. A cut packet thus never yields a part of a payload, and a packet that has no datagram
does not get one by being cut.
-/
namespace Sinkhole.Packet

section Fields

variable {packet : Bytes} {i k : Nat}

theorem octetAt_take (h : i < k) : octetAt (packet.take k) i = octetAt packet i := by
  rw [octetAt, octetAt, List.getD_eq_getElem?_getD, List.getElem?_take_of_lt h,
    ← List.getD_eq_getElem?_getD]

theorem octetAt_drop (packet : Bytes) (start i : Nat) :
    octetAt (packet.drop start) i = octetAt packet (start + i) := by
  rw [octetAt, octetAt, List.getD_eq_getElem?_getD, List.getElem?_drop,
    ← List.getD_eq_getElem?_getD]

theorem wordAt_take (h : i + 1 < k) : wordAt (packet.take k) i = wordAt packet i := by
  rw [wordAt, wordAt, octetAt_take (Nat.lt_of_succ_lt h), octetAt_take h]

theorem wordAt_drop (packet : Bytes) (start i : Nat) :
    wordAt (packet.drop start) i = wordAt packet (start + i) := by
  rw [wordAt, wordAt, octetAt_drop, octetAt_drop, Nat.add_assoc]

theorem ipv4At_take (h : i + 4 ≤ k) : ipv4At (packet.take k) i = ipv4At packet i := by
  have hoctets (j : Fin 4) : octetAt (packet.take k) (i + j.val) = octetAt packet (i + j.val) :=
    octetAt_take (by omega)
  simp only [ipv4At, hoctets]

theorem ipv6At_take (h : i + 16 ≤ k) : ipv6At (packet.take k) i = ipv6At packet i := by
  have hoctets (j : Fin 16) : octetAt (packet.take k) (i + j.val) = octetAt packet (i + j.val) :=
    octetAt_take (by omega)
  simp only [ipv6At, hoctets]

end Fields

theorem slice_take (packet : Bytes) (start k n : Nat) :
    ((packet.take k).drop start).take n = ((packet.drop start).take n).take (k - start) := by
  rw [List.drop_take, List.take_take, List.take_take, Nat.min_comm]

namespace Transport

def declaredLength (transport : Transport) : Nat := wordAt transport.octets 4

def flow (transport : Transport) : Flow where
  source := transport.source
  destination := transport.destination
  sourcePort := UInt16.ofNat (wordAt transport.octets 0)
  destinationPort := UInt16.ofNat (wordAt transport.octets 2)

def payload (transport : Transport) : Bytes :=
  (transport.octets.take transport.declaredLength).drop udpHeaderSize

structure Complete (transport : Transport) : Prop where
  header : udpHeaderSize ≤ transport.declaredLength
  present : transport.declaredLength ≤ transport.octets.length

def cut (n : Nat) (transport : Transport) : Transport :=
  { transport with octets := transport.octets.take n }

variable {transport : Transport} {n : Nat}

theorem length_cut_le (n : Nat) (transport : Transport) :
    (transport.cut n).octets.length ≤ n :=
  List.length_take_le n transport.octets

theorem declaredLength_cut (h : udpHeaderSize ≤ n) :
    (transport.cut n).declaredLength = transport.declaredLength :=
  wordAt_take (Nat.lt_of_lt_of_le (by decide) h)

theorem flow_cut (h : udpHeaderSize ≤ n) : (transport.cut n).flow = transport.flow := by
  have hsource : wordAt (transport.octets.take n) 0 = wordAt transport.octets 0 :=
    wordAt_take (Nat.lt_of_lt_of_le (by decide) h)
  have hdestination : wordAt (transport.octets.take n) 2 = wordAt transport.octets 2 :=
    wordAt_take (Nat.lt_of_lt_of_le (by decide) h)
  simp only [flow, cut, hsource, hdestination]

theorem payload_cut (hheader : udpHeaderSize ≤ n) (h : transport.declaredLength ≤ n) :
    (transport.cut n).payload = transport.payload := by
  rw [payload, payload, declaredLength_cut hheader, cut, List.take_take, Nat.min_eq_left h]

/-- Without its header a cut datagram declares a length that may be anything, but no length fits
into less than a header. -/
theorem complete_cut_iff :
    (transport.cut n).Complete ↔ transport.Complete ∧ transport.declaredLength ≤ n := by
  rcases Nat.lt_or_ge n udpHeaderSize with hn | hn
  · have hleft : ¬ (transport.cut n).Complete := by
      intro h
      have hsize := h.header.trans (h.present.trans (length_cut_le n transport))
      exact absurd hsize (Nat.not_le.2 hn)
    have hright : ¬ (transport.Complete ∧ transport.declaredLength ≤ n) :=
      fun h => absurd (h.1.header.trans h.2) (Nat.not_le.2 hn)
    exact iff_of_false hleft hright
  · have hlength : (transport.cut n).octets.length = min n transport.octets.length :=
      List.length_take
    constructor
    · rintro ⟨hheader, hpresent⟩
      rw [declaredLength_cut hn] at hheader hpresent
      rw [hlength] at hpresent
      exact ⟨⟨hheader, hpresent.trans (Nat.min_le_right _ _)⟩,
        hpresent.trans (Nat.min_le_left _ _)⟩
    · rintro ⟨⟨hheader, hpresent⟩, hcut⟩
      refine ⟨?_, ?_⟩
      · rwa [declaredLength_cut hn]
      · rw [declaredLength_cut hn, hlength]
        exact Nat.le_min.2 ⟨hcut, hpresent⟩

end Transport

section OfTransport

variable {packet : Bytes} {transport : Transport}

theorem datagram?_of_transport_none (h : transport? packet = none) : datagram? packet = none := by
  rw [datagram?, h]
  rfl

theorem datagram?_of_complete (h : transport? packet = some transport)
    (hcomplete : transport.Complete) :
    datagram? packet = some (transport.flow, transport.payload) := by
  have hlength : wordAt transport.octets 4 = transport.declaredLength := rfl
  have hheader := hcomplete.header
  have hpresent := hcomplete.present
  rw [datagram?, h]
  change (if _ then _ else _) = _
  rw [if_neg]
  · rfl
  · simp only [hlength, Bool.or_eq_true, decide_eq_true_eq]
    omega

theorem datagram?_of_not_complete (h : transport? packet = some transport)
    (hpartial : ¬ transport.Complete) : datagram? packet = none := by
  have hlength : wordAt transport.octets 4 = transport.declaredLength := rfl
  rw [datagram?, h]
  change (if _ then _ else _) = _
  rw [if_pos]
  simp only [hlength, Bool.or_eq_true, decide_eq_true_eq]
  by_contra hfits
  exact hpartial ⟨by omega, by omega⟩

theorem complete_of_datagram? {payload : Bytes} {flow : Flow}
    (h : datagram? packet = some (flow, payload)) :
    ∃ transport, transport? packet = some transport ∧ transport.Complete ∧
      transport.flow = flow ∧ transport.payload = payload := by
  cases htransport : transport? packet with
  | none =>
    rw [datagram?_of_transport_none htransport] at h
    cases h
  | some transport =>
    by_cases hcomplete : transport.Complete
    · rw [datagram?_of_complete htransport hcomplete] at h
      cases h
      exact ⟨transport, rfl, hcomplete, rfl, rfl⟩
    · rw [datagram?_of_not_complete htransport hcomplete] at h
      cases h

/-- A cut transport has the datagram of the whole one when it holds as much as that declares. -/
theorem datagram?_of_cut {part : Bytes} {n : Nat} (hcut : transport? part = some (transport.cut n))
    (h : transport? packet = some transport) :
    datagram? part = if transport.declaredLength ≤ n then datagram? packet else none := by
  by_cases hcomplete : transport.Complete
  · by_cases hlength : transport.declaredLength ≤ n
    · have hheader := hcomplete.header.trans hlength
      have hwhole := Transport.complete_cut_iff.2 ⟨hcomplete, hlength⟩
      rw [if_pos hlength, datagram?_of_complete h hcomplete, datagram?_of_complete hcut hwhole,
        Transport.flow_cut hheader, Transport.payload_cut hheader hlength]
    · have hpartial : ¬ (transport.cut n).Complete :=
        fun hwhole => hlength (Transport.complete_cut_iff.1 hwhole).2
      rw [if_neg hlength, datagram?_of_not_complete hcut hpartial]
  · have hpartial : ¬ (transport.cut n).Complete :=
      fun hwhole => hcomplete (Transport.complete_cut_iff.1 hwhole).1
    rw [datagram?_of_not_complete hcut hpartial, datagram?_of_not_complete h hcomplete, ite_self]

end OfTransport

/-- What follows an IPv4 header starts behind its options, and behind twenty octets at least. -/
def ipv4TransportStart (packet : Bytes) : Nat :=
  ipv4HeaderSize + ((octetAt packet 0).toNat % 16 * 4 - ipv4HeaderSize)

def headerSize (packet : Bytes) : Nat :=
  if (octetAt packet 0).toNat / 16 = 4 then ipv4HeaderSize else ipv6HeaderSize

def transportStart (packet : Bytes) : Nat :=
  if (octetAt packet 0).toNat / 16 = 4 then ipv4TransportStart packet else ipv6HeaderSize

theorem headerSize_le_transportStart (packet : Bytes) :
    headerSize packet ≤ transportStart packet := by
  rw [headerSize, transportStart]
  split
  · exact Nat.le_add_right _ _
  · exact Nat.le_refl _

theorem transport?_eq (packet : Bytes) :
    transport? packet =
      if (octetAt packet 0).toNat / 16 = 4 then ipv4Transport? packet
      else if (octetAt packet 0).toNat / 16 = 6 then ipv6Transport? packet
      else none := by
  cases packet <;> rfl

theorem length_take_lt_iff {packet : Bytes} {size k : Nat} (h : size ≤ k) :
    (packet.take k).length < size ↔ packet.length < size := by
  rw [List.length_take]
  omega

theorem ipv4Transport?_take {packet : Bytes} {k : Nat} (h : ipv4HeaderSize ≤ k) :
    ipv4Transport? (packet.take k) =
      (ipv4Transport? packet).map (Transport.cut (k - ipv4TransportStart packet)) := by
  have h20 : 20 ≤ k := h
  have hfirst : octetAt (packet.take k) 0 = octetAt packet 0 := octetAt_take (by omega)
  have hprotocol : octetAt (packet.take k) 9 = octetAt packet 9 := octetAt_take (by omega)
  have htotal : wordAt (packet.take k) 2 = wordAt packet 2 := wordAt_take (by omega)
  have hsource : ipv4At (packet.take k) 12 = ipv4At packet 12 := ipv4At_take (by omega)
  have hdestination : ipv4At (packet.take k) 16 = ipv4At packet 16 := ipv4At_take (by omega)
  simp only [ipv4Transport?, length_take_lt_iff h, hfirst, hprotocol, htotal, hsource,
    hdestination, slice_take]
  split
  · rfl
  · split
    · rfl
    · rfl

theorem ipv6Transport?_take {packet : Bytes} {k : Nat} (h : ipv6HeaderSize ≤ k) :
    ipv6Transport? (packet.take k) =
      (ipv6Transport? packet).map (Transport.cut (k - ipv6HeaderSize)) := by
  have h40 : 40 ≤ k := h
  have hprotocol : octetAt (packet.take k) 6 = octetAt packet 6 := octetAt_take (by omega)
  have hdeclared : wordAt (packet.take k) 4 = wordAt packet 4 := wordAt_take (by omega)
  have hsource : ipv6At (packet.take k) 8 = ipv6At packet 8 := ipv6At_take (by omega)
  have hdestination : ipv6At (packet.take k) 24 = ipv6At packet 24 := ipv6At_take (by omega)
  simp only [ipv6Transport?, length_take_lt_iff h, hprotocol, hdeclared, hsource, hdestination,
    slice_take]
  split
  · rfl
  · split
    · rfl
    · rfl

theorem transport?_take {packet : Bytes} {k : Nat} (h : headerSize packet ≤ k) :
    transport? (packet.take k) =
      (transport? packet).map (Transport.cut (k - transportStart packet)) := by
  have hpositive : 0 < k := by
    have hsize : 0 < headerSize packet := by rw [headerSize]; split <;> decide
    exact Nat.lt_of_lt_of_le hsize h
  rw [transport?_eq, transport?_eq, octetAt_take hpositive]
  by_cases h4 : (octetAt packet 0).toNat / 16 = 4
  · rw [headerSize, if_pos h4] at h
    rw [transportStart, if_pos h4, if_pos h4, if_pos h4]
    exact ipv4Transport?_take h
  · rw [headerSize, if_neg h4] at h
    rw [transportStart, if_neg h4, if_neg h4, if_neg h4]
    split
    · exact ipv6Transport?_take h
    · rfl

theorem transport?_take_of_lt {packet : Bytes} {k : Nat} (h : k < headerSize packet) :
    transport? (packet.take k) = none := by
  have hlength : (packet.take k).length < headerSize packet :=
    Nat.lt_of_le_of_lt (List.length_take_le k packet) h
  rcases Nat.eq_zero_or_pos k with rfl | hpositive
  · rfl
  · rw [transport?_eq, octetAt_take hpositive]
    by_cases h4 : (octetAt packet 0).toNat / 16 = 4
    · rw [headerSize, if_pos h4] at hlength
      rw [if_pos h4]
      exact if_pos hlength
    · rw [headerSize, if_neg h4] at hlength
      rw [if_neg h4]
      split
      · exact if_pos hlength
      · rfl

/-- How much the IP header declares behind itself. An IPv4 header that declares less than twenty
octets for itself starts its transport later than that. -/
def transportSize (packet : Bytes) : Nat :=
  if (octetAt packet 0).toNat / 16 = 4 then
    wordAt packet 2 - (octetAt packet 0).toNat % 16 * 4
  else wordAt packet 4

/-- A transport is a slice of the packet. -/
theorem octets_of_transport? {packet : Bytes} {transport : Transport}
    (h : transport? packet = some transport) :
    transport.octets = (packet.drop (transportStart packet)).take (transportSize packet) := by
  rw [transport?_eq] at h
  by_cases h4 : (octetAt packet 0).toNat / 16 = 4
  · rw [if_pos h4, ipv4Transport?] at h
    rw [transportStart, if_pos h4, transportSize, if_pos h4]
    split at h
    · cases h
    · split at h
      · cases h
      · cases h
        rfl
  · rw [if_neg h4] at h
    rw [transportStart, if_neg h4, transportSize, if_neg h4]
    split at h
    · rw [ipv6Transport?] at h
      split at h
      · cases h
      · split at h
        · cases h
        · cases h
          rfl
    · cases h

def payloadStart (packet : Bytes) : Nat := transportStart packet + udpHeaderSize

def payloadEnd (packet : Bytes) : Nat :=
  transportStart packet + wordAt packet (transportStart packet + 4)

/-- The payload is the octets of the packet between two offsets. -/
structure Spans (packet payload : Bytes) (start stop : Nat) : Prop where
  size : start + payload.length = stop
  present : stop ≤ packet.length
  octets : (packet.take stop).drop start = payload

section Ends

variable {packet : Bytes} {transport : Transport}

theorem Transport.length_octets (h : transport? packet = some transport) :
    transport.octets.length =
      min (transportSize packet) (packet.length - transportStart packet) := by
  rw [octets_of_transport? h, List.length_take, List.length_drop]

theorem Transport.declaredLength_eq (h : transport? packet = some transport)
    (hsize : udpHeaderSize ≤ transportSize packet) :
    transport.declaredLength = wordAt packet (transportStart packet + 4) := by
  have h8 : 8 ≤ transportSize packet := hsize
  rw [declaredLength, octets_of_transport? h, wordAt_take (by omega), wordAt_drop]

theorem Transport.Complete.declaredLength_le_transportSize (h : transport? packet = some transport)
    (hcomplete : transport.Complete) : transport.declaredLength ≤ transportSize packet := by
  have hpresent := hcomplete.present
  rw [Transport.length_octets h] at hpresent
  exact hpresent.trans (Nat.min_le_left _ _)

theorem payloadEnd_eq (h : transport? packet = some transport) (hcomplete : transport.Complete) :
    payloadEnd packet = transportStart packet + transport.declaredLength := by
  have hsize := hcomplete.header.trans (hcomplete.declaredLength_le_transportSize h)
  rw [payloadEnd, Transport.declaredLength_eq h hsize]

theorem Transport.Complete.spans (h : transport? packet = some transport)
    (hcomplete : transport.Complete) :
    Spans packet transport.payload (payloadStart packet) (payloadEnd packet) := by
  have hoctets := octets_of_transport? h
  have hheader : 8 ≤ transport.declaredLength := hcomplete.header
  have hpresent := hcomplete.present
  have hsize := hcomplete.declaredLength_le_transportSize h
  have hlength := Transport.length_octets h
  have hpayload : transport.payload.length = transport.declaredLength - udpHeaderSize := by
    rw [Transport.payload, List.length_drop, List.length_take, Nat.min_eq_left hpresent]
  rw [payloadEnd_eq h hcomplete]
  refine ⟨?_, by omega, ?_⟩
  · rw [hpayload, payloadStart, udpHeaderSize]
    omega
  · have hfits : min transport.declaredLength (transportSize packet) = transport.declaredLength :=
      Nat.min_eq_left hsize
    rw [Transport.payload, hoctets, List.take_take, hfits, payloadStart, ← List.drop_drop,
      List.drop_take, Nat.add_sub_cancel_left]

end Ends

/-- A cut behind the end of the payload changes nothing, and a cut before it leaves no datagram. -/
theorem datagram?_take (packet : Bytes) (k : Nat) :
    datagram? (packet.take k) = if payloadEnd packet ≤ k then datagram? packet else none := by
  rcases Nat.lt_or_ge k (headerSize packet) with hk | hk
  · have hend : ¬ payloadEnd packet ≤ k := by
      have hstart := headerSize_le_transportStart packet
      rw [payloadEnd]
      omega
    rw [if_neg hend, datagram?_of_transport_none (transport?_take_of_lt hk)]
  · have hcut := transport?_take hk
    cases htransport : transport? packet with
    | none =>
      rw [htransport] at hcut
      rw [datagram?_of_transport_none hcut, datagram?_of_transport_none htransport, ite_self]
    | some transport =>
      rw [htransport] at hcut
      rw [datagram?_of_cut hcut htransport]
      by_cases hcomplete : transport.Complete
      · have hheader : 8 ≤ transport.declaredLength := hcomplete.header
        have hend : payloadEnd packet ≤ k ↔
            transport.declaredLength ≤ k - transportStart packet := by
          rw [payloadEnd_eq htransport hcomplete]
          omega
        simp only [hend]
      · rw [datagram?_of_not_complete htransport hcomplete, ite_self, ite_self]

/-- The payload of a packet ends where its headers say. The first octets of the packet have the
same datagram when they reach there, and have none when they do not. -/
theorem datagram?_wholeOrNone {packet payload : Bytes} {flow : Flow}
    (h : datagram? packet = some (flow, payload)) :
    Spans packet payload (payloadStart packet) (payloadEnd packet) ∧
      ∀ k, datagram? (packet.take k) =
        if payloadEnd packet ≤ k then some (flow, payload) else none := by
  obtain ⟨transport, htransport, hcomplete, -, rfl⟩ := complete_of_datagram? h
  refine ⟨hcomplete.spans htransport, ?_⟩
  intro k
  rw [datagram?_take, h]

/-- Two octets of payload between a header with an option and an octet that belongs to nothing. -/
def optionPacket : Bytes :=
  [0x46, 0, 0, 34, 0, 0, 0, 0, 64, 17, 0, 0, 10, 10, 10, 10, 9, 9, 9, 9, 1, 1, 1, 0, 0x9c, 0x40, 0,
    53, 0, 10, 0, 0, 7, 8, 255]

theorem datagram?_wholeOrNone_optionPacket :
    datagram? optionPacket = some (emptyDatagramFlow, [7, 8]) ∧
      Spans optionPacket [7, 8] 32 34 ∧
      datagram? (optionPacket.take 34) = some (emptyDatagramFlow, [7, 8]) ∧
      datagram? (optionPacket.take 33) = none := by
  have hread : datagram? optionPacket = some (emptyDatagramFlow, [7, 8]) := by cbv
  have hstart : payloadStart optionPacket = 32 := by decide
  have hend : payloadEnd optionPacket = 34 := by decide
  obtain ⟨hspans, hcut⟩ := datagram?_wholeOrNone hread
  rw [hend] at hspans hcut
  rw [hstart] at hspans
  exact ⟨hread, hspans, hcut 34, hcut 33⟩

end Sinkhole.Packet

namespace Sinkhole

/-- A packet that was cut asks for what the whole packet asks for, or is dropped. -/
theorem TunnelRequest.ofPacket_take (servers : ServerMap) (packet : Bytes) (k : Nat) :
    ofPacket servers (packet.take k) =
      if Packet.payloadEnd packet ≤ k then ofPacket servers packet else .drop .notDatagram := by
  by_cases hend : Packet.payloadEnd packet ≤ k
  · rw [if_pos hend, ofPacket, Packet.datagram?_take, if_pos hend, ofPacket]
  · rw [if_neg hend, ofPacket, Packet.datagram?_take, if_neg hend]

end Sinkhole
