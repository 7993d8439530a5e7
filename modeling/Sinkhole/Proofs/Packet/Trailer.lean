import Sinkhole.Proofs.Packet.Truncation

/-! # Octets behind a packet

The IP header declares where its packet ends; what follows in the buffer belongs to no packet. A
datagram of IPv6 never reaches there, and one of IPv4 does not as long as the header declares the
twenty octets that it has. A header that declares fewer is taken to be shorter where the length of
the transport is computed, and not where the transport starts, so the transport may run past the
packet by as many octets as the header leaves out. Main statement: what is behind the packet is
read exactly when a datagram makes use of these octets.
-/
namespace Sinkhole.Packet

/-- The length of the whole packet, as its IP header declares it. -/
def declaredLength? (packet : Bytes) : Option Nat :=
  if (octetAt packet 0).toNat / 16 = 4 then some (wordAt packet 2)
  else if (octetAt packet 0).toNat / 16 = 6 then some (ipv6HeaderSize + wordAt packet 4)
  else none

/-- A packet reads the same without what is behind its declared length, and the payload of its
datagram ends there at the latest. -/
structure IgnoresTrailer (packet : Bytes) : Prop where
  cut : ∀ length ∈ declaredLength? packet, length ≤ packet.length →
    datagram? packet = datagram? (packet.take length)
  within : ∀ length ∈ declaredLength? packet, ∀ flow payload,
    datagram? packet = some (flow, payload) →
      Spans packet payload (payloadStart packet) (payloadEnd packet) ∧ payloadEnd packet ≤ length

def plainUdpLength (packet : Bytes) : Nat := wordAt packet (ipv4HeaderSize + 4)

/-- An IPv4 header declares less than twenty octets for itself, and the datagram behind it ends
behind the packet, but not behind what is there of the transport. -/
structure Overruns (packet : Bytes) : Prop where
  version : (octetAt packet 0).toNat / 16 = 4
  shortHeader : (octetAt packet 0).toNat % 16 * 4 < ipv4HeaderSize
  protocol : octetAt packet 9 = udpProtocol
  header : udpHeaderSize ≤ plainUdpLength packet
  declared : plainUdpLength packet ≤ wordAt packet 2 - (octetAt packet 0).toNat % 16 * 4
  present : ipv4HeaderSize + plainUdpLength packet ≤ packet.length
  overrun : wordAt packet 2 < ipv4HeaderSize + plainUdpLength packet

variable {packet : Bytes} {transport : Transport} {length : Nat}

/-- Whether a packet ignores its trailer is a question of where its payload ends. -/
theorem ignoresTrailer_iff_le :
    IgnoresTrailer packet ↔ ∀ length ∈ declaredLength? packet, ∀ transport,
      transport? packet = some transport → transport.Complete → payloadEnd packet ≤ length := by
  constructor
  · intro hignores length hlength transport htransport hcomplete
    exact (hignores.within length hlength _ _ (datagram?_of_complete htransport hcomplete)).2
  · intro hle
    refine ⟨?_, ?_⟩
    · intro length hlength _
      rw [datagram?_take]
      split
      · rfl
      · rename_i hend
        cases htransport : transport? packet with
        | none => exact datagram?_of_transport_none htransport
        | some transport =>
          refine datagram?_of_not_complete htransport fun hcomplete => ?_
          exact hend (hle length hlength transport htransport hcomplete)
    · intro length hlength flow payload hdatagram
      obtain ⟨transport, htransport, hcomplete, -, rfl⟩ := complete_of_datagram? hdatagram
      exact ⟨hcomplete.spans htransport, hle length hlength transport htransport hcomplete⟩

theorem payloadEnd_le_or_shortHeader (hlength : length ∈ declaredLength? packet)
    (htransport : transport? packet = some transport) (hcomplete : transport.Complete) :
    payloadEnd packet ≤ length ∨
      (octetAt packet 0).toNat / 16 = 4 ∧ (octetAt packet 0).toNat % 16 * 4 < ipv4HeaderSize := by
  have hheader : 8 ≤ transport.declaredLength := hcomplete.header
  have hsize := hcomplete.declaredLength_le_transportSize htransport
  rw [payloadEnd_eq htransport hcomplete]
  rw [declaredLength?] at hlength
  by_cases h4 : (octetAt packet 0).toNat / 16 = 4
  · rw [if_pos h4, Option.mem_some_iff] at hlength
    rw [transportSize, if_pos h4] at hsize
    rw [transportStart, if_pos h4, ipv4TransportStart]
    omega
  · rw [if_neg h4] at hlength
    rw [transportSize, if_neg h4] at hsize
    rw [transportStart, if_neg h4]
    split at hlength
    · rw [Option.mem_some_iff] at hlength
      omega
    · cases hlength

section ShortHeader

variable (h4 : (octetAt packet 0).toNat / 16 = 4)
  (hshort : (octetAt packet 0).toNat % 16 * 4 < ipv4HeaderSize)

include h4 hshort

theorem transportStart_of_shortHeader : transportStart packet = ipv4HeaderSize := by
  rw [transportStart, if_pos h4, ipv4TransportStart, Nat.sub_eq_zero_of_le (Nat.le_of_lt hshort),
    Nat.add_zero]

theorem payloadEnd_of_shortHeader : payloadEnd packet = ipv4HeaderSize + plainUdpLength packet := by
  rw [payloadEnd, transportStart_of_shortHeader h4 hshort, plainUdpLength]

omit hshort in
theorem transport?_isSome_iff_of_v4 :
    (∃ transport, transport? packet = some transport) ↔
      ipv4HeaderSize ≤ packet.length ∧ octetAt packet 9 = udpProtocol := by
  rw [transport?_eq, if_pos h4, ipv4Transport?]
  split
  · rename_i hlength
    simp [Nat.not_le.2 hlength]
  · rename_i hlength
    split
    · rename_i hprotocol
      simp_all
    · rename_i hprotocol
      simp_all

/-- The datagram behind a header that is too short is complete when it fits into what the header
leaves for it and into what is there. -/
theorem complete_iff_of_shortHeader (htransport : transport? packet = some transport) :
    transport.Complete ↔
      udpHeaderSize ≤ plainUdpLength packet ∧ plainUdpLength packet ≤ transportSize packet ∧
        ipv4HeaderSize + plainUdpLength packet ≤ packet.length := by
  have hstart := transportStart_of_shortHeader h4 hshort
  have hend := payloadEnd_of_shortHeader h4 hshort
  constructor
  · intro hcomplete
    have hlength := payloadEnd_eq htransport hcomplete
    have hspans := hcomplete.spans htransport
    have hsize := hcomplete.declaredLength_le_transportSize htransport
    have hheader := hcomplete.header
    have hpresent := hspans.present
    rw [hstart] at hlength
    omega
  · rintro ⟨hheader, hsize, hpresent⟩
    have hdeclared := Transport.declaredLength_eq htransport (hheader.trans hsize)
    rw [hstart] at hdeclared
    have hlength := Transport.length_octets htransport
    rw [hstart] at hlength
    refine ⟨?_, ?_⟩
    · rw [hdeclared]
      exact hheader
    · rw [hdeclared, hlength]
      exact Nat.le_min.2 ⟨hsize, Nat.le_sub_of_add_le' hpresent⟩

end ShortHeader

theorem overruns_iff :
    Overruns packet ↔ ∃ length ∈ declaredLength? packet, ∃ transport,
      transport? packet = some transport ∧ transport.Complete ∧ length < payloadEnd packet := by
  constructor
  · rintro ⟨h4, hshort, hprotocol, hheader, hdeclared, hpresent, hoverrun⟩
    obtain ⟨transport, htransport⟩ :=
      (transport?_isSome_iff_of_v4 h4).2 ⟨Nat.le_of_add_right_le hpresent, hprotocol⟩
    have hsize : plainUdpLength packet ≤ transportSize packet := by
      rw [transportSize, if_pos h4]
      exact hdeclared
    refine ⟨wordAt packet 2, ?_, transport, htransport, ?_, ?_⟩
    · rw [declaredLength?, if_pos h4]
      rfl
    · exact (complete_iff_of_shortHeader h4 hshort htransport).2 ⟨hheader, hsize, hpresent⟩
    · rw [payloadEnd_of_shortHeader h4 hshort]
      exact hoverrun
  · rintro ⟨length, hlength, transport, htransport, hcomplete, hend⟩
    rcases payloadEnd_le_or_shortHeader hlength htransport hcomplete with hle | ⟨h4, hshort⟩
    · omega
    · obtain ⟨-, hprotocol⟩ := (transport?_isSome_iff_of_v4 h4).1 ⟨transport, htransport⟩
      obtain ⟨hheader, hsize, hpresent⟩ :=
        (complete_iff_of_shortHeader h4 hshort htransport).1 hcomplete
      rw [transportSize, if_pos h4] at hsize
      rw [payloadEnd_of_shortHeader h4 hshort] at hend
      rw [declaredLength?, if_pos h4, Option.mem_some_iff] at hlength
      rw [← hlength] at hend
      exact ⟨h4, hshort, hprotocol, hheader, hsize, hpresent, hend⟩

/-- What is behind a packet is not read exactly when no datagram overruns it. -/
theorem ignoresTrailer_iff (packet : Bytes) : IgnoresTrailer packet ↔ ¬ Overruns packet := by
  rw [ignoresTrailer_iff_le, overruns_iff]
  constructor
  · rintro hle ⟨length, hlength, transport, htransport, hcomplete, hend⟩
    exact Nat.not_le.2 hend (hle length hlength transport htransport hcomplete)
  · intro hnone length hlength transport htransport hcomplete
    by_contra hend
    exact hnone ⟨length, hlength, transport, htransport, hcomplete, Nat.not_le.1 hend⟩

/-- A header that declares no octets for itself, before a datagram with two octets of payload that
are not part of the packet. -/
def headerlessPacket : Bytes :=
  [0x40, 0, 0, 28, 0, 0, 0, 0, 64, 17, 0, 0, 10, 10, 10, 10, 9, 9, 9, 9, 0x9c, 0x40, 0, 53, 0, 10,
    0, 0, 7, 8]

theorem not_ignoresTrailer_headerlessPacket : ¬ IgnoresTrailer headerlessPacket := by
  intro hignores
  have hcut : datagram? headerlessPacket = datagram? (headerlessPacket.take 28) :=
    hignores.cut 28 (by decide) (by decide)
  have hwhole : datagram? headerlessPacket = some (emptyDatagramFlow, [7, 8]) := by cbv
  have hpart : datagram? (headerlessPacket.take 28) = none := by cbv
  rw [hwhole, hpart] at hcut
  cases hcut

end Sinkhole.Packet
