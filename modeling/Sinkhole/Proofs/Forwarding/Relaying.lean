import Sinkhole.Proofs.Forwarding.Draining
import Sinkhole.Proofs.Session.Run

/-! # How much of an answer is relayed

The packet for a datagram carries what was read of it, back along the flow of the query. No more is
read than fits the scratch octets, so a datagram is relayed whole exactly when it fits them; of a
longer one the first octets are relayed, and nothing tells the client that the rest is missing.
-/
namespace Sinkhole

variable {κ : Type}

/-- Any packet that a drain adds for the query when it reads the datagram carries all of it. -/
def RelaysWhole (query : PendingQuery Flow) (octets : Bytes) : Prop :=
  ∀ read packet, read query.socket = .datagram octets → Tracker.DrainsTo read query packet →
    ∃ flow, Packet.datagram? packet = some (flow, octets)

theorem maxResponseSize_le_maxPayload (flow : Flow) : maxResponseSize ≤ flow.maxPayload := by
  rw [Flow.maxPayload]
  split <;> decide

theorem drainsTo_of_response {read : Nat → SocketRead} {query : PendingQuery Flow}
    {octets packet : Bytes} (hread : read query.socket = .datagram octets)
    (hpacket : Packet.response (octets.take maxResponseSize) query.reply = .ok packet) :
    Tracker.DrainsTo read query packet := by
  have hfor : Tracker.packetFor? query octets = some packet :=
    congrArg Except.toOption hpacket
  exact Tracker.drainsTo_iff.2 (Tracker.answer?_eq_some_iff.2 ⟨octets, hread, hfor⟩)

theorem length_take_le_maxPayload (octets : Bytes) (flow : Flow) :
    (octets.take maxResponseSize).length ≤ flow.maxPayload :=
  Nat.le_trans (List.length_take_le _ _) (maxResponseSize_le_maxPayload flow)

theorem exists_drainsTo (read : Nat → SocketRead) {query : PendingQuery Flow} {octets : Bytes}
    (hreply : query.reply.OneFamily) (hread : read query.socket = .datagram octets) :
    ∃ packet, Tracker.DrainsTo read query packet ∧
      Packet.datagram? packet =
        some (query.reply.reversed, octets.take maxResponseSize) := by
  obtain ⟨packet, hpacket, hextracts⟩ :=
    Packet.response_ok (octets.take maxResponseSize) hreply
  exact ⟨packet, drainsTo_of_response hread hpacket,
    hextracts (length_take_le_maxPayload octets query.reply)⟩

theorem Tracker.DrainsTo.unique {read : Nat → SocketRead} {query : PendingQuery Flow}
    {packet other : Bytes} (h : Tracker.DrainsTo read query packet)
    (hother : Tracker.DrainsTo read query other) : packet = other :=
  Option.some.inj ((Tracker.drainsTo_iff.1 h).symm.trans (Tracker.drainsTo_iff.1 hother))

theorem relaysWhole_iff_of_oneFamily {query : PendingQuery Flow} {octets : Bytes}
    (hreply : query.reply.OneFamily) :
    RelaysWhole query octets ↔ octets.length ≤ maxResponseSize := by
  constructor
  · intro hwhole
    -- Some host does read the datagram, so there is a packet, and it carries what was read.
    obtain ⟨packet, hdrains, hextracts⟩ :=
      exists_drainsTo (fun _ => .datagram octets) hreply rfl
    obtain ⟨flow, hcarries⟩ := hwhole _ packet rfl hdrains
    have hsame := Prod.mk.inj (Option.some.inj (hextracts.symm.trans hcarries))
    rw [← List.take_eq_self_iff]
    exact hsame.2
  · intro hfits read packet hread hdrains
    obtain ⟨other, hother, hextracts⟩ := exists_drainsTo read hreply hread
    rw [List.take_of_length_le hfits] at hextracts
    rw [hdrains.unique hother]
    exact ⟨_, hextracts⟩

/-- Handling a packet over UDP opened a socket and tracks its request as this query. -/
structure TrackedAs (classify : Classifier κ) (path : UdpPath) (now : Nat) (octets : Bytes)
    (session : SessionState Flow) (classifier : κ) (query : PendingQuery Flow) : Prop where
  opened : (handlePacket classify (Forwarder.resolve path now) octets session classifier
    .udp).session.socketsOpened = session.socketsOpened + 1
  last : (handlePacket classify (Forwarder.resolve path now) octets session classifier
    .udp).session.pending.queries.getLast? = some query

theorem TrackedAs.oneFamily {classify : Classifier κ} {path : UdpPath} {now : Nat} {octets : Bytes}
    {session : SessionState Flow} {classifier : κ} {query : PendingQuery Flow}
    (h : TrackedAs classify path now octets session classifier query) :
    query.reply.OneFamily := by
  have hcase := SessionRun.handlePacket_packetCase classify path now octets session classifier .udp
  have hopened := h.opened
  have hlast := h.last
  generalize (handlePacket classify (Forwarder.resolve path now) octets session classifier
    .udp).session = after at hcase hopened hlast
  cases hcase with
  | unchanged => exact absurd hopened (Nat.ne_of_lt (Nat.lt_succ_self _))
  | answered _ _ _ _ => exact absurd hopened (Nat.ne_of_lt (Nat.lt_succ_self _))
  | tracked hask =>
    have hquery := Option.some.inj (List.getLast?_concat.symm.trans hlast)
    rw [← hquery]
    exact hask.oneFamily
  | started _ => exact absurd hopened (Nat.ne_of_lt (Nat.lt_succ_self _))

/-- Of a datagram on the socket of a forwarded query as much is relayed as is read of it, so that it
is relayed whole exactly when it is no longer than that. -/
theorem relaysWhole_iff {classify : Classifier κ} {path : UdpPath} {now : Nat} {packet : Bytes}
    {session : SessionState Flow} {classifier : κ} {query : PendingQuery Flow}
    (h : TrackedAs classify path now packet session classifier query) (octets : Bytes) :
    (∀ read, read query.socket = .datagram octets →
        ∃ answer, Tracker.DrainsTo read query answer ∧
          Packet.datagram? answer = some (query.reply.reversed, octets.take maxResponseSize)) ∧
      (RelaysWhole query octets ↔ octets.length ≤ maxResponseSize) :=
  ⟨fun read => exists_drainsTo read h.oneFamily, relaysWhole_iff_of_oneFamily h.oneFamily⟩

def alwaysSent : UdpPath := fun _ _ => .sent

def mixedCaseQuery : PendingQuery Flow := ⟨0, mixedCaseFlow, 0⟩

theorem mixedCase_trackedAs :
    TrackedAs allowAll alwaysSent 0 mixedCasePacket (.new oneServer 1) () mixedCaseQuery := by
  have hdns : TunnelRequest.ofPacket oneServer mixedCasePacket =
      .dns ⟨mixedCaseFlow, ⟨.v4 (Vector.replicate 4 9), 53⟩, mixedCasePayload, mixedCaseMessage,
        "ab.example.com"⟩ :=
    TunnelRequest.ofPacket_eq_dns_iff.2 mixedCase_asksAbout
  have hhandled := handlePacket_dns allowAll (Forwarder.resolve alwaysSent 0) (.new oneServer 1) ()
    .udp hdns
  constructor
  · rw [hhandled]
    rfl
  · rw [hhandled]
    rfl

theorem relaysWhole_iff_mixedCase :
    TrackedAs allowAll alwaysSent 0 mixedCasePacket (.new oneServer 1) () mixedCaseQuery ∧
      (∀ read, read 0 = .datagram (List.replicate 1500 7) →
        ∃ answer, Tracker.DrainsTo read mixedCaseQuery answer ∧
          Packet.datagram? answer = some (mixedCaseFlow.reversed,
            (List.replicate 1500 7).take maxResponseSize)) ∧
      (RelaysWhole mixedCaseQuery (List.replicate 1500 7) ↔
        (List.replicate 1500 (7 : UInt8)).length ≤ maxResponseSize) :=
  ⟨mixedCase_trackedAs, relaysWhole_iff mixedCase_trackedAs (List.replicate 1500 7)⟩

/-- One octet more than what is read is cut off. -/
theorem not_relaysWhole_long :
    TrackedAs allowAll alwaysSent 0 mixedCasePacket (.new oneServer 1) () mixedCaseQuery ∧
      ¬ RelaysWhole mixedCaseQuery (List.replicate 1025 0) := by
  refine ⟨mixedCase_trackedAs, ?_⟩
  rw [relaysWhole_iff_of_oneFamily mixedCase_trackedAs.oneFamily, List.length_replicate]
  decide

end Sinkhole
