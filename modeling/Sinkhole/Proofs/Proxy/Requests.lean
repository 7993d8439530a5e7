import Sinkhole.Proxy.Handling
import Sinkhole.Proofs.Packet.RoundTrip

/-! # What packets ask for

A packet is a keep-alive or a request exactly under the conditions below, which say it in terms of
the datagram, the synthetic address and the message. Everything else is dropped.
-/
namespace Sinkhole

/-- An empty datagram to a synthetic address keeps the path to the server behind it open. -/
def KeepsAlive (servers : ServerMap) (packet : Bytes) (server : Endpoint) : Prop :=
  ∃ flow, Packet.datagram? packet = some (flow, []) ∧
    servers.reverseLookup flow.destination = some server.address ∧
    server.port = flow.destinationPort

/-- A datagram to a synthetic address asks about a host when it holds a message whose first
question has that host. -/
structure AsksAbout (servers : ServerMap) (packet : Bytes) (flow : Flow) (server : Endpoint)
    (payload : Bytes) (message : Dns.Message) (host : String) : Prop where
  datagram : Packet.datagram? packet = some (flow, payload)
  mapped : servers.reverseLookup flow.destination = some server.address
  port : server.port = flow.destinationPort
  decoded : Dns.Message.decode payload = .ok message
  asked : ∃ question, message.questions.head? = some question ∧ question.name.host = host

def oneServer : ServerMap :=
  ⟨ipv4Candidates.head (by decide), none, [.v4 (Vector.replicate 4 9)], [], none⟩

def mixedCasePayload : Bytes :=
  [0, 7, 1, 0, 0, 1, 0, 0, 0, 0, 0, 0, 2, 65, 66, 7, 101, 120, 97, 109, 112, 108, 101, 3, 99, 111,
    109, 0, 0, 1, 0, 1]

def mixedCasePacket : Bytes :=
  [0x45, 0, 0, 60, 0, 0, 0, 0, 64, 17, 0, 0, 10, 111, 222, 1, 192, 0, 2, 2, 0x9c, 0x40, 0, 53,
    0, 40, 0, 0] ++ mixedCasePayload

def mixedCaseFlow : Flow := ⟨.v4 #v[10, 111, 222, 1], .v4 #v[192, 0, 2, 2], 40000, 53⟩

def mixedCaseName : Dns.Name :=
  ⟨[[65, 66], [101, 120, 97, 109, 112, 108, 101], [99, 111, 109]]⟩

def mixedCaseMessage : Dns.Message :=
  ⟨⟨7, false, 0, false, false, true, false, false, false, 0⟩, [⟨mixedCaseName, 1, 1⟩], [], [], [],
    none⟩

theorem mixedCase_asksAbout :
    AsksAbout oneServer mixedCasePacket mixedCaseFlow ⟨.v4 (Vector.replicate 4 9), 53⟩
      mixedCasePayload mixedCaseMessage "ab.example.com" where
  datagram := by cbv
  mapped := by cbv
  port := rfl
  decoded := by cbv
  asked := ⟨_, rfl, by cbv⟩

theorem mixedCase_blockedAnswer : ∃ answer, ∀ session : SessionState Flow,
    answerLocally mixedCaseFlow mixedCaseMessage.blockedResponse session =
      session.queue answer := by
  have hbuilds : (mixedCaseMessage.blockedResponse.encode.toOption.bind fun octets =>
      (Packet.response octets mixedCaseFlow).toOption).isSome = true := by
    decide +kernel
  cases hencode : mixedCaseMessage.blockedResponse.encode with
  | error cause => simp [hencode, Except.toOption] at hbuilds
  | ok octets =>
    cases hpacket : Packet.response octets mixedCaseFlow with
    | error cause => simp [hencode, hpacket, Except.toOption] at hbuilds
    | ok answer =>
      refine ⟨answer, fun session => ?_⟩
      simp only [answerLocally, hencode, queueAnswer, hpacket]

theorem decode_nil : Dns.Message.decode [] = .error .endOfMessage := rfl

theorem AsksAbout.payload_ne_nil {servers : ServerMap} {packet payload : Bytes} {flow : Flow}
    {server : Endpoint} {message : Dns.Message} {host : String}
    (h : AsksAbout servers packet flow server payload message host) : payload ≠ [] := by
  rintro rfl
  have hdecoded := h.decoded
  rw [decode_nil] at hdecoded
  cases hdecoded

theorem AsksAbout.oneFamily {servers : ServerMap} {packet payload : Bytes} {flow : Flow}
    {server : Endpoint} {message : Dns.Message} {host : String}
    (h : AsksAbout servers packet flow server payload message host) : flow.OneFamily :=
  Packet.datagram?_oneFamily h.datagram

namespace TunnelRequest

theorem host?_eq_some_iff {message : Dns.Message} {host : String} :
    message.host? = some host ↔
      ∃ question, message.questions.head? = some question ∧ question.name.host = host :=
  Option.map_eq_some_iff

theorem ofPacket_eq_keepAlive_iff {servers : ServerMap} {packet : Bytes} {server : Endpoint} :
    ofPacket servers packet = .keepAlive server ↔ KeepsAlive servers packet server := by
  constructor
  · intro h
    simp only [ofPacket] at h
    split at h
    · cases h
    · rename_i flow payload hdatagram
      split at h
      · cases h
      · rename_i address haddress
        split at h
        · rename_i hempty
          cases h
          obtain rfl := List.isEmpty_iff.1 hempty
          exact ⟨flow, hdatagram, haddress, rfl⟩
        · split at h
          · cases h
          · split at h <;> cases h
  · rintro ⟨flow, hdatagram, haddress, hport⟩
    rcases server with ⟨address, port⟩
    obtain rfl : port = flow.destinationPort := hport
    simp only [ofPacket, hdatagram, haddress]
    rfl

theorem ofPacket_eq_dns_iff {servers : ServerMap} {packet : Bytes} {request : DnsRequest} :
    ofPacket servers packet = .dns request ↔
      AsksAbout servers packet request.flow request.server request.payload request.message
        request.host := by
  constructor
  · intro h
    simp only [ofPacket] at h
    split at h
    · cases h
    · rename_i flow payload hdatagram
      split at h
      · cases h
      · rename_i address haddress
        split at h
        · cases h
        · split at h
          · cases h
          · rename_i message hmessage
            split at h
            · cases h
            · rename_i host hhost
              cases h
              exact ⟨hdatagram, haddress, rfl, hmessage, host?_eq_some_iff.1 hhost⟩
  · intro h
    rcases request with ⟨flow, ⟨address, port⟩, payload, message, host⟩
    obtain rfl : port = flow.destinationPort := h.port
    have hmapped : servers.reverseLookup flow.destination = some address := h.mapped
    have hpayload : payload.isEmpty = false :=
      List.isEmpty_eq_false_iff.2 h.payload_ne_nil
    have hhost : message.host? = some host := host?_eq_some_iff.2 h.asked
    simp only [ofPacket, h.datagram, hmapped, h.decoded, hhost]
    rw [if_neg (by rw [hpayload]; exact Bool.false_ne_true)]

end TunnelRequest

theorem KeepsAlive.not_asksAbout {servers : ServerMap} {packet : Bytes} {server server' : Endpoint}
    {flow : Flow} {payload : Bytes} {message : Dns.Message} {host : String}
    (h : KeepsAlive servers packet server) :
    ¬ AsksAbout servers packet flow server' payload message host := by
  intro hask
  obtain ⟨flow', hdatagram, -⟩ := h
  have hsame := hdatagram.symm.trans hask.datagram
  cases hsame
  exact hask.payload_ne_nil rfl

theorem KeepsAlive.unique {servers : ServerMap} {packet : Bytes} {server server' : Endpoint}
    (h : KeepsAlive servers packet server) (h' : KeepsAlive servers packet server') :
    server = server' := by
  have hsame := (TunnelRequest.ofPacket_eq_keepAlive_iff.2 h).symm.trans
    (TunnelRequest.ofPacket_eq_keepAlive_iff.2 h')
  cases hsame
  rfl

theorem AsksAbout.request_unique {servers : ServerMap} {packet : Bytes}
    {request request' : DnsRequest}
    (h : AsksAbout servers packet request.flow request.server request.payload request.message
      request.host)
    (h' : AsksAbout servers packet request'.flow request'.server request'.payload request'.message
      request'.host) : request = request' := by
  have hsame := (TunnelRequest.ofPacket_eq_dns_iff.2 h).symm.trans
    (TunnelRequest.ofPacket_eq_dns_iff.2 h')
  cases hsame
  rfl

theorem AsksAbout.host_unique {servers : ServerMap} {packet payload payload' : Bytes}
    {flow flow' : Flow} {server server' : Endpoint} {message message' : Dns.Message}
    {host host' : String} (h : AsksAbout servers packet flow server payload message host)
    (h' : AsksAbout servers packet flow' server' payload' message' host') : host = host' := by
  have hfirst : TunnelRequest.ofPacket servers packet =
      .dns ⟨flow, server, payload, message, host⟩ := TunnelRequest.ofPacket_eq_dns_iff.2 h
  have hsecond : TunnelRequest.ofPacket servers packet =
      .dns ⟨flow', server', payload', message', host'⟩ := TunnelRequest.ofPacket_eq_dns_iff.2 h'
  have hsame := hfirst.symm.trans hsecond
  cases hsame
  rfl

theorem AsksAbout.mem_singleton_iff {servers : ServerMap} {packet payload : Bytes} {flow : Flow}
    {server : Endpoint} {message : Dns.Message} {host other : String}
    (h : AsksAbout servers packet flow server payload message host) :
    other ∈ [host] ↔
      ∃ flow server payload message,
        AsksAbout servers packet flow server payload message other := by
  rw [List.mem_singleton]
  constructor
  · rintro rfl
    exact ⟨_, _, _, _, h⟩
  · rintro ⟨flow, server, payload, message, hother⟩
    exact hother.host_unique h

end Sinkhole
