import Sinkhole.Dns.LocalAnswer
import Sinkhole.Packet.Datagram
import Sinkhole.Tunnel.ServerMap

/-! # Requests in tunnel packets

What a packet asks for, before anyone is asked about it. Packets that are no DNS requests to a
synthetic server are dropped; an empty datagram only keeps the path to its server open.
-/
namespace Sinkhole

inductive DropReason where
  | notDatagram
  | noServer
  | malformed
  | noQuestion
deriving DecidableEq, Repr

def DropReason.text : DropReason → String
  | notDatagram => "not a UDP datagram"
  | noServer => "no server behind destination"
  | malformed => "malformed DNS message"
  | noQuestion => "no question"

structure DnsRequest where
  flow : Flow
  server : Endpoint
  payload : Bytes
  message : Dns.Message
  host : String
deriving DecidableEq, Repr

inductive TunnelRequest where
  | drop (reason : DropReason)
  | keepAlive (server : Endpoint)
  | dns (request : DnsRequest)
deriving DecidableEq, Repr

def TunnelRequest.ofPacket (servers : ServerMap) (packet : Bytes) : TunnelRequest :=
  match Packet.datagram? packet with
  | none => .drop .notDatagram
  | some (flow, payload) =>
    match servers.reverseLookup flow.destination with
    | none => .drop .noServer
    | some address =>
      let server : Endpoint := ⟨address, flow.destinationPort⟩
      if payload.isEmpty then .keepAlive server
      else
        match Dns.Message.decode payload with
        | .error _ => .drop .malformed
        | .ok message =>
          match message.host? with
          | none => .drop .noQuestion
          | some host => .dns ⟨flow, server, payload, message, host⟩

end Sinkhole
