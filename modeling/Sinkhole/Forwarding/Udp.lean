import Sinkhole.Forwarding.Query

/-! # Forwarding over UDP

A query goes as it is to the real server, from a socket of its own. Only a failure that means that
the network is gone is an error; any other gives the query up.
-/
namespace Sinkhole

inductive SendOutcome where
  | noSocket (cause : IoError)
  | failed (cause : IoError)
  | sent
deriving DecidableEq, Repr

/-- How the host's network takes datagrams. -/
abbrev UdpPath := Endpoint → Bytes → SendOutcome

namespace UdpPath

/-- The length that no datagram reaches. -/
def datagramLimit : Nat := 65536

def maxIpv4Payload : Nat := 65507

/-- How a host without any route takes a datagram over IPv4. The unspecified address stands for
the host itself and needs no route, so what fits a datagram is sent there, and nobody gets it. -/
def offlineIpv4 (address : Bytes) (port : UInt16) (length : Nat) : SendOutcome :=
  if datagramLimit ≤ length then .failed .messageTooLong
  else if port = 0 then .failed .invalidArgument
  else if address.any (· != 0) then .failed .networkUnreachable
  else if maxIpv4Payload < length then .failed .messageTooLong
  else .sent

/-- A host without any route and without any IPv6 address to send from. -/
def offline : UdpPath := fun server payload =>
  match server.address.ipv4Octets? with
  | some octets => offlineIpv4 octets server.port payload.length
  | none => .failed (if server.port = 0 then .invalidArgument else .addressNotAvailable)

def withoutSockets : UdpPath := fun _ _ => .noSocket .noDescriptors

end UdpPath

/-- Sends an empty datagram from a socket that is closed at once. -/
def sendProbe (path : UdpPath) (target : Endpoint) : Option IoError :=
  match path target [] with
  | .noSocket cause => some cause
  | .failed cause => some cause
  | .sent => none

/-- Forwards a query. Without a reply nobody waits for the answer, and the query is done. -/
def forwardUdp {ρ : Type} (path : UdpPath) (now : Nat) : Resolver Unit ρ :=
  fun query session state =>
    match path query.server query.payload with
    | .noSocket _ => ⟨.ok .dropped, session, [], state⟩
    | .failed cause =>
      if cause.losesPath then ⟨.error (.network (.unreachable cause)), session, [], state⟩
      else ⟨.ok .dropped, session, [], state⟩
    | .sent =>
      match query.reply with
      | none => ⟨.ok .dropped, session, [], state⟩
      | some reply =>
        let (session, counters) := session.track now reply
        ⟨.ok .pending, session, counters, state⟩

end Sinkhole
