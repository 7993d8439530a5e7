import Sinkhole.Forwarding.Https

/-! # Forwarding

Queries leave over UDP or over HTTPS, as the settings say. There are at most as many requests
over HTTPS at a time as there are queries pending over UDP.
-/
namespace Sinkhole

inductive Forwarder where
  | udp
  | https (resolver : HttpsResolver)
deriving Repr

namespace Forwarder

def ofSettings (settings : ForwardingSettings) : Except Error Forwarder :=
  match settings.mode with
  | .udp => .ok .udp
  | .doh => (HttpsResolver.new settings maxPending).map .https

variable {ρ : Type}

def resolve (path : UdpPath) (now : Nat) : Resolver Forwarder ρ :=
  fun query session forwarder =>
    match forwarder with
    | .udp =>
      let resolved := forwardUdp path now query session ()
      ⟨resolved.result, resolved.session, resolved.counters, .udp⟩
    | .https resolver =>
      let resolved := resolver.resolve path now query session
      ⟨resolved.result, resolved.session, resolved.counters, .https resolved.state⟩

def onHttps (forwarder : Forwarder) (session : SessionState ρ)
    (change : HttpsResolver → SessionState ρ → Option (HttpsResolver × SessionState ρ)) :
    Option (Forwarder × SessionState ρ) :=
  match forwarder with
  | .udp => none
  | .https resolver => (change resolver session).map fun (resolver, session) =>
      (.https resolver, session)

def sessionEnded (forwarder : Forwarder) (session : SessionState ρ) : Forwarder :=
  match forwarder with
  | .udp => .udp
  | .https resolver => .https (resolver.sessionEnded session).1

end Forwarder

end Sinkhole
