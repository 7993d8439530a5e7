import Sinkhole.Tunnel.Platform

/-! # Finding the DNS servers

The active network's servers are used when it is no VPN and has any; otherwise those of the first
network with servers that is no VPN. When the active network is a VPN, which may be this tunnel
itself, only a network with the transport below it is considered, cellular before Wi-Fi.
-/
namespace Sinkhole

/-- The servers of the first network that is no VPN, has servers and satisfies the condition. -/
def firstServers (accepts : Network → Bool) (networks : List Network) : List IpAddress :=
  match networks.find? fun n => !n.isVpn && accepts n && !n.dnsServers.isEmpty with
  | some network => network.dnsServers
  | none => []

/-- The transport below an active VPN. -/
def transportBelow? (active : Network) : Option Transport :=
  [Transport.cellular, .wifi].find? active.has

def discoverServers (networks : List Network) : List IpAddress :=
  match networks.find? (·.active) with
  | none => firstServers (fun _ => true) networks
  | some active =>
    if active.isVpn then
      match transportBelow? active with
      | none => []
      | some transport => firstServers (·.has transport) networks
    else if active.dnsServers.isEmpty then firstServers (fun _ => true) networks
    else active.dnsServers

end Sinkhole
