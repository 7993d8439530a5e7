import Sinkhole.Address

/-! # The host

What the engine is told about its host: the networks it knows and the applications installed.
-/
namespace Sinkhole

inductive Transport where
  | wifi
  | cellular
  | ethernet
  | vpn
  | other
deriving DecidableEq, Repr

/-- A network known to the host. The active one is its default. -/
structure Network where
  active : Bool
  transports : List Transport
  dnsServers : List IpAddress
deriving DecidableEq, Repr

namespace Network

def has (network : Network) (transport : Transport) : Bool :=
  network.transports.contains transport

def isVpn (network : Network) : Bool := network.has .vpn

end Network

structure Application where
  package : String
  system : Bool
deriving DecidableEq, Repr

end Sinkhole
