import Sinkhole.Address.Parser
import Sinkhole.Rules.HostRules
import Sinkhole.Tunnel.Exclusion

/-! # Settings

Everything that can be set, with its default.
-/
namespace Sinkhole

inductive ForwardingMode where
  | udp
  | doh
deriving DecidableEq, Repr

def defaultBootstrap : List IpAddress := [.v4 #v[1, 1, 1, 1], .v4 #v[1, 0, 0, 1]]

structure ForwardingSettings where
  mode : ForwardingMode := .udp
  url : String := "https://cloudflare-dns.com/dns-query"
  /-- The addresses at which the endpoint is reached without DNS. -/
  bootstrap : List IpAddress := defaultBootstrap
  timeoutSeconds : Nat := 10
deriving DecidableEq, Repr

def defaultMetricsListen : SocketAddress := ⟨⟨.v4 #v[127, 0, 0, 1], 9090⟩, 0⟩

structure MetricsSettings where
  enabled : Bool := false
  listen : SocketAddress := defaultMetricsListen
deriving DecidableEq, Repr

structure Settings where
  ipv6Enabled : Bool := false
  watchdogEnabled : Bool := false
  excludedApps : List String := []
  excludedSystemApps : SystemAppExclusion := .none
  bufferPoolSize : Nat := 64
  completionCapacity : Nat := 256
  cacheCapacity : Nat := 4096
  forwarding : ForwardingSettings := {}
  /-- The redirects are in the order of their hosts. -/
  rules : RuleLists := {}
  metrics : MetricsSettings := {}
deriving DecidableEq, Repr

end Sinkhole
