import Sinkhole.Tunnel.Builder

/-! # Synthetic server addresses

The tunnel advertises DNS servers whose addresses are made up from documentation blocks. Every
real server gets the next free address in the block of its family, from host 2 on; host 1 is the
interface itself. What is sent to a synthetic address is meant for the server behind it.
-/
namespace Sinkhole

def ipv4Candidates : List Subnet :=
  [⟨.v4 #v[192, 0, 2, 0], 24⟩, ⟨.v4 #v[198, 51, 100, 0], 24⟩, ⟨.v4 #v[203, 0, 113, 0], 24⟩]

def ipv6Block : Subnet :=
  ⟨.v6 #v[0x20, 0x01, 0x0d, 0xb8, 0, 0, 0, 0, 0, 0, 0, 0, 0, 0, 0, 0], 120⟩

/-- Servers of one family: their last octets run from 2 to 255. -/
def maxServersPerFamily : Nat := 254

/-- The server that counts as default when none could be mapped. -/
def fallbackServer : IpAddress := .v4 (Vector.replicate 4 1)

structure ServerMap where
  ipv4Subnet : Subnet
  ipv6Subnet : Option Subnet
  ipv4Servers : List IpAddress
  ipv6Servers : List IpAddress
  /-- The last mapped server and its synthetic address. -/
  last : Option (IpAddress × IpAddress)
deriving DecidableEq, Repr

namespace ServerMap

def subnetFor (map : ServerMap) (address : IpAddress) : Option Subnet :=
  if address.isV6 then map.ipv6Subnet else some map.ipv4Subnet

def serversFor (map : ServerMap) (address : IpAddress) : List IpAddress :=
  if address.isV6 then map.ipv6Servers else map.ipv4Servers

def syntheticHost (subnet : Subnet) (index : Nat) : IpAddress :=
  subnet.host (UInt8.ofNat (index + 2))

/-- The address that the next server of the family would get. -/
def nextSynthetic? (map : ServerMap) (server : IpAddress) : Option IpAddress :=
  let count := (map.serversFor server).length
  if maxServersPerFamily ≤ count then none
  else (map.subnetFor server).map fun subnet => syntheticHost subnet count

def insert (map : ServerMap) (server synthetic : IpAddress) : ServerMap :=
  if server.isV6 then
    { map with ipv6Servers := map.ipv6Servers ++ [server], last := some (server, synthetic) }
  else
    { map with ipv4Servers := map.ipv4Servers ++ [server], last := some (server, synthetic) }

/-- Claims the first candidate whose interface address is accepted. -/
def claimIpv4 (builder : Builder) : List Subnet → BuilderTrace → Option Subnet × BuilderTrace
  | [], trace => (none, trace)
  | subnet :: rest, trace =>
    match builder.attempt trace (.address (subnet.host 1) subnet.prefixBits) with
    | (none, trace) => (some subnet, trace)
    | (some _, trace) => claimIpv4 builder rest trace

/-- Claims the IPv6 block; refusal only leaves IPv6 out. -/
def claimIpv6 (builder : Builder) (trace : BuilderTrace) : Option Subnet × BuilderTrace :=
  match builder.attempt trace (.address (ipv6Block.host 1) ipv6Block.prefixBits) with
  | (none, trace) => (some ipv6Block, trace)
  | (some _, trace) => (none, trace)

/-- Maps servers in their order. One without a place is skipped; a refused call ends it all. -/
def addServers (builder : Builder) : List IpAddress → ServerMap → BuilderTrace →
    Except Error ServerMap × BuilderTrace
  | [], map, trace => (.ok map, trace)
  | server :: rest, map, trace =>
    match map.nextSynthetic? server with
    | none => addServers builder rest map trace
    | some synthetic =>
      match builder.attempt trace (.dnsServer synthetic) with
      | (some cause, trace) => (.error (.io cause), trace)
      | (none, trace) =>
        match builder.attempt trace (.route synthetic server.hostPrefix) with
        | (some cause, trace) => (.error (.io cause), trace)
        | (none, trace) => addServers builder rest (map.insert server synthetic) trace

/-- Whether an IPv6 block is wanted: for IPv6 servers, when enabled or for a single server. -/
def wantsIpv6 (servers : List IpAddress) (ipv6Enabled : Bool) : Bool :=
  servers.any (·.isV6) && (ipv6Enabled || servers.length == 1)

def configure (builder : Builder) (servers : List IpAddress) (ipv6Enabled : Bool) :
    Except Error ServerMap × BuilderTrace :=
  match claimIpv4 builder ipv4Candidates [] with
  | (none, trace) => (.error (.config .noIpv4Subnet), trace)
  | (some ipv4Subnet, trace) =>
    let (ipv6Subnet, trace) :=
      if wantsIpv6 servers ipv6Enabled then claimIpv6 builder trace else (none, trace)
    addServers builder servers ⟨ipv4Subnet, ipv6Subnet, [], [], none⟩ trace

/-- The real server behind a synthetic address. -/
def reverseLookup (map : ServerMap) (synthetic : IpAddress) : Option IpAddress :=
  match map.subnetFor synthetic with
  | none => none
  | some subnet =>
    let last := synthetic.lastOctet.toNat
    if subnet.contains synthetic && 2 ≤ last then (map.serversFor synthetic)[last - 2]? else none

def syntheticsOf (subnet : Subnet) (servers : List IpAddress) : List IpAddress :=
  (List.range servers.length).map (syntheticHost subnet)

def syntheticServers (map : ServerMap) : List IpAddress :=
  syntheticsOf map.ipv4Subnet map.ipv4Servers ++
    match map.ipv6Subnet with
    | some subnet => syntheticsOf subnet map.ipv6Servers
    | none => []

/-- The server that the watchdog guards. -/
def defaultServer (map : ServerMap) : IpAddress :=
  match map.last with
  | some (real, _) => real
  | none => fallbackServer

/-- Where the watchdog's probes go: through the tunnel to the default server, or straight to the
fallback server. -/
def probeTarget (map : ServerMap) : IpAddress :=
  match map.last with
  | some (_, synthetic) => synthetic
  | none => fallbackServer

end ServerMap

end Sinkhole
