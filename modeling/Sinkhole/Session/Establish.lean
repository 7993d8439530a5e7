import Sinkhole.Config.Settings
import Sinkhole.Tunnel.Discovery
import Sinkhole.Forwarding.Query

/-! # Establishing a session

A session is built from scratch on every connection: the servers are found and mapped, the
applications excluded and the tunnel brought up. An application that cannot be excluded stays in
the tunnel.
-/
namespace Sinkhole

/-- What the host is and does when a tunnel is established. -/
structure Platform where
  networks : List Network
  installed : List Application
  browsers : List String
  ownPackage : String
  builder : Builder

/-- Excludes packages one after another, whatever becomes of each. -/
def disallowAll (builder : Builder) (packages : List String) (trace : BuilderTrace) :
    BuilderTrace :=
  packages.foldl (fun trace package => (builder.attempt trace (.disallow package)).2) trace

def Settings.excludedOn (settings : Settings) (platform : Platform) : List String :=
  excludedPackages settings.excludedSystemApps settings.excludedApps platform.installed
    platform.browsers platform.ownPackage

/-- Configures and brings up a tunnel. The trace has every call made on the way. -/
def establish {ρ : Type} (platform : Platform) (settings : Settings) :
    Except Error (SessionState ρ) × BuilderTrace :=
  let servers := discoverServers platform.networks
  match ServerMap.configure platform.builder servers settings.ipv6Enabled with
  | (.error error, trace) => (.error error, trace)
  | (.ok servers, trace) =>
    let trace := disallowAll platform.builder (settings.excludedOn platform) trace
    match platform.builder.attempt trace .establish with
    | (some cause, trace) => (.error (.io cause), trace)
    | (none, trace) => (.ok (.new servers settings.completionCapacity), trace)

end Sinkhole
