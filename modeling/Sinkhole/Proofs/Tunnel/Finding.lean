import Sinkhole.Proofs.Places
import Sinkhole.Tunnel.Discovery

/-! # Servers from outside the tunnel

Which servers are found is said here by places in the list of networks alone. They are always those
of one network that is no VPN, so that a tunnel is never given its own address to forward to. Outside
a VPN none are found only where there are none; under a VPN only the transport below it counts.
-/
namespace Sinkhole

namespace Network

/-- A network that queries can be forwarded to: it is no VPN and has servers. -/
def Serves (network : Network) : Prop := network.isVpn = false ∧ network.dnsServers ≠ []

/-- The transport below a VPN: cellular if it reports that, and otherwise Wi-Fi if it reports
that. -/
def IsOver (vpn : Network) : Transport → Prop
  | .cellular => vpn.has .cellular = true
  | .wifi => vpn.has .cellular = false ∧ vpn.has .wifi = true
  | .ethernet | .vpn | .other => False

end Network

theorem transportBelow?_eq_some_iff {vpn : Network} {transport : Transport} :
    transportBelow? vpn = some transport ↔ vpn.IsOver transport := by
  rw [transportBelow?, List.find?_cons, List.find?_cons, List.find?_nil]
  cases hcellular : vpn.has .cellular <;> cases hwifi : vpn.has .wifi <;> cases transport <;>
    simp [Network.IsOver, hcellular, hwifi]

theorem firstServers_cases (accepts : Network → Bool) (networks : List Network) :
    (∃ network, IsFirst (fun other => other.Serves ∧ accepts other = true) networks network ∧
        firstServers accepts networks = network.dnsServers) ∨
      (∀ network ∈ networks, ¬ (network.Serves ∧ accepts network = true)) ∧
        firstServers accepts networks = [] := by
  have haccepts : ∀ network : Network,
      (!network.isVpn && accepts network && !network.dnsServers.isEmpty) = true ↔
        network.Serves ∧ accepts network = true := by
    intro network
    simp only [Bool.and_eq_true, Bool.not_eq_true', Network.Serves, List.isEmpty_eq_false_iff]
    tauto
  rw [firstServers]
  split
  · rename_i network hfound
    exact .inl ⟨network, (find?_eq_some_iff_isFirst haccepts).1 hfound, rfl⟩
  · rename_i hnone
    exact .inr ⟨(find?_eq_none_iff_forall haccepts).1 hnone, rfl⟩

theorem outside_firstServers (accepts : Network → Bool) (networks : List Network) :
    firstServers accepts networks = [] ∨
      ∃ network ∈ networks,
        network.Serves ∧ firstServers accepts networks = network.dnsServers := by
  obtain ⟨network, hfirst, hservers⟩ | ⟨-, hservers⟩ := firstServers_cases accepts networks
  · exact .inr ⟨network, hfirst.mem, hfirst.holds.1, hservers⟩
  · exact .inl hservers

theorem firstServers_eq_nil_iff (accepts : Network → Bool) (networks : List Network) :
    firstServers accepts networks = [] ↔
      ∀ network ∈ networks, ¬ (network.Serves ∧ accepts network = true) := by
  obtain ⟨network, hfirst, hservers⟩ | ⟨hnone, hservers⟩ := firstServers_cases accepts networks
  · rw [hservers]
    exact iff_of_false hfirst.holds.1.2 fun hnone => hnone network hfirst.mem hfirst.holds
  · exact iff_of_true hservers hnone

theorem firstServers_of_isFirst {accepts : Network → Bool} {networks : List Network}
    {network : Network}
    (h : IsFirst (fun other => other.Serves ∧ accepts other = true) networks network) :
    firstServers accepts networks = network.dnsServers := by
  obtain ⟨found, hfirst, hservers⟩ | ⟨hnone, -⟩ := firstServers_cases accepts networks
  · rw [hservers, hfirst.unique h]
  · exact absurd h.holds (hnone network h.mem)

theorem exhausted_firstServers {networks : List Network}
    (h : firstServers (fun _ => true) networks = []) {network : Network}
    (hnetwork : network ∈ networks) (hvpn : network.isVpn = false) : network.dnsServers = [] := by
  by_contra hservers
  exact (firstServers_eq_nil_iff _ _).1 h network hnetwork ⟨⟨hvpn, hservers⟩, rfl⟩

/-- What a search comes to. -/
inductive Discovered (networks : List Network) : List IpAddress → Prop where
  /-- The active network is no VPN and has servers. -/
  | own {active : Network} (hactive : IsFirst (·.active = true) networks active)
      (hserves : active.Serves) : Discovered networks active.dnsServers
  /-- The active network, if there is one, is no VPN but has none. -/
  | elsewhere (hactive : ∀ active, IsFirst (·.active = true) networks active →
      active.isVpn = false ∧ active.dnsServers = []) :
      Discovered networks (firstServers (fun _ => true) networks)
  | below {active : Network} {transport : Transport}
      (hactive : IsFirst (·.active = true) networks active) (hvpn : active.isVpn = true)
      (hover : active.IsOver transport) :
      Discovered networks (firstServers (·.has transport) networks)
  | nothingBelow {active : Network} (hactive : IsFirst (·.active = true) networks active)
      (hvpn : active.isVpn = true) (hover : ∀ transport, ¬ active.IsOver transport) :
      Discovered networks []

theorem discoverServers_cases (networks : List Network) :
    Discovered networks (discoverServers networks) := by
  rw [discoverServers]
  cases hfound : networks.find? (·.active) with
  | none =>
    rw [find?_eq_none_iff_forall fun _ => Iff.rfl] at hfound
    exact .elsewhere fun active hactive => absurd hactive.holds (hfound active hactive.mem)
  | some active =>
    have hactive : IsFirst (·.active = true) networks active :=
      (find?_eq_some_iff_isFirst fun _ => Iff.rfl).1 hfound
    dsimp only
    by_cases hvpn : active.isVpn = true
    · rw [if_pos hvpn]
      cases htransport : transportBelow? active with
      | none =>
        refine .nothingBelow hactive hvpn fun transport hover => ?_
        rw [transportBelow?_eq_some_iff.2 hover] at htransport
        cases htransport
      | some transport =>
        exact .below hactive hvpn (transportBelow?_eq_some_iff.1 htransport)
    · rw [if_neg hvpn]
      rw [Bool.not_eq_true] at hvpn
      by_cases hempty : active.dnsServers = []
      · rw [hempty, List.isEmpty_nil, if_pos rfl]
        refine .elsewhere fun other hother => ?_
        rw [hother.unique hactive]
        exact ⟨hvpn, hempty⟩
      · rw [if_neg (by rwa [List.isEmpty_iff])]
        exact .own hactive ⟨hvpn, hempty⟩

/-- Servers that are found as they should be. -/
structure WellFound (networks : List Network) (servers : List IpAddress) : Prop where
  /-- They are those of one network that is no VPN, if there are any. -/
  outside : servers = [] ∨ ∃ network ∈ networks, network.Serves ∧ servers = network.dnsServers
  /-- Where no VPN is active, there are none only if no network could give any. -/
  exhausted : (∀ active, IsFirst (·.active = true) networks active → active.isVpn = false) →
    servers = [] → ∀ network ∈ networks, network.isVpn = false → network.dnsServers = []
  /-- An active network that is no VPN gives its own. -/
  own : ∀ active, IsFirst (·.active = true) networks active → active.isVpn = false →
    active.dnsServers ≠ [] → servers = active.dnsServers
  /-- Under a VPN they come from the first network that could give any over its transport. -/
  below : ∀ active, IsFirst (·.active = true) networks active → active.isVpn = true →
    ∀ transport, active.IsOver transport → ∀ network,
      IsFirst (fun other => other.Serves ∧ other.has transport = true) networks network →
        servers = network.dnsServers
  /-- Under a VPN there are none only if there is no such transport or no such network. -/
  nothingBelow : ∀ active, IsFirst (·.active = true) networks active → active.isVpn = true →
    (servers = [] ↔ ∀ transport, active.IsOver transport →
      ∀ network ∈ networks, ¬ (network.Serves ∧ network.has transport = true))

theorem Network.IsOver.unique {vpn : Network} {transport found : Transport}
    (h : vpn.IsOver transport) (hfound : vpn.IsOver found) : found = transport := by
  rw [← transportBelow?_eq_some_iff] at h hfound
  exact Option.some.inj (hfound.symm.trans h)

section Active

variable {networks : List Network} {servers : List IpAddress} {active : Network}

theorem WellFound.ofNoVpn
    (hvpn : ∀ active, IsFirst (·.active = true) networks active → active.isVpn = false)
    (houtside : servers = [] ∨
      ∃ network ∈ networks, network.Serves ∧ servers = network.dnsServers)
    (hexhausted : servers = [] →
      ∀ network ∈ networks, network.isVpn = false → network.dnsServers = [])
    (hown : ∀ active, IsFirst (·.active = true) networks active → active.dnsServers ≠ [] →
      servers = active.dnsServers) : WellFound networks servers where
  outside := houtside
  exhausted _ := hexhausted
  own active hactive _ := hown active hactive
  below active hactive htrue := by
    rw [hvpn active hactive] at htrue
    cases htrue
  nothingBelow active hactive htrue := by
    rw [hvpn active hactive] at htrue
    cases htrue

theorem WellFound.underVpn (hactive : IsFirst (·.active = true) networks active)
    (hvpn : active.isVpn = true)
    (houtside : servers = [] ∨
      ∃ network ∈ networks, network.Serves ∧ servers = network.dnsServers)
    (hbelow : ∀ transport, active.IsOver transport → ∀ network,
      IsFirst (fun other => other.Serves ∧ other.has transport = true) networks network →
        servers = network.dnsServers)
    (hnothing : servers = [] ↔ ∀ transport, active.IsOver transport →
      ∀ network ∈ networks, ¬ (network.Serves ∧ network.has transport = true)) :
    WellFound networks servers where
  outside := houtside
  exhausted hall := by
    rw [hall active hactive] at hvpn
    cases hvpn
  own other hother hfalse := by
    rw [hother.unique hactive, hvpn] at hfalse
    cases hfalse
  below other hother _ := by
    rw [hother.unique hactive]
    exact hbelow
  nothingBelow other hother _ := by
    rw [hother.unique hactive]
    exact hnothing

end Active

/-- Whatever networks there are, the servers are found as they should be. -/
theorem discoverServers_wellFound (networks : List Network) :
    WellFound networks (discoverServers networks) := by
  have hcases := discoverServers_cases networks
  generalize discoverServers networks = servers at hcases ⊢
  cases hcases with
  | @own active hactive hserves =>
    refine .ofNoVpn ?_ (.inr ⟨active, hactive.mem, hserves, rfl⟩)
      (fun hnone => absurd hnone hserves.2) ?_
    · intro other hother
      rw [hother.unique hactive]
      exact hserves.1
    · intro other hother _
      rw [hother.unique hactive]
  | elsewhere hactive =>
    refine .ofNoVpn (fun active hfirst => (hactive active hfirst).1) (outside_firstServers _ _)
      (fun hnone _ => exhausted_firstServers hnone) ?_
    intro active hfirst hservers
    exact absurd (hactive active hfirst).2 hservers
  | @below active transport hactive hvpn hover =>
    refine .underVpn hactive hvpn (outside_firstServers _ _) ?_ ?_
    · intro found hfound network hfirst
      rw [hover.unique hfound] at hfirst
      exact firstServers_of_isFirst hfirst
    · rw [firstServers_eq_nil_iff]
      constructor
      · intro hnone found hfound
        rw [hover.unique hfound]
        exact hnone
      · exact fun hnone => hnone transport hover
  | nothingBelow hactive hvpn hover =>
    exact .underVpn hactive hvpn (.inl rfl)
      (fun transport hbelow => absurd hbelow (hover transport))
      (iff_of_true rfl fun transport hbelow => absurd hbelow (hover transport))

example : discoverServers [⟨true, [.vpn, .wifi, .cellular], [.v4 #v[192, 0, 2, 2]]⟩,
    ⟨false, [.wifi], [.v4 #v[192, 168, 1, 1]]⟩, ⟨false, [.cellular], [.v4 #v[10, 0, 0, 1]]⟩] =
      [.v4 #v[10, 0, 0, 1]] := by
  decide

end Sinkhole
