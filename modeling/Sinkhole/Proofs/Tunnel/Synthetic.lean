import Mathlib
import Sinkhole.Tunnel.ServerMap

/-! # Synthetic addresses and their servers

A subnet's hosts are told apart by their last octet, so a family's synthetic addresses are as many
as its servers, and each one leads back to the server at its place. Nothing else is looked up.
-/
namespace Sinkhole

theorem toList_take_eq_iff {α : Type} {n : Nat} (a b : Vector α (n + 1)) :
    a.toList.take n = b.toList.take n ↔ b = a.set n b[n] := by
  constructor
  · intro h
    ext i hi
    rcases Nat.lt_succ_iff_lt_or_eq.1 hi with hlt | rfl
    · have hplace := congrArg (·[i]?) h
      simpa [List.getElem?_take, hlt, Nat.ne_of_gt hlt] using hplace.symm
    · rw [Vector.getElem_set_self]
  · intro h
    rw [h]
    apply List.ext_getElem?
    intro i
    rw [List.getElem?_take, List.getElem?_take]
    split
    · rename_i hlt
      simp [Nat.ne_of_gt hlt]
    · rfl

namespace IpAddress

theorem sameNetwork_iff (a b : IpAddress) :
    a.sameNetwork b = true ↔ b = a.withLastOctet b.lastOctet := by
  rcases a with a | a <;> rcases b with b | b
  · simpa [sameNetwork, withLastOctet, lastOctet] using toList_take_eq_iff a b
  · simp [sameNetwork, withLastOctet]
  · simp [sameNetwork, withLastOctet]
  · simpa [sameNetwork, withLastOctet, lastOctet] using toList_take_eq_iff a b

@[simp] theorem lastOctet_withLastOctet (last : UInt8) (address : IpAddress) :
    (address.withLastOctet last).lastOctet = last := by
  cases address <;> simp [withLastOctet, lastOctet]

@[simp] theorem isV6_withLastOctet (last : UInt8) (address : IpAddress) :
    (address.withLastOctet last).isV6 = address.isV6 := by
  cases address <;> rfl

end IpAddress

namespace Subnet

variable (subnet : Subnet)

@[simp] theorem lastOctet_host (last : UInt8) : (subnet.host last).lastOctet = last :=
  IpAddress.lastOctet_withLastOctet last subnet.base

@[simp] theorem isV6_host (last : UInt8) : (subnet.host last).isV6 = subnet.base.isV6 :=
  IpAddress.isV6_withLastOctet last subnet.base

theorem contains_iff (address : IpAddress) :
    subnet.contains address = true ↔ address = subnet.host address.lastOctet :=
  IpAddress.sameNetwork_iff subnet.base address

@[simp] theorem contains_host (last : UInt8) : subnet.contains (subnet.host last) = true := by
  rw [contains_iff, lastOctet_host]

end Subnet

namespace ServerMap

def serversOf (map : ServerMap) (v6 : Bool) : List IpAddress :=
  if v6 then map.ipv6Servers else map.ipv4Servers

def subnetOf (map : ServerMap) (v6 : Bool) : Option Subnet :=
  if v6 then map.ipv6Subnet else some map.ipv4Subnet

/-- The claimed subnets, IPv4 first. -/
def subnets (map : ServerMap) : List Subnet :=
  map.ipv4Subnet :: map.ipv6Subnet.toList

def syntheticsIn (map : ServerMap) (v6 : Bool) : List IpAddress :=
  match map.subnetOf v6 with
  | some subnet => syntheticsOf subnet (map.serversOf v6)
  | none => []

theorem syntheticServers_eq (map : ServerMap) :
    map.syntheticServers = map.syntheticsIn false ++ map.syntheticsIn true := rfl

/-- Each subnet is of its family, and no family has more servers than octets for them. -/
structure WellFormed (map : ServerMap) : Prop where
  family : ∀ v6 subnet, map.subnetOf v6 = some subnet → subnet.base.isV6 = v6
  bounded : ∀ v6, (map.serversOf v6).length ≤ maxServersPerFamily

theorem toNat_hostOctet {index : Nat} (h : index < maxServersPerFamily) :
    (UInt8.ofNat (index + 2)).toNat = index + 2 := by
  rw [maxServersPerFamily] at h
  rw [UInt8.toNat_ofNat']
  omega

theorem lastOctet_syntheticHost (subnet : Subnet) {index : Nat} (h : index < maxServersPerFamily) :
    (syntheticHost subnet index).lastOctet.toNat = index + 2 := by
  rw [syntheticHost, Subnet.lastOctet_host, toNat_hostOctet h]

theorem isV6_syntheticHost (subnet : Subnet) (index : Nat) :
    (syntheticHost subnet index).isV6 = subnet.base.isV6 :=
  subnet.isV6_host _

/-- Hosts 0 and 1 of a subnet are never given to a server. -/
theorem syntheticHost_ne_host (subnet other : Subnet) {index : Nat} {last : UInt8}
    (h : index < maxServersPerFamily) (hlast : last.toNat < 2) :
    syntheticHost subnet index ≠ other.host last := by
  intro hsame
  have hoctet := lastOctet_syntheticHost subnet h
  rw [hsame, Subnet.lastOctet_host] at hoctet
  omega

theorem mem_syntheticsOf_iff {subnet : Subnet} {servers : List IpAddress} {address : IpAddress} :
    address ∈ syntheticsOf subnet servers ↔
      ∃ index < servers.length, syntheticHost subnet index = address := by
  simp only [syntheticsOf, List.mem_map, List.mem_range]

theorem nodup_syntheticsOf {subnet : Subnet} {servers : List IpAddress}
    (h : servers.length ≤ maxServersPerFamily) : (syntheticsOf subnet servers).Nodup := by
  apply List.Nodup.map_on ?_ List.nodup_range
  intro index hindex other hother hsame
  rw [List.mem_range] at hindex hother
  have hfirst := lastOctet_syntheticHost subnet (Nat.lt_of_lt_of_le hindex h)
  have hsecond := lastOctet_syntheticHost subnet (Nat.lt_of_lt_of_le hother h)
  rw [hsame] at hfirst
  omega

section Lookup

variable {map : ServerMap} {v6 : Bool} {subnet : Subnet} {address : IpAddress}

theorem reverseLookup_syntheticHost (h : map.WellFormed) (hsubnet : map.subnetOf v6 = some subnet)
    {index : Nat} (hindex : index < maxServersPerFamily) :
    map.reverseLookup (syntheticHost subnet index) = (map.serversOf v6)[index]? := by
  have hfamily : (syntheticHost subnet index).isV6 = v6 := by
    rw [isV6_syntheticHost, h.family v6 subnet hsubnet]
  have hfor : map.subnetFor (syntheticHost subnet index) = some subnet := by
    rw [← hsubnet, ← hfamily]
    rfl
  have hservers : map.serversFor (syntheticHost subnet index) = map.serversOf v6 := by
    rw [← hfamily]
    rfl
  have hlast := lastOctet_syntheticHost subnet hindex
  have hin : subnet.contains (syntheticHost subnet index) = true := subnet.contains_host _
  simp [reverseLookup, hfor, hservers, hlast, hin]

theorem exists_of_reverseLookup {server : IpAddress}
    (hlookup : map.reverseLookup address = some server) :
    ∃ subnet index, map.subnetOf address.isV6 = some subnet ∧
      address = syntheticHost subnet index ∧
      (map.serversOf address.isV6)[index]? = some server := by
  simp only [reverseLookup] at hlookup
  split at hlookup
  · cases hlookup
  · rename_i subnet hsubnet
    split at hlookup
    · rename_i hplace
      obtain ⟨hin, hlast⟩ := Bool.and_eq_true_iff.1 hplace
      have hoctet : UInt8.ofNat (address.lastOctet.toNat - 2 + 2) = address.lastOctet := by
        rw [Nat.sub_add_cancel (of_decide_eq_true hlast), UInt8.ofNat_toNat]
      refine ⟨subnet, address.lastOctet.toNat - 2, hsubnet, ?_, hlookup⟩
      rw [syntheticHost, hoctet]
      exact (subnet.contains_iff address).1 hin
    · cases hlookup

theorem mem_syntheticsIn_iff :
    address ∈ map.syntheticsIn v6 ↔ ∃ subnet, map.subnetOf v6 = some subnet ∧
      ∃ index < (map.serversOf v6).length, syntheticHost subnet index = address := by
  rw [syntheticsIn]
  cases map.subnetOf v6 with
  | none => simp
  | some subnet => simp [mem_syntheticsOf_iff]

theorem isV6_of_mem_syntheticsIn (h : map.WellFormed) (hmem : address ∈ map.syntheticsIn v6) :
    address.isV6 = v6 := by
  obtain ⟨subnet, hsubnet, index, -, rfl⟩ := mem_syntheticsIn_iff.1 hmem
  rw [isV6_syntheticHost, h.family v6 subnet hsubnet]

theorem mem_syntheticServers_iff (h : map.WellFormed) :
    address ∈ map.syntheticServers ↔ address ∈ map.syntheticsIn address.isV6 := by
  rw [syntheticServers_eq, List.mem_append]
  constructor
  · rintro (hmem | hmem)
    · rwa [isV6_of_mem_syntheticsIn h hmem]
    · rwa [isV6_of_mem_syntheticsIn h hmem]
  · intro hmem
    cases hfamily : address.isV6 with
    | false => exact Or.inl (hfamily ▸ hmem)
    | true => exact Or.inr (hfamily ▸ hmem)

theorem isSome_reverseLookup_iff (h : map.WellFormed) :
    (map.reverseLookup address).isSome ↔ address ∈ map.syntheticServers := by
  rw [mem_syntheticServers_iff h, mem_syntheticsIn_iff, Option.isSome_iff_exists]
  constructor
  · rintro ⟨server, hlookup⟩
    obtain ⟨subnet, index, hsubnet, haddress, hserver⟩ := exists_of_reverseLookup hlookup
    exact ⟨subnet, hsubnet, index, (List.getElem?_eq_some_iff.1 hserver).1, haddress.symm⟩
  · rintro ⟨subnet, hsubnet, index, hindex, haddress⟩
    have hlookup := reverseLookup_syntheticHost h hsubnet
      (Nat.lt_of_lt_of_le hindex (h.bounded address.isV6))
    rw [haddress, List.getElem?_eq_getElem hindex] at hlookup
    exact ⟨_, hlookup⟩

theorem nodup_syntheticServers (h : map.WellFormed) : map.syntheticServers.Nodup := by
  have hfamily : ∀ v6, (map.syntheticsIn v6).Nodup := by
    intro v6
    rw [syntheticsIn]
    cases map.subnetOf v6 with
    | none => exact List.nodup_nil
    | some subnet => exact nodup_syntheticsOf (h.bounded v6)
  rw [syntheticServers_eq]
  apply List.Nodup.append (hfamily false) (hfamily true)
  intro address hv4 hv6
  have hclash := (isV6_of_mem_syntheticsIn h hv4).symm.trans (isV6_of_mem_syntheticsIn h hv6)
  cases hclash

theorem syntheticServers_ne_host (h : map.WellFormed) (hmem : address ∈ map.syntheticServers)
    (other : Subnet) {last : UInt8} (hlast : last.toNat < 2) : address ≠ other.host last := by
  obtain ⟨subnet, -, index, hindex, rfl⟩ :=
    mem_syntheticsIn_iff.1 ((mem_syntheticServers_iff h).1 hmem)
  exact syntheticHost_ne_host subnet other (Nat.lt_of_lt_of_le hindex (h.bounded _)) hlast

theorem filter_syntheticServers (h : map.WellFormed) (v6 : Bool) :
    map.syntheticServers.filter (·.isV6 == v6) = map.syntheticsIn v6 := by
  have hown : (map.syntheticsIn v6).filter (·.isV6 == v6) = map.syntheticsIn v6 := by
    rw [List.filter_eq_self]
    intro address hmem
    rw [isV6_of_mem_syntheticsIn h hmem, beq_self_eq_true]
  have hother : ∀ other, other ≠ v6 →
      (map.syntheticsIn other).filter (·.isV6 == v6) = [] := by
    intro other hne
    rw [List.filter_eq_nil_iff]
    intro address hmem
    rwa [isV6_of_mem_syntheticsIn h hmem, beq_iff_eq]
  rw [syntheticServers_eq, List.filter_append]
  cases v6 with
  | false => rw [hown, hother true (by decide), List.append_nil]
  | true => rw [hown, hother false (by decide), List.nil_append]

/-- A family's advertised addresses lead to its servers, each to the one at its place. -/
theorem map_reverseLookup_syntheticsIn (h : map.WellFormed)
    (hsubnet : map.subnetOf v6 = some subnet) :
    (map.syntheticsIn v6).map map.reverseLookup = (map.serversOf v6).map some := by
  have hin : map.syntheticsIn v6 =
      (List.range (map.serversOf v6).length).map (syntheticHost subnet) := by
    rw [syntheticsIn, hsubnet]
    rfl
  rw [hin, List.map_map]
  apply List.ext_getElem
  · rw [List.length_map, List.length_map, List.length_range]
  · intro index hindex hother
    rw [List.length_map] at hother
    have hlookup := reverseLookup_syntheticHost h hsubnet
      (Nat.lt_of_lt_of_le hother (h.bounded v6))
    rw [List.getElem_map, List.getElem_map, List.getElem_range, Function.comp_apply, hlookup,
      List.getElem?_eq_getElem hother]

end Lookup

end ServerMap

end Sinkhole
