import Sinkhole.Proofs.Tunnel.Synthetic

/-! # Configuring the map

Servers are mapped one after another, and each step either leaves the map alone or gives one server
the next place of its family. What a finished configuration has is therefore known from the servers
and from what the host accepted, and that is carried through the steps as one invariant.
-/
namespace Sinkhole

def BuilderStep.advertised? : BuilderStep → Option IpAddress
  | ⟨.dnsServer address, none⟩ => some address
  | _ => none

def BuilderStep.interface? : BuilderStep → Option (IpAddress × Nat)
  | ⟨.address address bits, none⟩ => some (address, bits)
  | _ => none

/-- The addresses that the host advertises as servers. -/
def BuilderTrace.advertised (trace : BuilderTrace) : List IpAddress :=
  trace.filterMap BuilderStep.advertised?

def BuilderTrace.interfaces (trace : BuilderTrace) : List (IpAddress × Nat) :=
  trace.filterMap BuilderStep.interface?

theorem BuilderTrace.advertised_concat (trace : BuilderTrace) (step : BuilderStep) :
    advertised (trace ++ [step]) = advertised trace ++ step.advertised?.toList := by
  rw [advertised, List.filterMap_append, List.filterMap_cons]
  cases step.advertised? <;> rfl

theorem BuilderTrace.interfaces_concat (trace : BuilderTrace) (step : BuilderStep) :
    interfaces (trace ++ [step]) = interfaces trace ++ step.interface?.toList := by
  rw [interfaces, List.filterMap_append, List.filterMap_cons]
  cases step.interface? <;> rfl

theorem BuilderTrace.advertised_concat_of_none {step : BuilderStep} (trace : BuilderTrace)
    (h : step.advertised? = none) : advertised (trace ++ [step]) = advertised trace := by
  rw [advertised_concat, h, Option.toList_none, List.append_nil]

theorem BuilderTrace.interfaces_concat_of_none {step : BuilderStep} (trace : BuilderTrace)
    (h : step.interface? = none) : interfaces (trace ++ [step]) = interfaces trace := by
  rw [interfaces_concat, h, Option.toList_none, List.append_nil]

theorem Builder.trace_eq_of_attempt {builder : Builder} {trace after : BuilderTrace}
    {call : BuilderCall} {failure : Option IoError}
    (h : builder.attempt trace call = (failure, after)) : after = trace ++ [⟨call, failure⟩] := by
  obtain ⟨rfl, rfl⟩ := Prod.mk.inj h
  rfl

def Subnet.interface (subnet : Subnet) : IpAddress × Nat :=
  (subnet.host 1, subnet.prefixBits)

namespace ServerMap

variable {builder : Builder} {map after : ServerMap} {trace final : BuilderTrace}
variable {server synthetic : IpAddress} {servers seen : List IpAddress} {v6 : Bool}

theorem claimIpv4_eq_some {candidates : List Subnet} {subnet : Subnet}
    (h : claimIpv4 builder candidates trace = (some subnet, final)) :
    subnet ∈ candidates ∧ final.interfaces = trace.interfaces ++ [subnet.interface] ∧
      final.advertised = trace.advertised := by
  induction candidates generalizing trace with
  | nil => cases h
  | cons candidate rest ih =>
    rw [claimIpv4] at h
    split at h
    · rename_i claimed hclaimed
      obtain ⟨hsubnet, rfl⟩ := Prod.mk.inj h
      obtain rfl := Option.some.inj hsubnet
      obtain rfl := Builder.trace_eq_of_attempt hclaimed
      exact ⟨List.mem_cons_self, BuilderTrace.interfaces_concat _ _,
        BuilderTrace.advertised_concat_of_none _ rfl⟩
    · rename_i cause refused hrefused
      obtain rfl := Builder.trace_eq_of_attempt hrefused
      -- The rest starts from a trace with one more call, but nothing more was accepted.
      obtain ⟨hmem, hinterfaces, hadvertised⟩ := ih h
      rw [BuilderTrace.interfaces_concat_of_none _ rfl] at hinterfaces
      rw [BuilderTrace.advertised_concat_of_none _ rfl] at hadvertised
      exact ⟨List.mem_cons_of_mem _ hmem, hinterfaces, hadvertised⟩

theorem claimIpv6_eq {subnet : Option Subnet}
    (h : claimIpv6 builder trace = (subnet, final)) :
    (∀ claimed ∈ subnet, claimed = ipv6Block) ∧
      final.interfaces = trace.interfaces ++ subnet.toList.map Subnet.interface ∧
      final.advertised = trace.advertised := by
  rw [claimIpv6] at h
  split at h
  · rename_i claimed hclaimed
    obtain ⟨rfl, rfl⟩ := Prod.mk.inj h
    obtain rfl := Builder.trace_eq_of_attempt hclaimed
    refine ⟨?_, BuilderTrace.interfaces_concat _ _, BuilderTrace.advertised_concat_of_none _ rfl⟩
    intro claimed hmem
    exact (Option.some.inj hmem).symm
  · rename_i cause refused hrefused
    obtain ⟨rfl, rfl⟩ := Prod.mk.inj h
    obtain rfl := Builder.trace_eq_of_attempt hrefused
    refine ⟨?_, BuilderTrace.interfaces_concat _ _, BuilderTrace.advertised_concat_of_none _ rfl⟩
    intro claimed hmem
    cases hmem

@[simp] theorem subnetOf_insert : (map.insert server synthetic).subnetOf v6 = map.subnetOf v6 := by
  rw [insert]
  cases server.isV6 <;> rfl

@[simp] theorem subnets_insert : (map.insert server synthetic).subnets = map.subnets := by
  rw [insert]
  cases server.isV6 <;> rfl

@[simp] theorem last_insert : (map.insert server synthetic).last = some (server, synthetic) := by
  rw [insert]
  cases server.isV6 <;> rfl

theorem serversOf_insert : (map.insert server synthetic).serversOf v6 =
    map.serversOf v6 ++ if server.isV6 = v6 then [server] else [] := by
  rw [insert]
  cases hfamily : server.isV6 <;> cases v6 <;> simp [serversOf]

theorem nextSynthetic?_eq : map.nextSynthetic? server =
    if maxServersPerFamily ≤ (map.serversOf server.isV6).length then none
    else (map.subnetOf server.isV6).map (syntheticHost · (map.serversOf server.isV6).length) := rfl

theorem nextSynthetic?_eq_none_iff : map.nextSynthetic? server = none ↔
    map.subnetOf server.isV6 = none ∨
      maxServersPerFamily ≤ (map.serversOf server.isV6).length := by
  rw [nextSynthetic?_eq]
  split
  · rename_i hfull
    exact iff_of_true rfl (Or.inr hfull)
  · rename_i hfree
    rw [Option.map_eq_none_iff]
    exact (or_iff_left hfree).symm

theorem nextSynthetic?_eq_some_iff : map.nextSynthetic? server = some synthetic ↔
    ∃ subnet, map.subnetOf server.isV6 = some subnet ∧
      (map.serversOf server.isV6).length < maxServersPerFamily ∧
      syntheticHost subnet (map.serversOf server.isV6).length = synthetic := by
  rw [nextSynthetic?_eq]
  split
  · rename_i hfull
    constructor
    · intro h
      cases h
    · rintro ⟨subnet, -, hfree, -⟩
      exact absurd hfull (Nat.not_le.2 hfree)
  · rename_i hfree
    rw [Option.map_eq_some_iff]
    simp only [Nat.lt_of_not_le hfree, true_and]

theorem syntheticsIn_insert (h : map.nextSynthetic? server = some synthetic) :
    (map.insert server synthetic).syntheticsIn v6 =
      map.syntheticsIn v6 ++ if server.isV6 = v6 then [synthetic] else [] := by
  obtain ⟨subnet, hsubnet, -, rfl⟩ := nextSynthetic?_eq_some_iff.1 h
  rw [syntheticsIn, syntheticsIn, subnetOf_insert, serversOf_insert]
  by_cases hfamily : server.isV6 = v6
  · subst hfamily
    rw [hsubnet, if_pos rfl, if_pos rfl]
    simp only [syntheticsOf, List.length_append, List.length_singleton, List.range_succ,
      List.map_append, List.map_singleton]
  · simp only [if_neg hfamily, List.append_nil]

theorem syntheticServers_insert (h : map.nextSynthetic? server = some synthetic) :
    (map.insert server synthetic).syntheticServers.Perm (map.syntheticServers ++ [synthetic]) := by
  rw [syntheticServers_eq, syntheticServers_eq, syntheticsIn_insert h, syntheticsIn_insert h]
  cases server.isV6 with
  | false =>
    simp only [if_true, Bool.false_eq_true, if_false, List.append_nil, List.append_assoc]
    exact List.Perm.append_left _ List.perm_append_comm
  | true =>
    simp only [if_true, Bool.true_eq_false, if_false, List.append_nil, List.append_assoc]
    exact List.Perm.refl _

/-- The servers that have a place in a family: the first ones, if there is a subnet for them. -/
def admitted (map : ServerMap) (servers : List IpAddress) (v6 : Bool) : List IpAddress :=
  match map.subnetOf v6 with
  | some _ => (servers.filter (·.isV6 == v6)).take maxServersPerFamily
  | none => []

/-- A map in which some servers were seen so far, and what the host accepted on the way. -/
structure Mapped (map : ServerMap) (seen : List IpAddress) (trace : BuilderTrace) : Prop where
  family : ∀ v6 subnet, map.subnetOf v6 = some subnet → subnet.base.isV6 = v6
  servers : ∀ v6, map.serversOf v6 = map.admitted seen v6
  interfaces : trace.interfaces = map.subnets.map Subnet.interface
  advertised : trace.advertised.Perm map.syntheticServers
  empty : map.last = none → map.syntheticServers = []
  last : ∀ server synthetic, map.last = some (server, synthetic) →
    map.reverseLookup synthetic = some server

theorem length_admitted_le : (map.admitted seen v6).length ≤ maxServersPerFamily := by
  rw [admitted]
  cases map.subnetOf v6 with
  | none => exact Nat.zero_le _
  | some subnet => exact List.length_take_le _ _

theorem Mapped.wellFormed (h : map.Mapped seen trace) : map.WellFormed where
  family := h.family
  bounded := by
    intro v6
    rw [h.servers]
    exact length_admitted_le

theorem filter_append_server : (seen ++ [server]).filter (·.isV6 == v6) =
    seen.filter (·.isV6 == v6) ++ if server.isV6 = v6 then [server] else [] := by
  rw [List.filter_append]
  by_cases hfamily : server.isV6 = v6 <;> simp [hfamily]

theorem Mapped.skip (h : map.Mapped seen trace) (hnext : map.nextSynthetic? server = none) :
    map.Mapped (seen ++ [server]) trace := by
  refine { h with servers := ?_ }
  intro v6
  rw [h.servers v6, admitted, admitted]
  cases hsubnet : map.subnetOf v6 with
  | none => rfl
  | some subnet =>
    dsimp only
    rw [filter_append_server]
    by_cases hfamily : server.isV6 = v6
    · -- The family has a subnet, so its places must be taken.
      subst hfamily
      rcases nextSynthetic?_eq_none_iff.1 hnext with hnone | hfull
      · rw [hsubnet] at hnone
        cases hnone
      · rw [h.servers, admitted, hsubnet, List.length_take] at hfull
        rw [if_pos rfl, List.take_append_of_le_length (by omega)]
    · rw [if_neg hfamily, List.append_nil]

theorem Mapped.servers_insert (h : map.Mapped seen trace)
    (hnext : map.nextSynthetic? server = some synthetic) (v6 : Bool) :
    (map.insert server synthetic).serversOf v6 =
      (map.insert server synthetic).admitted (seen ++ [server]) v6 := by
  obtain ⟨subnet, hsubnet, hfree, -⟩ := nextSynthetic?_eq_some_iff.1 hnext
  rw [serversOf_insert, h.servers v6, admitted, admitted, subnetOf_insert, filter_append_server]
  by_cases hfamily : server.isV6 = v6
  · subst hfamily
    rw [h.servers, admitted, hsubnet, List.length_take] at hfree
    rw [hsubnet, if_pos rfl]
    dsimp only
    rw [List.take_of_length_le (by omega), List.take_of_length_le]
    rw [List.length_append, List.length_singleton]
    omega
  · simp only [if_neg hfamily, List.append_nil]

theorem Mapped.insert (h : map.Mapped seen trace)
    (hnext : map.nextSynthetic? server = some synthetic)
    (hadvertised : final.advertised = trace.advertised ++ [synthetic])
    (hinterfaces : final.interfaces = trace.interfaces) :
    (map.insert server synthetic).Mapped (seen ++ [server]) final := by
  obtain ⟨subnet, hsubnet, hfree, hhost⟩ := nextSynthetic?_eq_some_iff.1 hnext
  have hfamily : ∀ v6 subnet, (map.insert server synthetic).subnetOf v6 = some subnet →
      subnet.base.isV6 = v6 := by
    intro v6 subnet hsubnet
    rw [subnetOf_insert] at hsubnet
    exact h.family v6 subnet hsubnet
  refine ⟨hfamily, h.servers_insert hnext, ?_, ?_, ?_, ?_⟩
  · rw [hinterfaces, subnets_insert, h.interfaces]
  · rw [hadvertised]
    exact (h.advertised.append_right [synthetic]).trans (syntheticServers_insert hnext).symm
  · intro hlast
    rw [last_insert] at hlast
    cases hlast
  · intro other address hlast
    rw [last_insert] at hlast
    obtain ⟨rfl, rfl⟩ := Prod.mk.inj (Option.some.inj hlast)
    have hwell : (map.insert server synthetic).WellFormed :=
      ⟨hfamily, fun v6 => h.servers_insert hnext v6 ▸ length_admitted_le⟩
    have hlookup := reverseLookup_syntheticHost hwell (subnetOf_insert.trans hsubnet) hfree
    rw [hhost, serversOf_insert, if_pos rfl, List.getElem?_append_right (Nat.le_refl _),
      Nat.sub_self] at hlookup
    exact hlookup

/-- A server has its place once the host has accepted both of its calls. -/
theorem Mapped.accept (h : map.Mapped seen trace)
    (hnext : map.nextSynthetic? server = some synthetic) :
    (map.insert server synthetic).Mapped (seen ++ [server]) (trace ++
      [⟨.dnsServer synthetic, none⟩] ++ [⟨.route synthetic server.hostPrefix, none⟩]) := by
  apply h.insert hnext
  · rw [BuilderTrace.advertised_concat_of_none _ rfl, BuilderTrace.advertised_concat]
    rfl
  · rw [BuilderTrace.interfaces_concat_of_none _ rfl, BuilderTrace.interfaces_concat_of_none _ rfl]

/-- All that can come of the first server: it has no place, one of its two calls is refused, or it
is given its place. -/
theorem addServers_cons_cases {result : Except Error ServerMap}
    (h : addServers builder (server :: servers) map trace = (result, final)) :
    (map.nextSynthetic? server = none ∧ addServers builder servers map trace = (result, final)) ∨
      ∃ synthetic, map.nextSynthetic? server = some synthetic ∧
        ((∃ cause, builder.attempt trace (.dnsServer synthetic) = (some cause, final) ∧
            result = .error (.io cause)) ∨
          ∃ advertised, builder.attempt trace (.dnsServer synthetic) = (none, advertised) ∧
            ((∃ cause, builder.attempt advertised (.route synthetic server.hostPrefix) =
                (some cause, final) ∧ result = .error (.io cause)) ∨
              ∃ routed, builder.attempt advertised (.route synthetic server.hostPrefix) =
                (none, routed) ∧
                addServers builder servers (map.insert server synthetic) routed =
                  (result, final))) := by
  rw [addServers] at h
  split at h
  · rename_i hnext
    exact Or.inl ⟨hnext, h⟩
  · rename_i synthetic hnext
    refine Or.inr ⟨synthetic, hnext, ?_⟩
    split at h
    · rename_i cause refused hrefused
      obtain ⟨rfl, rfl⟩ := Prod.mk.inj h
      exact Or.inl ⟨cause, hrefused, rfl⟩
    · rename_i advertised hadvertised
      refine Or.inr ⟨advertised, hadvertised, ?_⟩
      split at h
      · rename_i cause refused hrefused
        obtain ⟨rfl, rfl⟩ := Prod.mk.inj h
        exact Or.inl ⟨cause, hrefused, rfl⟩
      · rename_i routed hrouted
        exact Or.inr ⟨routed, hrouted, h⟩

theorem Mapped.addServers (h : map.Mapped seen trace)
    (hadded : addServers builder servers map trace = (.ok after, final)) :
    after.Mapped (seen ++ servers) final := by
  -- The servers seen so far grow along with the map, so both have to be free.
  induction servers generalizing map seen trace with
  | nil =>
    obtain ⟨hafter, rfl⟩ := Prod.mk.inj hadded
    obtain rfl := Except.ok.inj hafter
    rwa [List.append_nil]
  | cons server servers ih =>
    rw [List.append_cons]
    obtain ⟨hnext, hrest⟩ | ⟨synthetic, hnext, ⟨cause, -, hrefused⟩ | ⟨advertised, hadvertised,
      ⟨cause, -, hrefused⟩ | ⟨routed, hrouted, hrest⟩⟩⟩ := addServers_cons_cases hadded
    · exact ih (h.skip hnext) hrest
    · cases hrefused
    · cases hrefused
    · obtain rfl := Builder.trace_eq_of_attempt hadvertised
      obtain rfl := Builder.trace_eq_of_attempt hrouted
      exact ih (h.accept hnext) hrest

theorem isV6_base_of_mem_ipv4Candidates {subnet : Subnet} (h : subnet ∈ ipv4Candidates) :
    subnet.base.isV6 = false := by
  revert subnet
  decide

theorem mapped_of_claims {ipv4 : Subnet} {ipv6 : Option Subnet} (hipv4 : ipv4 ∈ ipv4Candidates)
    (hipv6 : ∀ claimed ∈ ipv6, claimed = ipv6Block)
    (hinterfaces : trace.interfaces = ipv4.interface :: ipv6.toList.map Subnet.interface)
    (hadvertised : trace.advertised = []) :
    (ServerMap.mk ipv4 ipv6 [] [] none).Mapped [] trace where
  family := by
    intro v6 subnet hsubnet
    cases v6 with
    | false =>
      obtain rfl := Option.some.inj hsubnet
      exact isV6_base_of_mem_ipv4Candidates hipv4
    | true =>
      rw [hipv6 subnet hsubnet]
      rfl
  servers := by
    intro v6
    rw [admitted]
    cases v6 <;> cases ipv6 <;> rfl
  interfaces := hinterfaces
  advertised := by
    rw [hadvertised]
    cases ipv6 <;> exact List.Perm.refl _
  empty := by
    intro _
    cases ipv6 <;> rfl
  last := by
    intro server synthetic hlast
    cases hlast

theorem mapped_of_claimed {ipv6Enabled : Bool} {ipv4 : Subnet} {ipv6 : Option Subnet}
    (hclaimed : claimIpv4 builder ipv4Candidates [] = (some ipv4, trace))
    (hsecond : (if wantsIpv6 servers ipv6Enabled then claimIpv6 builder trace
      else (none, trace)) = (ipv6, final)) :
    (ServerMap.mk ipv4 ipv6 [] [] none).Mapped [] final := by
  obtain ⟨hmem, hinterfaces, hadvertised⟩ := claimIpv4_eq_some hclaimed
  have hipv6 : (∀ block ∈ ipv6, block = ipv6Block) ∧
      final.interfaces = trace.interfaces ++ ipv6.toList.map Subnet.interface ∧
      final.advertised = trace.advertised := by
    split at hsecond
    · exact claimIpv6_eq hsecond
    · obtain ⟨rfl, rfl⟩ := Prod.mk.inj hsecond
      refine ⟨?_, (List.append_nil _).symm, rfl⟩
      intro block hblock
      cases hblock
  apply mapped_of_claims hmem hipv6.1
  · rw [hipv6.2.1, hinterfaces]
    rfl
  · rw [hipv6.2.2, hadvertised]
    rfl

theorem mapped_of_configure {ipv6Enabled : Bool}
    (h : configure builder servers ipv6Enabled = (.ok map, trace)) : map.Mapped servers trace := by
  rw [configure] at h
  split at h
  · cases h
  · rename_i ipv4 claimed hclaimed
    generalize hsecond : (if wantsIpv6 servers ipv6Enabled then claimIpv6 builder claimed
      else (none, claimed)) = second at h
    exact (mapped_of_claimed hclaimed hsecond).addServers h

/-- What a configured map has to be for its servers, given what the host accepted. -/
structure Faithful (map : ServerMap) (servers : List IpAddress) (trace : BuilderTrace) : Prop where
  /-- The subnets are those whose interface address the host accepted. -/
  claimed : trace.interfaces = map.subnets.map Subnet.interface
  advertised : trace.advertised.Perm map.syntheticServers
  distinct : map.syntheticServers.Nodup
  apart : ∀ address ∈ map.syntheticServers, ∀ subnet ∈ map.subnets,
    address ≠ subnet.host 0 ∧ address ≠ subnet.host 1
  /-- In each family, the address at a place leads to the server at that place. -/
  recovered : ∀ v6, (map.syntheticServers.filter (·.isV6 == v6)).map map.reverseLookup =
    (map.admitted servers v6).map some
  only : ∀ address, (map.reverseLookup address).isSome ↔ address ∈ map.syntheticServers
  guarded : map.syntheticServers ≠ [] → map.reverseLookup map.probeTarget = some map.defaultServer

theorem Mapped.recovered (h : map.Mapped servers trace) (v6 : Bool) :
    (map.syntheticServers.filter (·.isV6 == v6)).map map.reverseLookup =
      (map.admitted servers v6).map some := by
  rw [filter_syntheticServers h.wellFormed v6]
  cases hsubnet : map.subnetOf v6 with
  | none =>
    rw [syntheticsIn, admitted, hsubnet]
    rfl
  | some subnet => rw [map_reverseLookup_syntheticsIn h.wellFormed hsubnet, h.servers v6]

theorem Mapped.guarded (h : map.Mapped servers trace) (hany : map.syntheticServers ≠ []) :
    map.reverseLookup map.probeTarget = some map.defaultServer := by
  cases hlast : map.last with
  | none => exact absurd (h.empty hlast) hany
  | some entry =>
    have hlookup := h.last entry.1 entry.2 hlast
    rwa [probeTarget, defaultServer, hlast]

/-- Whatever the servers are and whatever the host refuses, a configuration that succeeds maps the
advertised addresses one to one onto the servers that have a place. -/
theorem configure_faithful {ipv6Enabled : Bool}
    (h : configure builder servers ipv6Enabled = (.ok map, trace)) :
    map.Faithful servers trace := by
  have hmapped := mapped_of_configure h
  have hwell := hmapped.wellFormed
  refine ⟨hmapped.interfaces, hmapped.advertised, nodup_syntheticServers hwell, ?_,
    hmapped.recovered, fun address => isSome_reverseLookup_iff hwell, hmapped.guarded⟩
  intro address hmem subnet _
  exact ⟨syntheticServers_ne_host hwell hmem subnet (by decide),
    syntheticServers_ne_host hwell hmem subnet (by decide)⟩

def firstBlockTaken : Builder := fun _ call =>
  if call = .address (.v4 #v[192, 0, 2, 1]) 24 then some .addressNotAvailable else none

def mixedServers : List IpAddress :=
  [.v4 (Vector.replicate 4 8), .v6 (Vector.replicate 16 7), .v4 (Vector.replicate 4 8)]

def secondSynthetic : IpAddress := .v4 #v[198, 51, 100, 3]

def mixedMap : ServerMap :=
  ⟨⟨secondSynthetic.withLastOctet 0, 24⟩, some ipv6Block,
    [.v4 (Vector.replicate 4 8), .v4 (Vector.replicate 4 8)], [.v6 (Vector.replicate 16 7)],
    some (.v4 (Vector.replicate 4 8), secondSynthetic)⟩

theorem configure_faithful_mixed :
    configure firstBlockTaken mixedServers true =
        (.ok mixedMap, (configure firstBlockTaken mixedServers true).2) ∧
      mixedMap.Faithful mixedServers (configure firstBlockTaken mixedServers true).2 := by
  have hconfigured : configure firstBlockTaken mixedServers true =
      (.ok mixedMap, (configure firstBlockTaken mixedServers true).2) :=
    Prod.ext (by rfl) rfl
  exact ⟨hconfigured, configure_faithful hconfigured⟩

end ServerMap

end Sinkhole
