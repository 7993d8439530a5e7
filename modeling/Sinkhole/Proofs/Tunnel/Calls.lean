import Sinkhole.Proofs.Tunnel.Mapping

/-! # The calls of a configuration

Which calls a configuration makes is known before: claims of the candidate blocks, a claim of the
IPv6 block if it is wanted, and two calls for each server that has a place. How the host answers
only decides where it stops. The first claim that is accepted ends the claims, a refusal of the IPv6
block takes the places of the IPv6 servers, and the first refusal of a call for a server ends it
all.
-/
namespace Sinkhole

/-- The outcome of each step is what the host answers to its call after the steps before it. -/
def BuilderTrace.AnsweredBy (trace : BuilderTrace) (builder : Builder) : Prop :=
  ∀ before step after, trace = before ++ step :: after → step.failure = builder before step.call

/-- The steps make the calls in their order, up to and including the first whose outcome is a last
one. -/
inductive MadeUntil (last : Option IoError → Prop) : List BuilderCall → BuilderTrace → Prop
  | all : MadeUntil last [] []
  | ended (call : BuilderCall) (calls : List BuilderCall) {failure : Option IoError}
      (h : last failure) : MadeUntil last (call :: calls) [⟨call, failure⟩]
  | more (call : BuilderCall) {calls : List BuilderCall} {failure : Option IoError}
      {steps : BuilderTrace} (h : ¬ last failure) (hrest : MadeUntil last calls steps) :
      MadeUntil last (call :: calls) (⟨call, failure⟩ :: steps)

def Subnet.claim (subnet : Subnet) : BuilderCall := .address (subnet.host 1) subnet.prefixBits

/-- The calls for a server behind those seen before: two if its family has a block and a place
left, and otherwise none. -/
def callsFor (blocks : Bool → Option Subnet) (seen : List IpAddress) (server : IpAddress) :
    List BuilderCall :=
  let place := seen.countP (·.isV6 == server.isV6)
  match blocks server.isV6 with
  | some block =>
    if place < maxServersPerFamily then
      [.dnsServer (ServerMap.syntheticHost block place),
        .route (ServerMap.syntheticHost block place) server.hostPrefix]
    else []
  | none => []

def callsForAll (blocks : Bool → Option Subnet) : (seen servers : List IpAddress) →
    List BuilderCall
  | _, [] => []
  | seen, server :: servers =>
    callsFor blocks seen server ++ callsForAll blocks (seen ++ [server]) servers

def blocksOf (ipv4 : Subnet) (ipv6 : Option Subnet) (v6 : Bool) : Option Subnet :=
  if v6 then ipv6 else some ipv4

/-- The IPv6 block is claimed if it is wanted, and had if the claim is accepted. -/
inductive ClaimsIpv6 (wanted : Prop) : Option Subnet → BuilderTrace → Prop
  | unwanted (h : ¬ wanted) : ClaimsIpv6 wanted none []
  | accepted (h : wanted) : ClaimsIpv6 wanted (some ipv6Block) [⟨ipv6Block.claim, none⟩]
  | refused (h : wanted) (cause : IoError) : ClaimsIpv6 wanted none [⟨ipv6Block.claim, some cause⟩]

/-- The calls for the servers end with the cause of a refusal, and otherwise with a map over the
blocks. -/
structure EndsMapping (blocks : Bool → Option Subnet) (steps : BuilderTrace)
    (result : Except Error ServerMap) : Prop where
  refused : ∀ step ∈ steps, ∀ cause, step.failure = some cause → result = .error (.io cause)
  accepted : (∀ step ∈ steps, step.failure = none) → ∃ map : ServerMap, result = .ok map ∧
    map.subnetOf = blocks

/-- What a configuration comes to and the calls that it makes. -/
inductive Configured (servers : List IpAddress) (ipv6Enabled : Bool) :
    Except Error ServerMap × BuilderTrace → Prop
  /-- All candidates are refused. -/
  | unclaimed {claims : BuilderTrace}
      (hclaims : MadeUntil (· = none) (ipv4Candidates.map Subnet.claim) claims)
      (hrefused : ∀ step ∈ claims, step.failure ≠ none) :
      Configured servers ipv6Enabled (.error (.config .noIpv4Subnet), claims)
  | claimed {refused second steps : BuilderTrace} {ipv4 : Subnet} {ipv6 : Option Subnet}
      {result : Except Error ServerMap} (hblock : ipv4 ∈ ipv4Candidates)
      (hclaims : MadeUntil (· = none) (ipv4Candidates.map Subnet.claim)
        (refused ++ [⟨ipv4.claim, none⟩]))
      (hsecond : ClaimsIpv6
        ((∃ server ∈ servers, server.isV6 = true) ∧ (ipv6Enabled = true ∨ servers.length = 1))
        ipv6 second)
      (hsteps : MadeUntil (· ≠ none) (callsForAll (blocksOf ipv4 ipv6) [] servers) steps)
      (hresult : EndsMapping (blocksOf ipv4 ipv6) steps result) :
      Configured servers ipv6Enabled
        (result, refused ++ [⟨ipv4.claim, none⟩] ++ second ++ steps)

theorem BuilderTrace.answeredBy_nil (builder : Builder) : AnsweredBy [] builder := by
  intro before step after heq
  exact absurd heq.symm (List.append_ne_nil_of_right_ne_nil before (List.cons_ne_nil _ _))

theorem BuilderTrace.AnsweredBy.attempt {builder : Builder} {trace after : BuilderTrace}
    {call : BuilderCall} {failure : Option IoError} (h : trace.AnsweredBy builder)
    (hattempt : builder.attempt trace call = (failure, after)) : after.AnsweredBy builder := by
  obtain ⟨rfl, rfl⟩ := Prod.mk.inj hattempt
  intro before step rest heq
  rcases List.eq_nil_or_concat rest with rfl | ⟨rest, other, rfl⟩
  · obtain ⟨rfl, hstep⟩ := List.append_inj' heq rfl
    obtain rfl := List.singleton_inj.1 hstep
    rfl
  · rw [List.concat_eq_append, ← List.cons_append, ← List.append_assoc] at heq
    exact h before step rest (List.append_inj' heq rfl).1

theorem EndsMapping.cons {blocks : Bool → Option Subnet} {step : BuilderStep}
    {steps : BuilderTrace} {result : Except Error ServerMap} (hstep : step.failure = none)
    (h : EndsMapping blocks steps result) : EndsMapping blocks (step :: steps) result where
  refused := by
    intro other hother cause hcause
    rcases List.mem_cons.1 hother with rfl | hother
    · rw [hstep] at hcause
      cases hcause
    · exact h.refused other hother cause hcause
  accepted hall := h.accepted fun other hother => hall other (List.mem_cons_of_mem _ hother)

theorem EndsMapping.of_refused (blocks : Bool → Option Subnet) (call : BuilderCall)
    (cause : IoError) : EndsMapping blocks [⟨call, some cause⟩] (.error (.io cause)) where
  refused := by
    intro step hstep other hother
    obtain rfl := List.mem_singleton.1 hstep
    rw [Option.some.inj hother]
  accepted hall := absurd (hall _ List.mem_cons_self) (Option.some_ne_none cause)

namespace ServerMap

variable {builder : Builder} {map : ServerMap} {trace final : BuilderTrace}
  {servers seen : List IpAddress} {server synthetic : IpAddress}

theorem claimIpv4_calls {candidates : List Subnet} {subnet : Option Subnet}
    (h : claimIpv4 builder candidates trace = (subnet, final))
    (hanswered : trace.AnsweredBy builder) :
    final.AnsweredBy builder ∧ ∃ claims, final = trace ++ claims ∧
      MadeUntil (· = none) (candidates.map Subnet.claim) claims ∧
      (subnet = none → ∀ step ∈ claims, step.failure ≠ none) ∧
      ∀ claimed ∈ subnet, ∃ refused, claims = refused ++ [⟨claimed.claim, none⟩] := by
  induction candidates generalizing trace with
  | nil =>
    obtain ⟨rfl, rfl⟩ := Prod.mk.inj h
    exact ⟨hanswered, [], (List.append_nil _).symm, .all, by simp, by simp⟩
  | cons candidate rest ih =>
    rw [claimIpv4] at h
    split at h
    · rename_i after haccepted
      obtain ⟨rfl, rfl⟩ := Prod.mk.inj h
      refine ⟨hanswered.attempt haccepted, [⟨candidate.claim, none⟩],
        Builder.trace_eq_of_attempt haccepted, .ended _ _ rfl, by simp, ?_⟩
      intro claimed hclaimed
      obtain rfl := Option.some.inj hclaimed
      exact ⟨[], rfl⟩
    · rename_i cause after hrefused
      obtain ⟨hfinal, claims, rfl, hmade, hnone, hsome⟩ := ih h (hanswered.attempt hrefused)
      obtain rfl := Builder.trace_eq_of_attempt hrefused
      refine ⟨hfinal, ⟨candidate.claim, some cause⟩ :: claims, by simp [Subnet.claim],
        .more _ (Option.some_ne_none cause) hmade, ?_, ?_⟩
      · exact fun hsubnet => List.forall_mem_cons.2 ⟨Option.some_ne_none cause, hnone hsubnet⟩
      · intro claimed hclaimed
        obtain ⟨refused, rfl⟩ := hsome claimed hclaimed
        exact ⟨⟨candidate.claim, some cause⟩ :: refused, rfl⟩

theorem claimIpv6_calls {ipv6Enabled : Bool} {subnet : Option Subnet}
    (h : (if wantsIpv6 servers ipv6Enabled then claimIpv6 builder trace
      else (none, trace)) = (subnet, final)) (hanswered : trace.AnsweredBy builder) :
    final.AnsweredBy builder ∧ ∃ second, final = trace ++ second ∧
      ClaimsIpv6 (wantsIpv6 servers ipv6Enabled = true) subnet second := by
  split at h
  · rename_i hwanted
    rw [claimIpv6] at h
    split at h
    · rename_i after haccepted
      obtain ⟨rfl, rfl⟩ := Prod.mk.inj h
      exact ⟨hanswered.attempt haccepted, _, Builder.trace_eq_of_attempt haccepted,
        .accepted hwanted⟩
    · rename_i cause after hrefused
      obtain ⟨rfl, rfl⟩ := Prod.mk.inj h
      exact ⟨hanswered.attempt hrefused, _, Builder.trace_eq_of_attempt hrefused,
        .refused hwanted cause⟩
  · rename_i hunwanted
    obtain ⟨rfl, rfl⟩ := Prod.mk.inj h
    exact ⟨hanswered, [], (List.append_nil _).symm, .unwanted hunwanted⟩

theorem wantsIpv6_iff {ipv6Enabled : Bool} : wantsIpv6 servers ipv6Enabled = true ↔
    (∃ server ∈ servers, server.isV6 = true) ∧ (ipv6Enabled = true ∨ servers.length = 1) := by
  rw [wantsIpv6, Bool.and_eq_true, List.any_eq_true, Bool.or_eq_true, beq_iff_eq]

theorem Mapped.callsFor_eq (h : map.Mapped seen trace) :
    callsFor map.subnetOf seen server =
      match map.nextSynthetic? server with
      | some synthetic => [.dnsServer synthetic, .route synthetic server.hostPrefix]
      | none => [] := by
  rw [callsFor, nextSynthetic?_eq, h.servers, admitted]
  cases map.subnetOf server.isV6 with
  | none => simp
  | some block =>
    dsimp only
    rw [List.length_take, ← List.countP_eq_length_filter]
    split
    · rename_i hplace
      rw [Nat.min_eq_right hplace.le, if_neg (Nat.not_le.2 hplace)]
      rfl
    · rename_i hfull
      rw [Nat.min_eq_left (Nat.not_lt.1 hfull), if_pos le_rfl]

theorem Mapped.addServers_calls {result : Except Error ServerMap} (h : map.Mapped seen trace)
    (hadded : ServerMap.addServers builder servers map trace = (result, final))
    (hanswered : trace.AnsweredBy builder) :
    final.AnsweredBy builder ∧ ∃ steps, final = trace ++ steps ∧
      MadeUntil (· ≠ none) (callsForAll map.subnetOf seen servers) steps ∧
      EndsMapping map.subnetOf steps result := by
  induction servers generalizing map seen trace with
  | nil =>
    obtain ⟨rfl, rfl⟩ := Prod.mk.inj hadded
    exact ⟨hanswered, [], (List.append_nil _).symm, .all, by simp, fun _ => ⟨map, rfl, rfl⟩⟩
  | cons server servers ih =>
    rw [callsForAll, h.callsFor_eq]
    obtain ⟨hnext, hrest⟩ | ⟨synthetic, hnext, ⟨cause, hrefused, rfl⟩ | ⟨advertised, hadvertised,
      hroute⟩⟩ := addServers_cons_cases hadded
    · rw [hnext]
      exact ih (h.skip hnext) hrest hanswered
    · rw [hnext]
      exact ⟨hanswered.attempt hrefused, _, Builder.trace_eq_of_attempt hrefused,
        .ended _ _ (Option.some_ne_none cause), .of_refused _ _ cause⟩
    · rw [hnext]
      have hadvertisedBy := hanswered.attempt hadvertised
      obtain rfl := Builder.trace_eq_of_attempt hadvertised
      obtain ⟨cause, hrefused, rfl⟩ | ⟨routed, hrouted, hrest⟩ := hroute
      · refine ⟨hadvertisedBy.attempt hrefused, _, ?_,
          .more _ (not_not_intro rfl) (.ended _ _ (Option.some_ne_none cause)),
          EndsMapping.cons rfl (.of_refused _ _ cause)⟩
        rw [Builder.trace_eq_of_attempt hrefused, List.append_assoc]
        rfl
      · have hroutedBy := hadvertisedBy.attempt hrouted
        obtain rfl := Builder.trace_eq_of_attempt hrouted
        have hblocks : (map.insert server synthetic).subnetOf = map.subnetOf :=
          funext fun _ => subnetOf_insert
        obtain ⟨hfinal, steps, rfl, hmade, hends⟩ := ih (h.accept hnext) hrest hroutedBy
        rw [hblocks] at hmade hends
        refine ⟨hfinal, _, ?_, .more _ (not_not_intro rfl) (.more _ (not_not_intro rfl) hmade),
          EndsMapping.cons rfl (EndsMapping.cons rfl hends)⟩
        simp only [List.append_assoc, List.cons_append, List.nil_append]

/-- Whatever the host refuses, each call of a configuration is one that is due at its place, and the
calls end where the outcomes say, with the result that they say. -/
theorem configure_calls (builder : Builder) (servers : List IpAddress) (ipv6Enabled : Bool) :
    (configure builder servers ipv6Enabled).2.AnsweredBy builder ∧
      Configured servers ipv6Enabled (configure builder servers ipv6Enabled) := by
  generalize hconfigured : configure builder servers ipv6Enabled = configured
  rw [configure] at hconfigured
  split at hconfigured
  · rename_i final hunclaimed
    obtain rfl := hconfigured
    obtain ⟨hfinal, claims, rfl, hclaims, hrefused, -⟩ :=
      claimIpv4_calls hunclaimed (BuilderTrace.answeredBy_nil builder)
    exact ⟨hfinal, .unclaimed hclaims (hrefused rfl)⟩
  · rename_i ipv4 claimed hclaimed
    obtain ⟨hclaimedBy, claims, rfl, hclaims, -, hlast⟩ :=
      claimIpv4_calls hclaimed (BuilderTrace.answeredBy_nil builder)
    obtain ⟨refused, rfl⟩ := hlast ipv4 rfl
    generalize hsecond : (if wantsIpv6 servers ipv6Enabled then _ else _) = second at hconfigured
    rcases second with ⟨ipv6, start⟩
    rcases configured with ⟨result, final⟩
    have hmapped := mapped_of_claimed hclaimed hsecond
    obtain ⟨hstartBy, second, rfl, hclaims6⟩ := claimIpv6_calls hsecond hclaimedBy
    obtain ⟨hfinal, steps, rfl, hsteps, hresult⟩ := hmapped.addServers_calls hconfigured hstartBy
    have hblocks : (ServerMap.mk ipv4 ipv6 [] [] none).subnetOf = blocksOf ipv4 ipv6 := rfl
    rw [wantsIpv6_iff] at hclaims6
    rw [hblocks] at hsteps hresult
    exact ⟨hfinal, .claimed (claimIpv4_eq_some hclaimed).1 hclaims hclaims6 hsteps hresult⟩

/-- A host that has given the first block to somebody else and routes nothing to IPv6 hosts. -/
def unroutable : Builder := fun before call =>
  match call with
  | .route _ 128 => some .networkUnreachable
  | _ => firstBlockTaken before call

example : configure unroutable mixedServers true =
    (.error (.io .networkUnreachable),
      [⟨.address (.v4 #v[192, 0, 2, 1]) 24, some .addressNotAvailable⟩,
        ⟨.address (.v4 #v[198, 51, 100, 1]) 24, none⟩,
        ⟨.address (ipv6Block.host 1) 120, none⟩,
        ⟨.dnsServer (.v4 #v[198, 51, 100, 2]), none⟩,
        ⟨.route (.v4 #v[198, 51, 100, 2]) 32, none⟩,
        ⟨.dnsServer (ipv6Block.host 2), none⟩,
        ⟨.route (ipv6Block.host 2) 128, some .networkUnreachable⟩]) := by
  rfl

end ServerMap

end Sinkhole
