import Sinkhole.Proofs.Proxy.Decision
import Sinkhole.Proofs.Rules.Scan

/-! # Messages with several questions

A message may have any number of questions, but only the first one is decided about, and an allowed
message leaves as it came. So a name leaves undecided exactly when it stands behind an allowed one.
-/
namespace Sinkhole

variable {κ σ : Type}

section Asked

variable (classify : Classifier κ) (resolve : Resolver σ Flow) (packet : Bytes)
variable (session : SessionState Flow) (classifier : κ) (state : σ)

/-- Whatever is passed to the resolver, keep-alives apart, is a message in which every question is
about an allowed host. -/
def OnlyAllowedLeaves : Prop :=
  ∀ call ∈ resolverCalls classify resolve packet session classifier state,
    call.query.payload ≠ [] →
      ∃ message, Dns.Message.decode call.query.payload = .ok message ∧
        ∀ question ∈ message.questions, (classify question.name.host classifier).1 = .allowed

end Asked

variable {classify : Classifier κ} {resolve : Resolver σ Flow} {packet : Bytes}
variable {session : SessionState Flow} {classifier : κ} {state : σ}

theorem AsksAbout.mem_resolverCalls {payload : Bytes} {flow : Flow} {server : Endpoint}
    {message : Dns.Message} {host : String}
    (hask : AsksAbout session.servers packet flow server payload message host)
    (hallowed : (classify host classifier).1 = .allowed) :
    callOf resolve session state ⟨server, payload, some flow⟩ ∈
      resolverCalls classify resolve packet session classifier state := by
  have hcases := handlePacket_cases classify resolve packet session classifier state
  generalize hostsAsked classify resolve packet session classifier state = hosts at hcases
  generalize resolverCalls classify resolve packet session classifier state = calls at hcases ⊢
  generalize handlePacket classify resolve packet session classifier state = handled at hcases
  cases hcases with
  | dropped _ hnone => exact absurd hask (hnone _ _ _ _ _)
  | keptAlive hkeep => exact absurd hask hkeep.not_asksAbout
  | @answered request classification next response hother hclass hlocal =>
    rw [← hother.host_unique hask, hclass] at hallowed
    obtain rfl : classification = .allowed := hallowed
    cases hlocal
  | @forwarded request next hother _ =>
    have hsame : request = ⟨flow, server, payload, message, host⟩ := hother.request_unique hask
    rw [hsame]
    exact List.mem_singleton_self _

theorem asksAbout_of_mem_resolverCalls {call : ResolverCall}
    (hcall : call ∈ resolverCalls classify resolve packet session classifier state)
    (hpayload : call.query.payload ≠ []) :
    ∃ flow server message host,
      AsksAbout session.servers packet flow server call.query.payload message host ∧
        (classify host classifier).1 = .allowed := by
  have hcases := handlePacket_cases classify resolve packet session classifier state
  generalize hostsAsked classify resolve packet session classifier state = hosts at hcases
  generalize resolverCalls classify resolve packet session classifier state = calls at hcases hcall
  generalize handlePacket classify resolve packet session classifier state = handled at hcases
  cases hcases with
  | dropped _ _ => cases hcall
  | keptAlive _ =>
    obtain rfl := List.mem_singleton.1 hcall
    exact absurd rfl hpayload
  | answered _ _ _ => cases hcall
  | forwarded hask hclass =>
    obtain rfl := List.mem_singleton.1 hcall
    exact ⟨_, _, _, _, hask, by rw [hclass]⟩

/-- Only allowed names leave with a packet exactly when it does not hide another name behind an
allowed first one. -/
theorem onlyAllowedLeaves_iff :
    OnlyAllowedLeaves classify resolve packet session classifier state ↔
      ∀ flow server payload message host,
        AsksAbout session.servers packet flow server payload message host →
          (classify host classifier).1 = .allowed →
            ∀ question ∈ message.questions.tail,
              (classify question.name.host classifier).1 = .allowed := by
  constructor
  · intro hleaves flow server payload message host hask hallowed question hquestion
    obtain ⟨decoded, hdecoded, hquestions⟩ :=
      hleaves _ (hask.mem_resolverCalls hallowed) hask.payload_ne_nil
    have hsame : message = decoded := Except.ok.inj (hask.decoded.symm.trans hdecoded)
    rw [← hsame] at hquestions
    exact hquestions question (List.mem_of_mem_tail hquestion)
  · intro htail call hcall hpayload
    obtain ⟨flow, server, message, host, hask, hallowed⟩ :=
      asksAbout_of_mem_resolverCalls hcall hpayload
    refine ⟨message, hask.decoded, ?_⟩
    intro question hquestion
    obtain ⟨first, hfirst, hhost⟩ := hask.asked
    obtain ⟨rest, hquestions⟩ := List.head?_eq_some_iff.1 hfirst
    rw [hquestions] at hquestion
    rcases List.mem_cons.1 hquestion with rfl | hother
    · rw [hhost]
      exact hallowed
    · have hrest := htail flow server _ message host hask hallowed question
      rw [hquestions] at hrest
      exact hrest hother

/-- A query for `news.example.org` and, behind it, for `ads.example.com`. -/
def twoNamesPayload : Bytes :=
  [0, 77, 1, 0, 0, 2, 0, 0, 0, 0, 0, 0, 4, 110, 101, 119, 115, 7, 101, 120, 97, 109, 112, 108, 101,
    3, 111, 114, 103, 0, 0, 1, 0, 1, 3, 97, 100, 115, 7, 101, 120, 97, 109, 112, 108, 101, 3, 99,
    111, 109, 0, 0, 1, 0, 1]

def twoNamesPacket : Bytes :=
  [0x45, 0, 0, 83, 0, 0, 0, 0, 64, 17, 0, 0, 10, 111, 222, 1, 192, 0, 2, 2, 0x9c, 0x40, 0, 53,
    0, 63, 0, 0] ++ twoNamesPayload

def adsLists : RuleLists := ⟨["ads.example.com"], [], []⟩

def adsName : Dns.Name := ⟨[[97, 100, 115], [101, 120, 97, 109, 112, 108, 101], [99, 111, 109]]⟩

def twoNamesMessage : Dns.Message :=
  ⟨⟨77, false, 0, false, false, true, false, false, false, 0⟩,
    [⟨⟨[[110, 101, 119, 115], [101, 120, 97, 109, 112, 108, 101], [111, 114, 103]]⟩, 1, 1⟩,
      ⟨adsName, 1, 1⟩], [], [], [], none⟩

theorem twoNames_asksAbout :
    AsksAbout oneServer twoNamesPacket mixedCaseFlow ⟨.v4 (Vector.replicate 4 9), 53⟩
      twoNamesPayload twoNamesMessage "news.example.org" where
  datagram := by cbv
  mapped := by cbv
  port := rfl
  decoded := by cbv
  asked := ⟨_, rfl, by cbv⟩

/-- With `ads.example.com` blocked, the query for both names still leaves. -/
theorem not_onlyAllowedLeaves_twoNames :
    ¬ OnlyAllowedLeaves (HostRules.ofLists adsLists).classifier (Forwarder.resolve .offline 0)
      twoNamesPacket (.new oneServer 1) () .udp := by
  intro hleaves
  have hnews : (HostRules.ofLists adsLists).classify "news.example.org" = .allowed := by
    rw [HostRules.classify_eq_decide]
    decide
  have hads : (HostRules.ofLists adsLists).classify adsName.host = .blocked := by
    have hhost : adsName.host = "ads.example.com" := by cbv
    rw [HostRules.classify_eq_decide, hhost]
    decide
  obtain ⟨message, hdecoded, hquestions⟩ :=
    hleaves _ (twoNames_asksAbout.mem_resolverCalls hnews) twoNames_asksAbout.payload_ne_nil
  have hsame : twoNamesMessage = message :=
    Except.ok.inj (twoNames_asksAbout.decoded.symm.trans hdecoded)
  have hallowed := hquestions ⟨adsName, 1, 1⟩ (by
    rw [← hsame]
    exact List.mem_cons_of_mem _ List.mem_cons_self)
  have hclash := hads.symm.trans hallowed
  cases hclash

end Sinkhole
