import Sinkhole.Lifecycle.Worker
import Sinkhole.Proofs.Cache.Decisions
import Sinkhole.Proofs.Proxy.Decision
import Sinkhole.Proofs.Rules.PlainPattern

/-! # Blocked names stay here

A name that a blocked pattern covers label by label, and no other pattern covers, is answered here
whatever else its packet says. It makes no difference whether rules are asked or the cache in front
of them, nor how that cache was used before.
-/
namespace Sinkhole

variable {κ σ : Type}

def Engine.cacheAfter (engine : Engine) (capacity : Nat) (uses : List CacheUse) :
    CachedClassifier :=
  uses.foldl (CachedClassifier.after engine.rules.classify) (.new capacity)

/-- A packet is answered as one about a blocked name, without the resolver. -/
structure AnsweredAsBlocked (classify : Classifier κ) (resolve : Resolver σ Flow) (packet : Bytes)
    (flow : Flow) (message : Dns.Message) (host : String) (session : SessionState Flow)
    (classifier : κ) (state : σ) : Prop where
  classified : (classify host classifier).1 = .blocked
  asked : hostsAsked classify resolve packet session classifier state = [host]
  calls : resolverCalls classify resolve packet session classifier state = []
  handled : handlePacket classify resolve packet session classifier state =
    ⟨.ok (), answerLocally flow message.blockedResponse session, [.queries .blocked],
      (classify host classifier).2, state⟩

theorem AsksAbout.answeredAsBlocked {classify : Classifier κ} (resolve : Resolver σ Flow)
    {packet payload : Bytes} {flow : Flow} {server : Endpoint} {message : Dns.Message}
    {host : String} {session : SessionState Flow} {classifier : κ} (state : σ)
    (hask : AsksAbout session.servers packet flow server payload message host)
    (hclass : (classify host classifier).1 = .blocked) :
    AnsweredAsBlocked classify resolve packet flow message host session classifier state := by
  have hdns : TunnelRequest.ofPacket session.servers packet =
      .dns ⟨flow, server, payload, message, host⟩ := TunnelRequest.ofPacket_eq_dns_iff.2 hask
  have hc : classify host classifier = (.blocked, (classify host classifier).2) := by
    rw [← hclass]
  have hl : classify.logged host (classifier, []) =
      (.blocked, (classify host classifier).2, [host]) := by
    rw [← hclass]
    rfl
  have hlogged : handleLogged classify resolve packet session classifier state =
      ⟨.ok (), answerLocally flow message.blockedResponse session, [.queries .blocked],
        ((classify host classifier).2, [host]), (state, [])⟩ := by
    rw [handleLogged, handlePacket_dns _ _ _ _ _ hdns, handleDns_blocked _ _ _ _ _ hl]
  refine ⟨hclass, ?_, ?_, ?_⟩
  · rw [hostsAsked, hlogged]
  · rw [resolverCalls, hlogged]
  · rw [handlePacket_dns _ _ _ _ _ hdns, handleDns_blocked _ _ _ _ _ hc]

theorem classify_eq_blocked {lists : RuleLists} {pattern : PlainPattern} {name : Dns.Name}
    (hblocked : pattern.text ∈ lists.blocked) (hcovers : pattern.Covers name)
    (hallowed : ∀ text ∈ lists.allowed, (HostPattern.ofText text).covers name.host = false)
    (hredirected : ∀ entry ∈ lists.redirected,
      (HostPattern.ofText entry.1).covers name.host = false) :
    (HostRules.ofLists lists).classify name.host = .blocked := by
  have hnormal : normalizeHost name.host = name.host := normalizeHost_normalizeHost name.text
  rw [HostRules.classify_eq_decide]
  apply RuleLists.decide_eq_blocked hblocked
  · rw [hnormal]
    exact PlainPattern.covers_host hcovers
  · rw [hnormal]
    exact hallowed
  · rw [hnormal]
    exact hredirected

theorem Engine.classify_cacheAfter (engine : Engine) (capacity : Nat) (uses : List CacheUse)
    (host : String) :
    (engine.classify host (engine.cacheAfter capacity uses)).1 = engine.rules.classify host :=
  CachedClassifier.classification_after_uses capacity uses host

/-- A request about a blocked name is answered here, with the rules alone and with any cache that
was in use in front of them. -/
theorem blockedName_answered (settings : Settings) (capacity : Nat) (uses : List CacheUse)
    (resolve : Resolver σ Flow) (session : SessionState Flow) (state : σ) {packet payload : Bytes}
    {flow : Flow} {address : IpAddress} {message : Dns.Message} {question : Dns.Question}
    {pattern : PlainPattern}
    (hdatagram : Packet.datagram? packet = some (flow, payload))
    (hmapped : session.servers.reverseLookup flow.destination = some address)
    (hdecoded : Dns.Message.decode payload = .ok message)
    (hquestion : message.questions.head? = some question)
    (hblocked : pattern.text ∈ settings.rules.blocked) (hcovers : pattern.Covers question.name)
    (hallowed : ∀ text ∈ settings.rules.allowed,
      (HostPattern.ofText text).covers question.name.host = false)
    (hredirected : ∀ entry ∈ settings.rules.redirected,
      (HostPattern.ofText entry.1).covers question.name.host = false) :
    let engine := Engine.ofSettings settings
    AnsweredAsBlocked engine.rules.classifier resolve packet flow message question.name.host session
        () state ∧
      AnsweredAsBlocked engine.classify resolve packet flow message question.name.host session
        (engine.cacheAfter capacity uses) state := by
  intro engine
  have hask : AsksAbout session.servers packet flow ⟨address, flow.destinationPort⟩ payload
      message question.name.host :=
    ⟨hdatagram, hmapped, rfl, hdecoded, question, hquestion, rfl⟩
  have hclass : engine.rules.classify question.name.host = .blocked :=
    classify_eq_blocked hblocked hcovers hallowed hredirected
  have hcached := engine.classify_cacheAfter capacity uses question.name.host
  rw [hclass] at hcached
  exact ⟨hask.answeredAsBlocked resolve state hclass, hask.answeredAsBlocked resolve state hcached⟩

def belowExample : PlainPattern :=
  ⟨true, [[69, 120, 97, 109, 112, 108, 101], [99, 111, 109]], 2, by decide⟩

def belowExampleLists : RuleLists :=
  ⟨[belowExample.text], ["*.example.org"], [("example.com", "9.9.9.9")]⟩

theorem blockedName_answered_mixedCase :
    belowExample.Covers mixedCaseName ∧
      AnsweredAsBlocked (Engine.ofSettings { rules := belowExampleLists }).rules.classifier
        (Forwarder.resolve UdpPath.offline 0) mixedCasePacket mixedCaseFlow mixedCaseMessage
        mixedCaseName.host (.new oneServer 1) () .udp ∧
      AnsweredAsBlocked (Engine.ofSettings { rules := belowExampleLists }).classify
        (Forwarder.resolve UdpPath.offline 0) mixedCasePacket mixedCaseFlow mixedCaseMessage
        mixedCaseName.host (.new oneServer 1)
        ((Engine.ofSettings { rules := belowExampleLists }).cacheAfter 1 [.lookup "ab.example.com"])
        .udp := by
  have hcovers : belowExample.Covers mixedCaseName := ⟨by decide, by decide⟩
  refine ⟨hcovers, ?_⟩
  apply blockedName_answered { rules := belowExampleLists } 1 [.lookup "ab.example.com"]
    (Forwarder.resolve UdpPath.offline 0) (.new oneServer 1) .udp mixedCase_asksAbout.datagram
    mixedCase_asksAbout.mapped mixedCase_asksAbout.decoded rfl List.mem_cons_self hcovers
  · intro text htext
    obtain rfl := List.mem_singleton.1 htext
    cbv
  · intro entry hentry
    obtain rfl := List.mem_singleton.1 hentry
    cbv

end Sinkhole
