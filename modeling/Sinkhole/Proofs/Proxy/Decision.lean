import Sinkhole.Proofs.Forwarding.Resolvers
import Sinkhole.Proofs.Proxy.Requests

/-! # The decision about a packet

Handling a packet asks the classifier and the resolver at most once each. To say so, both are run
with a log of what they were asked; the log changes nothing else. The main statement then says for
every packet whether the resolver is asked and with what, which counter grows, and what is left of
the session when the resolver is not asked or fails.
-/
namespace Sinkhole

variable {κ σ : Type}

/-- A query that a resolver was asked, and what it said besides changing the session. -/
structure ResolverCall where
  query : ForwardedQuery Flow
  result : Except Error Resolution
  counters : List Counter

/-- The classifier with a log of the hosts it was asked about. -/
def Classifier.logged (classify : Classifier κ) : Classifier (κ × List String) :=
  fun host state =>
    let (classification, next) := classify host state.1
    (classification, next, state.2 ++ [host])

def Resolver.logged (resolve : Resolver σ Flow) : Resolver (σ × List ResolverCall) Flow :=
  fun query session state =>
    let resolved := resolve query session state.1
    ⟨resolved.result, resolved.session, resolved.counters, resolved.state,
      state.2 ++ [⟨query, resolved.result, resolved.counters⟩]⟩

def DnsRequest.query (request : DnsRequest) : ForwardedQuery Flow :=
  ⟨request.server, request.payload, some request.flow⟩

/-- The answer that a decision calls for without asking anyone. -/
def Classification.localAnswer? : Classification → Dns.Message → Option Dns.Message
  | .blocked, request => some request.blockedResponse
  | .redirected target, request => some (request.redirectedResponse target)
  | .allowed, _ => none

def Classification.action : Classification → QueryAction
  | .blocked => .blocked
  | .allowed => .allowed
  | .redirected _ => .redirected

def HostRules.classifier (rules : HostRules) : Classifier Unit :=
  fun host _ => (rules.classify host, ())

/-- The classifier that has nothing against any host. -/
def allowAll : Classifier Unit := fun _ _ => (.allowed, ())

section Cases

variable (classify : Classifier κ) (resolve : Resolver σ Flow) (session : SessionState Flow)
variable (classifier : κ) (state : σ)

theorem handlePacket_drop {packet : Bytes} {reason : DropReason}
    (h : TunnelRequest.ofPacket session.servers packet = .drop reason) :
    handlePacket classify resolve packet session classifier state =
      ⟨.ok (), session, [.queries .dropped], classifier, state⟩ := by
  simp only [handlePacket, h]

theorem handlePacket_keepAlive {packet : Bytes} {server : Endpoint}
    (h : TunnelRequest.ofPacket session.servers packet = .keepAlive server) :
    handlePacket classify resolve packet session classifier state =
      let resolved := resolve ⟨server, [], none⟩ session state
      ⟨resolved.result.map fun _ => (), resolved.session, resolved.counters, classifier,
        resolved.state⟩ := by
  simp only [handlePacket, h]

theorem handlePacket_dns {packet : Bytes} {request : DnsRequest}
    (h : TunnelRequest.ofPacket session.servers packet = .dns request) :
    handlePacket classify resolve packet session classifier state =
      handleDns classify resolve request session classifier state := by
  simp only [handlePacket, h]

theorem handleDns_blocked {request : DnsRequest} {next : κ}
    (h : classify request.host classifier = (.blocked, next)) :
    handleDns classify resolve request session classifier state =
      ⟨.ok (), answerLocally request.flow request.message.blockedResponse session,
        [.queries .blocked], next, state⟩ := by
  simp only [handleDns, h]

theorem handleDns_redirected {request : DnsRequest} {next : κ} {target : String}
    (h : classify request.host classifier = (.redirected target, next)) :
    handleDns classify resolve request session classifier state =
      ⟨.ok (), answerLocally request.flow (request.message.redirectedResponse target) session,
        [.queries .redirected], next, state⟩ := by
  simp only [handleDns, h]

theorem handleDns_allowed {request : DnsRequest} {next : κ}
    (h : classify request.host classifier = (.allowed, next)) :
    handleDns classify resolve request session classifier state =
      forwardRequest resolve request session next state := by
  simp only [handleDns, h]

theorem forwardRequest_fields (request : DnsRequest) :
    let handled := forwardRequest resolve request session classifier state
    handled.counters = .queries .allowed :: (resolve request.query session state).counters ∧
      handled.classifier = classifier ∧
      handled.resolver = (resolve request.query session state).state ∧
      handled.result = (resolve request.query session state).result.map fun _ => () := by
  simp only [forwardRequest, DnsRequest.query]
  cases (resolve ⟨request.server, request.payload, some request.flow⟩ session state).result with
  | error cause => exact ⟨rfl, rfl, rfl, rfl⟩
  | ok resolution => cases resolution <;> exact ⟨rfl, rfl, rfl, rfl⟩

theorem forwardRequest_session {request : DnsRequest}
    (h : ∀ answer, (resolve request.query session state).result ≠ .ok (.immediate answer)) :
    (forwardRequest resolve request session classifier state).session =
      (resolve request.query session state).session := by
  rw [DnsRequest.query] at h
  simp only [forwardRequest, DnsRequest.query]
  generalize resolve ⟨request.server, request.payload, some request.flow⟩ session state = resolved
    at h ⊢
  cases hresult : resolved.result with
  | error cause => rfl
  | ok resolution =>
    cases resolution with
    | pending => rfl
    | immediate answer => exact absurd hresult (h answer)
    | dropped => rfl

end Cases

theorem queueAnswer_eq_or (flow : Flow) (answer : Bytes) (session : SessionState Flow) :
    queueAnswer flow answer session = session ∨
      ∃ packet, Packet.response answer flow = .ok packet ∧
        queueAnswer flow answer session = session.queue packet := by
  cases h : Packet.response answer flow with
  | error cause =>
    left
    simp only [queueAnswer, h]
  | ok packet =>
    right
    refine ⟨packet, rfl, ?_⟩
    simp only [queueAnswer, h]

theorem answerLocally_eq_or (flow : Flow) (response : Dns.Message) (session : SessionState Flow) :
    answerLocally flow response session = session ∨
      ∃ answer packet, response.encode = .ok answer ∧ Packet.response answer flow = .ok packet ∧
        answerLocally flow response session = session.queue packet := by
  unfold answerLocally
  cases response.encode with
  | error cause => exact Or.inl rfl
  | ok answer =>
    rcases queueAnswer_eq_or flow answer session with hsame | ⟨packet, hpacket, hqueued⟩
    · exact Or.inl hsame
    · exact Or.inr ⟨answer, packet, rfl, hpacket, hqueued⟩

section Asked

variable (classify : Classifier κ) (resolve : Resolver σ Flow) (packet : Bytes)
variable (session : SessionState Flow) (classifier : κ) (state : σ)

def handleLogged : Handled (κ × List String) (σ × List ResolverCall) :=
  handlePacket classify.logged resolve.logged packet session (classifier, []) (state, [])

def hostsAsked : List String :=
  (handleLogged classify resolve packet session classifier state).classifier.2

def resolverCalls : List ResolverCall :=
  (handleLogged classify resolve packet session classifier state).resolver.2

def Handled.erase (handled : Handled (κ × List String) (σ × List ResolverCall)) : Handled κ σ :=
  ⟨handled.result, handled.session, handled.counters, handled.classifier.1, handled.resolver.1⟩

def callOf (query : ForwardedQuery Flow) : ResolverCall :=
  ⟨query, (resolve query session state).result, (resolve query session state).counters⟩

theorem erase_forwardRequest (request : DnsRequest) (hosts : List String)
    (calls : List ResolverCall) :
    (forwardRequest resolve.logged request session (classifier, hosts) (state, calls)).erase =
      forwardRequest resolve request session classifier state := by
  simp only [forwardRequest, Resolver.logged]
  cases (resolve ⟨request.server, request.payload, some request.flow⟩ session state).result with
  | error cause => rfl
  | ok resolution => cases resolution <;> rfl

/-- The logs change nothing. -/
theorem erase_handleLogged :
    (handleLogged classify resolve packet session classifier state).erase =
      handlePacket classify resolve packet session classifier state := by
  unfold handleLogged
  cases h : TunnelRequest.ofPacket session.servers packet with
  | drop reason => rw [handlePacket_drop _ _ _ _ _ h, handlePacket_drop _ _ _ _ _ h]; rfl
  | keepAlive server =>
    rw [handlePacket_keepAlive _ _ _ _ _ h, handlePacket_keepAlive _ _ _ _ _ h]; rfl
  | dns request =>
    rw [handlePacket_dns _ _ _ _ _ h, handlePacket_dns _ _ _ _ _ h]
    rcases hc : classify request.host classifier with ⟨classification, next⟩
    have hl : classify.logged request.host (classifier, []) =
        (classification, next, [request.host]) := by
      simp only [Classifier.logged, hc, List.nil_append]
    cases classification with
    | blocked => rw [handleDns_blocked _ _ _ _ _ hc, handleDns_blocked _ _ _ _ _ hl]; rfl
    | redirected target =>
      rw [handleDns_redirected _ _ _ _ _ hc, handleDns_redirected _ _ _ _ _ hl]; rfl
    | allowed =>
      rw [handleDns_allowed _ _ _ _ _ hc, handleDns_allowed _ _ _ _ _ hl]
      exact erase_forwardRequest resolve session next state request _ _

/-- Everything that handling can come to, with the logs. -/
inductive HandlingCase : List String → List ResolverCall → Handled κ σ → Prop where
  | dropped (hkeep : ∀ server, ¬ KeepsAlive session.servers packet server)
      (hask : ∀ flow server payload message host,
        ¬ AsksAbout session.servers packet flow server payload message host) :
      HandlingCase [] [] ⟨.ok (), session, [.queries .dropped], classifier, state⟩
  | keptAlive {server : Endpoint} (hkeep : KeepsAlive session.servers packet server) :
      HandlingCase [] [callOf resolve session state ⟨server, [], none⟩]
        ⟨(resolve ⟨server, [], none⟩ session state).result.map fun _ => (),
          (resolve ⟨server, [], none⟩ session state).session,
          (resolve ⟨server, [], none⟩ session state).counters, classifier,
          (resolve ⟨server, [], none⟩ session state).state⟩
  | answered {request : DnsRequest} {classification : Classification} {next : κ}
      {response : Dns.Message}
      (hask : AsksAbout session.servers packet request.flow request.server request.payload
        request.message request.host)
      (hclass : classify request.host classifier = (classification, next))
      (hlocal : classification.localAnswer? request.message = some response) :
      HandlingCase [request.host] []
        ⟨.ok (), answerLocally request.flow response session, [.queries classification.action],
          next, state⟩
  | forwarded {request : DnsRequest} {next : κ}
      (hask : AsksAbout session.servers packet request.flow request.server request.payload
        request.message request.host)
      (hclass : classify request.host classifier = (.allowed, next)) :
      HandlingCase [request.host] [callOf resolve session state request.query]
        (forwardRequest resolve request session next state)

theorem handlePacket_cases :
    HandlingCase classify resolve packet session classifier state
      (hostsAsked classify resolve packet session classifier state)
      (resolverCalls classify resolve packet session classifier state)
      (handlePacket classify resolve packet session classifier state) := by
  unfold hostsAsked resolverCalls handleLogged
  cases h : TunnelRequest.ofPacket session.servers packet with
  | drop reason =>
    rw [handlePacket_drop _ _ _ _ _ h, handlePacket_drop _ _ _ _ _ h]
    refine .dropped ?_ ?_
    · intro server hkeep
      have hsame := h.symm.trans (TunnelRequest.ofPacket_eq_keepAlive_iff.2 hkeep)
      cases hsame
    · intro flow server payload message host hask
      have hdns : TunnelRequest.ofPacket session.servers packet =
          .dns ⟨flow, server, payload, message, host⟩ :=
        TunnelRequest.ofPacket_eq_dns_iff.2 hask
      have hsame := h.symm.trans hdns
      cases hsame
  | keepAlive server =>
    rw [handlePacket_keepAlive _ _ _ _ _ h, handlePacket_keepAlive _ _ _ _ _ h]
    exact .keptAlive (TunnelRequest.ofPacket_eq_keepAlive_iff.1 h)
  | dns request =>
    have hask := TunnelRequest.ofPacket_eq_dns_iff.1 h
    rw [handlePacket_dns _ _ _ _ _ h, handlePacket_dns _ _ _ _ _ h]
    rcases hc : classify request.host classifier with ⟨classification, next⟩
    have hl : classify.logged request.host (classifier, []) =
        (classification, next, [request.host]) := by
      simp only [Classifier.logged, hc, List.nil_append]
    cases classification with
    | blocked =>
      rw [handleDns_blocked _ _ _ _ _ hc, handleDns_blocked _ _ _ _ _ hl]
      exact .answered hask hc rfl
    | redirected target =>
      rw [handleDns_redirected _ _ _ _ _ hc, handleDns_redirected _ _ _ _ _ hl]
      exact .answered hask hc rfl
    | allowed =>
      rw [handleDns_allowed _ _ _ _ _ hc, handleDns_allowed _ _ _ _ _ hl]
      have hfields := forwardRequest_fields resolve.logged session (next, [request.host])
        (state, []) request
      rw [hfields.2.1, hfields.2.2.1]
      exact .forwarded hask hc

/-- The queries that a packet is to lead to: for a keep-alive an empty one without a reply, for a
message about an allowed host its payload as it came, with a reply. -/
inductive Forwards : ForwardedQuery Flow → Prop where
  | keepAlive {server : Endpoint} (hkeep : KeepsAlive session.servers packet server) :
      Forwards ⟨server, [], none⟩
  | allowed {flow : Flow} {server : Endpoint} {payload : Bytes} {message : Dns.Message}
      {host : String} (hask : AsksAbout session.servers packet flow server payload message host)
      (hallowed : (classify host classifier).1 = .allowed) :
      Forwards ⟨server, payload, some flow⟩

/-- The counters that handling adds itself, besides those of the resolver. -/
inductive Counts : List Counter → Prop where
  | keepAlive {server : Endpoint} (hkeep : KeepsAlive session.servers packet server) : Counts []
  | asked {flow : Flow} {server : Endpoint} {payload : Bytes} {message : Dns.Message}
      {host : String} (hask : AsksAbout session.servers packet flow server payload message host) :
      Counts [.queries (classify host classifier).1.action]
  | dropped (hkeep : ∀ server, ¬ KeepsAlive session.servers packet server)
      (hask : ∀ flow server payload message host,
        ¬ AsksAbout session.servers packet flow server payload message host) :
      Counts [.queries .dropped]

/-- What handling a packet asks, counts and leaves behind. -/
structure ExactHandling (hosts : List String) (calls : List ResolverCall) (handled : Handled κ σ) :
    Prop where
  calls_le_one : calls.length ≤ 1
  called_iff : ∀ query, (∃ call ∈ calls, call.query = query) ↔
    Forwards classify packet session classifier query
  reply_iff : ∀ call ∈ calls, call.query.reply.isSome ↔ call.query.payload ≠ []
  hosts_le_one : hosts.length ≤ 1
  asked_iff : ∀ host, host ∈ hosts ↔ ∃ flow server payload message,
    AsksAbout session.servers packet flow server payload message host
  uncalled : calls = [] → handled.session = session ∨
    ∃ queued, handled.session = session.queue queued
  counted : ∃ own, Counts classify packet session classifier own ∧
    handled.counters = own ++ calls.flatMap (·.counters)
  failed_iff : ∀ error, handled.result = .error error ↔
    ∃ call ∈ calls, call.result = .error error
  failed_outbound : ∀ error, handled.result = .error error →
    handled.session.outbound = session.outbound

end Asked

section Exact

variable {classify : Classifier κ} {resolve : Resolver σ Flow} {packet : Bytes}
variable {session : SessionState Flow} {classifier : κ} {state : σ}

theorem map_const_eq_error_iff {α : Type} {result : Except Error α} {error : Error} :
    (result.map fun _ => ()) = .error error ↔ result = .error error := by
  cases result <;> simp [Except.map]

theorem exactHandling_dropped (hkeep : ∀ server, ¬ KeepsAlive session.servers packet server)
    (hask : ∀ flow server payload message host,
      ¬ AsksAbout session.servers packet flow server payload message host) :
    ExactHandling classify packet session classifier [] []
      (⟨.ok (), session, [.queries .dropped], classifier, state⟩ : Handled κ σ) where
  calls_le_one := Nat.zero_le _
  called_iff := by
    intro query
    constructor
    · rintro ⟨call, hcall, -⟩
      cases hcall
    · intro hforwards
      cases hforwards with
      | keepAlive h => exact absurd h (hkeep _)
      | allowed h _ => exact absurd h (hask _ _ _ _ _)
  reply_iff := by
    intro call hcall
    cases hcall
  hosts_le_one := Nat.zero_le _
  asked_iff := by
    intro host
    constructor
    · intro hhost
      cases hhost
    · rintro ⟨flow, server, payload, message, h⟩
      exact absurd h (hask _ _ _ _ _)
  uncalled := fun _ => Or.inl rfl
  counted := ⟨_, .dropped hkeep hask, rfl⟩
  failed_iff := by
    intro error
    constructor
    · intro hfailed
      cases hfailed
    · rintro ⟨call, hcall, -⟩
      cases hcall
  failed_outbound := fun _ _ => rfl

theorem exactHandling_keptAlive (hresolve : resolve.LeavesOutbound) {server : Endpoint}
    (hkeep : KeepsAlive session.servers packet server) :
    ExactHandling classify packet session classifier []
      [callOf resolve session state ⟨server, [], none⟩]
      (⟨(resolve ⟨server, [], none⟩ session state).result.map fun _ => (),
        (resolve ⟨server, [], none⟩ session state).session,
        (resolve ⟨server, [], none⟩ session state).counters, classifier,
        (resolve ⟨server, [], none⟩ session state).state⟩ : Handled κ σ) where
  calls_le_one := Nat.le_refl _
  called_iff := by
    intro query
    constructor
    · rintro ⟨call, hcall, rfl⟩
      obtain rfl := List.mem_singleton.1 hcall
      exact .keepAlive hkeep
    · intro hforwards
      refine ⟨_, List.mem_singleton_self _, ?_⟩
      cases hforwards with
      | keepAlive h => rw [hkeep.unique h]; rfl
      | allowed h _ => exact absurd h hkeep.not_asksAbout
  reply_iff := by
    intro call hcall
    obtain rfl := List.mem_singleton.1 hcall
    simp [callOf]
  hosts_le_one := Nat.zero_le _
  asked_iff := by
    intro host
    constructor
    · intro hhost
      cases hhost
    · rintro ⟨flow, server', payload, message, h⟩
      exact absurd h hkeep.not_asksAbout
  uncalled := by
    intro hcalls
    cases hcalls
  counted := ⟨[], .keepAlive hkeep, by simp [callOf]⟩
  failed_iff := by
    intro error
    simp only [map_const_eq_error_iff, List.mem_singleton, exists_eq_left, callOf]
  failed_outbound := fun _ _ => hresolve _ _ _

theorem exactHandling_answered {request : DnsRequest} {classification : Classification} {next : κ}
    {response : Dns.Message}
    (hask : AsksAbout session.servers packet request.flow request.server request.payload
      request.message request.host)
    (hclass : classify request.host classifier = (classification, next))
    (hlocal : classification.localAnswer? request.message = some response) :
    ExactHandling classify packet session classifier [request.host] []
      (⟨.ok (), answerLocally request.flow response session, [.queries classification.action],
        next, state⟩ : Handled κ σ) where
  calls_le_one := Nat.zero_le _
  called_iff := by
    intro query
    constructor
    · rintro ⟨call, hcall, -⟩
      cases hcall
    · intro hforwards
      cases hforwards with
      | keepAlive h => exact absurd hask h.not_asksAbout
      | allowed h hallowed =>
        rw [← hask.host_unique h, hclass] at hallowed
        obtain rfl : classification = .allowed := hallowed
        cases hlocal
  reply_iff := by
    intro call hcall
    cases hcall
  hosts_le_one := Nat.le_refl _
  asked_iff := fun _ => hask.mem_singleton_iff
  uncalled := by
    intro _
    rcases answerLocally_eq_or request.flow response session with
      hsame | ⟨answer, packet, -, -, hqueued⟩
    · exact Or.inl hsame
    · exact Or.inr ⟨packet, hqueued⟩
  counted := by
    have hcounts : Counts classify packet session classifier
        [.queries (classify request.host classifier).1.action] := .asked hask
    rw [hclass] at hcounts
    exact ⟨_, hcounts, (List.append_nil _).symm⟩
  failed_iff := by
    intro error
    constructor
    · intro hfailed
      cases hfailed
    · rintro ⟨call, hcall, -⟩
      cases hcall
  failed_outbound := by
    intro error hfailed
    cases hfailed

theorem exactHandling_forwarded (hresolve : resolve.LeavesOutbound) {request : DnsRequest}
    {next : κ}
    (hask : AsksAbout session.servers packet request.flow request.server request.payload
      request.message request.host)
    (hclass : classify request.host classifier = (.allowed, next)) :
    ExactHandling classify packet session classifier [request.host]
      [callOf resolve session state request.query]
      (forwardRequest resolve request session next state) where
  calls_le_one := Nat.le_refl _
  called_iff := by
    intro query
    constructor
    · rintro ⟨call, hcall, rfl⟩
      obtain rfl := List.mem_singleton.1 hcall
      exact .allowed hask (by rw [hclass])
    · intro hforwards
      refine ⟨_, List.mem_singleton_self _, ?_⟩
      cases hforwards with
      | keepAlive h => exact absurd hask h.not_asksAbout
      | @allowed flow server payload message host h _ =>
        have hsame : request = ⟨flow, server, payload, message, host⟩ := hask.request_unique h
        rw [hsame]
        rfl
  reply_iff := by
    intro call hcall
    obtain rfl := List.mem_singleton.1 hcall
    exact iff_of_true rfl hask.payload_ne_nil
  hosts_le_one := Nat.le_refl _
  asked_iff := fun _ => hask.mem_singleton_iff
  uncalled := by
    intro hcalls
    cases hcalls
  counted := by
    have hcounts : Counts classify packet session classifier
        [.queries (classify request.host classifier).1.action] := .asked hask
    rw [hclass] at hcounts
    refine ⟨_, hcounts, ?_⟩
    rw [(forwardRequest_fields resolve session next state request).1]
    simp [callOf, Classification.action]
  failed_iff := by
    intro error
    rw [(forwardRequest_fields resolve session next state request).2.2.2, map_const_eq_error_iff]
    simp only [List.mem_singleton, exists_eq_left, callOf]
  failed_outbound := by
    intro error hfailed
    rw [(forwardRequest_fields resolve session next state request).2.2.2,
      map_const_eq_error_iff] at hfailed
    have hanswer : ∀ answer,
        (resolve request.query session state).result ≠ .ok (.immediate answer) := by
      intro answer hok
      rw [hfailed] at hok
      cases hok
    rw [forwardRequest_session resolve session next state hanswer]
    exact hresolve _ _ _

end Exact

/-- Handling any packet asks, counts and leaves behind exactly what it is to; the logs that tell
whom it asked change nothing. -/
theorem handlePacket_exact (classify : Classifier κ) (resolve : Resolver σ Flow)
    (hresolve : resolve.LeavesOutbound) (packet : Bytes) (session : SessionState Flow)
    (classifier : κ) (state : σ) :
    (handleLogged classify resolve packet session classifier state).erase =
        handlePacket classify resolve packet session classifier state ∧
      ExactHandling classify packet session classifier
        (hostsAsked classify resolve packet session classifier state)
        (resolverCalls classify resolve packet session classifier state)
        (handlePacket classify resolve packet session classifier state) := by
  refine ⟨erase_handleLogged classify resolve packet session classifier state, ?_⟩
  have hcases := handlePacket_cases classify resolve packet session classifier state
  generalize hostsAsked classify resolve packet session classifier state = hosts at hcases ⊢
  generalize resolverCalls classify resolve packet session classifier state = calls at hcases ⊢
  generalize handlePacket classify resolve packet session classifier state = handled at hcases ⊢
  cases hcases with
  | dropped hkeep hask => exact exactHandling_dropped hkeep hask
  | keptAlive hkeep => exact exactHandling_keptAlive hresolve hkeep
  | answered hask hclass hlocal => exact exactHandling_answered hask hclass hlocal
  | forwarded hask hclass => exact exactHandling_forwarded hresolve hask hclass

/-- An allowed query on a host without any route: the resolver is handed the payload as it is, for
the server behind the synthetic address, and the flow to reply to. -/
theorem handlePacket_exact_offline :
    let resolve : Resolver Forwarder Flow := Forwarder.resolve UdpPath.offline 0
    let session : SessionState Flow := .new oneServer 1
    resolve.LeavesOutbound ∧
      (handleLogged allowAll resolve mixedCasePacket session () .udp).erase =
          handlePacket allowAll resolve mixedCasePacket session () .udp ∧
      ExactHandling allowAll mixedCasePacket session ()
        (hostsAsked allowAll resolve mixedCasePacket session () .udp)
        (resolverCalls allowAll resolve mixedCasePacket session () .udp)
        (handlePacket allowAll resolve mixedCasePacket session () .udp) ∧
      hostsAsked allowAll resolve mixedCasePacket session () .udp = ["ab.example.com"] ∧
      (resolverCalls allowAll resolve mixedCasePacket session () .udp).map (·.query) =
        [⟨⟨.v4 (Vector.replicate 4 9), 53⟩, mixedCasePayload, some mixedCaseFlow⟩] := by
  intro resolve session
  obtain ⟨herased, hexact⟩ := handlePacket_exact allowAll resolve (Forwarder.leavesOutbound _ _)
    mixedCasePacket session () .udp
  refine ⟨Forwarder.leavesOutbound _ _, herased, hexact, ?_, ?_⟩
  · have hhost := (hexact.asked_iff "ab.example.com").2 ⟨_, _, _, _, mixedCase_asksAbout⟩
    obtain ⟨host, hhosts⟩ := List.length_eq_one_iff.1
      (le_antisymm hexact.hosts_le_one (List.length_pos_of_mem hhost))
    rw [hhosts] at hhost ⊢
    rw [List.mem_singleton.1 hhost]
  · obtain ⟨call, hcall, hquery⟩ := (hexact.called_iff _).2 (.allowed mixedCase_asksAbout rfl)
    obtain ⟨only, honly⟩ := List.length_eq_one_iff.1
      (le_antisymm hexact.calls_le_one (List.length_pos_of_mem hcall))
    rw [honly] at hcall ⊢
    rw [List.map_singleton, ← List.mem_singleton.1 hcall, hquery]

end Sinkhole
