import Sinkhole.Proofs.Forwarding.Relaying
import Sinkhole.Proofs.Packet.Pool

/-! # The transport makes no difference

What is decided about a packet is decided before any resolver is asked, so proxies that differ in
their resolver decide alike. An allowed request is then answered with the same packet however its
answer comes: at once, from a query socket or as a completion.
-/
namespace Sinkhole

variable {κ σ τ : Type}

/-- What handling a packet comes to before any resolver is asked. -/
structure Decision (κ : Type) where
  hosts : List String
  query : Option (ForwardedQuery Flow)
  /-- What it is counted as; keep-alives are not counted. -/
  action : Option QueryAction
  classifier : κ
  /-- The session that is left when no resolver is asked. -/
  session : SessionState Flow

def Classification.answered (classification : Classification) (request : DnsRequest)
    (session : SessionState Flow) : SessionState Flow :=
  match classification.localAnswer? request.message with
  | some response => answerLocally request.flow response session
  | none => session

def decisionOn (classify : Classifier κ) (packet : Bytes) (session : SessionState Flow)
    (classifier : κ) : Decision κ :=
  match TunnelRequest.ofPacket session.servers packet with
  | .drop _ => ⟨[], none, some .dropped, classifier, session⟩
  | .keepAlive server => ⟨[], some ⟨server, [], none⟩, none, classifier, session⟩
  | .dns request =>
    let (classification, next) := classify request.host classifier
    ⟨[request.host], if classification = .allowed then some request.query else none,
      some classification.action, next, classification.answered request session⟩

/-- Handling that decides as said and leaves the rest to its resolver. -/
structure Follows (decision : Decision κ) (hosts : List String) (calls : List ResolverCall)
    (handled : Handled κ σ) : Prop where
  hosts : hosts = decision.hosts
  queries : calls.map (·.query) = decision.query.toList
  counters : handled.counters =
    decision.action.toList.map .queries ++ calls.flatMap (·.counters)
  next : handled.classifier = decision.classifier
  here : decision.query = none →
    handled.session = decision.session ∧ handled.result = .ok ()

theorem decisionOn_dns {classify : Classifier κ} {packet : Bytes} {session : SessionState Flow}
    {classifier next : κ} {request : DnsRequest} {classification : Classification}
    (hask : AsksAbout session.servers packet request.flow request.server request.payload
      request.message request.host)
    (hclass : classify request.host classifier = (classification, next)) :
    decisionOn classify packet session classifier =
      ⟨[request.host], if classification = .allowed then some request.query else none,
        some classification.action, next, classification.answered request session⟩ := by
  rw [decisionOn, TunnelRequest.ofPacket_eq_dns_iff.2 hask]
  dsimp only
  rw [hclass]

theorem follows_decisionOn (classify : Classifier κ) (resolve : Resolver σ Flow) (packet : Bytes)
    (session : SessionState Flow) (classifier : κ) (state : σ) :
    Follows (decisionOn classify packet session classifier)
      (hostsAsked classify resolve packet session classifier state)
      (resolverCalls classify resolve packet session classifier state)
      (handlePacket classify resolve packet session classifier state) := by
  have hcases := handlePacket_cases classify resolve packet session classifier state
  generalize hostsAsked classify resolve packet session classifier state = hosts at hcases ⊢
  generalize resolverCalls classify resolve packet session classifier state = calls at hcases ⊢
  generalize handlePacket classify resolve packet session classifier state = handled at hcases ⊢
  cases hcases with
  | dropped hkeep hask =>
    have hdecision : decisionOn classify packet session classifier =
        ⟨[], none, some .dropped, classifier, session⟩ := by
      rw [decisionOn]
      split
      · rfl
      · rename_i server hpacket
        exact absurd (TunnelRequest.ofPacket_eq_keepAlive_iff.1 hpacket) (hkeep server)
      · rename_i request hpacket
        exact absurd (TunnelRequest.ofPacket_eq_dns_iff.1 hpacket) (hask _ _ _ _ _)
    rw [hdecision]
    exact ⟨rfl, rfl, rfl, rfl, fun _ => ⟨rfl, rfl⟩⟩
  | @keptAlive server hkeep =>
    have hdecision : decisionOn classify packet session classifier =
        ⟨[], some ⟨server, [], none⟩, none, classifier, session⟩ := by
      rw [decisionOn, TunnelRequest.ofPacket_eq_keepAlive_iff.2 hkeep]
    rw [hdecision]
    refine ⟨rfl, rfl, (List.append_nil _).symm, rfl, ?_⟩
    intro hnone
    cases hnone
  | @answered request classification next response hask hclass hlocal =>
    have hother : classification ≠ .allowed := by
      rintro rfl
      cases hlocal
    rw [decisionOn_dns hask hclass, if_neg hother]
    refine ⟨rfl, rfl, rfl, rfl, fun _ => ⟨?_, rfl⟩⟩
    rw [Classification.answered, hlocal]
  | @forwarded request next hask hclass =>
    rw [decisionOn_dns hask hclass, if_pos rfl]
    have hfields := forwardRequest_fields resolve session next state request
    refine ⟨rfl, rfl, ?_, hfields.2.1, ?_⟩
    · rw [hfields.1]
      simp only [callOf, List.flatMap_singleton]
      rfl
    · intro hnone
      cases hnone

theorem query_decisionOn_eq_none {classify : Classifier κ} {packet : Bytes}
    {session : SessionState Flow} {classifier : κ}
    (h : ∀ query, ¬ Forwards classify packet session classifier query) :
    (decisionOn classify packet session classifier).query = none := by
  rw [decisionOn]
  split
  · rfl
  · rename_i server hpacket
    exact absurd (.keepAlive (TunnelRequest.ofPacket_eq_keepAlive_iff.1 hpacket)) (h _)
  · rename_i request hpacket
    have hask := TunnelRequest.ofPacket_eq_dns_iff.1 hpacket
    apply if_neg
    intro hallowed
    exact h _ (.allowed hask hallowed)

section Alike

variable (classify : Classifier κ) (packet : Bytes) (session : SessionState Flow) (classifier : κ)
variable (resolve : Resolver σ Flow) (state : σ) (other : Resolver τ Flow) (otherState : τ)

/-- Handling a packet with either resolver asks the same, counts the same beside what the resolvers
count, and answers the same when nothing is to be forwarded. -/
structure DecidesAlike : Prop where
  hosts : hostsAsked classify resolve packet session classifier state =
    hostsAsked classify other packet session classifier otherState
  queries : (resolverCalls classify resolve packet session classifier state).map (·.query) =
    (resolverCalls classify other packet session classifier otherState).map (·.query)
  counters : ∃ action : Option QueryAction,
    (handlePacket classify resolve packet session classifier state).counters =
        action.toList.map .queries ++
          (resolverCalls classify resolve packet session classifier state).flatMap (·.counters) ∧
      (handlePacket classify other packet session classifier otherState).counters =
        action.toList.map .queries ++
          (resolverCalls classify other packet session classifier otherState).flatMap (·.counters)
  next : (handlePacket classify resolve packet session classifier state).classifier =
    (handlePacket classify other packet session classifier otherState).classifier
  here : (∀ query, ¬ Forwards classify packet session classifier query) →
    (handlePacket classify resolve packet session classifier state).session =
        (handlePacket classify other packet session classifier otherState).session ∧
      (handlePacket classify resolve packet session classifier state).result = .ok () ∧
      (handlePacket classify other packet session classifier otherState).result = .ok ()

theorem decidesAlike :
    DecidesAlike classify packet session classifier resolve state other otherState := by
  have hfirst := follows_decisionOn classify resolve packet session classifier state
  have hsecond := follows_decisionOn classify other packet session classifier otherState
  refine ⟨hfirst.hosts.trans hsecond.hosts.symm, hfirst.queries.trans hsecond.queries.symm,
    ⟨_, hfirst.counters, hsecond.counters⟩, hfirst.next.trans hsecond.next.symm, ?_⟩
  intro hnone
  have hquery := query_decisionOn_eq_none hnone
  obtain ⟨hsession, hresult⟩ := hfirst.here hquery
  obtain ⟨hsession', hresult'⟩ := hsecond.here hquery
  exact ⟨hsession.trans hsession'.symm, hresult, hresult'⟩

end Alike

/-- On its later ways an answer with this reply becomes this packet: as a datagram for any query
that is tracked with the reply, and as a completion in any session. -/
structure BecomesPacket (reply : Flow) (answer queued : Bytes) : Prop where
  drained : ∀ read socket created, read socket = .datagram answer →
    Tracker.DrainsTo read ⟨socket, reply, created⟩ queued
  completed : ∀ later : SessionState Flow, later.complete ⟨answer, reply⟩ = later.queue queued

theorem queueAnswer_eq_queue {session : SessionState Flow} {answer queued : Bytes} {flow : Flow}
    (h : Packet.response answer flow = .ok queued) :
    queueAnswer flow answer session = session.queue queued := by
  rw [queueAnswer, h]

theorem complete_eq_queue {session : SessionState Flow} {answer queued : Bytes} {reply : Flow}
    (h : Packet.response answer reply = .ok queued) :
    session.complete ⟨answer, reply⟩ = session.queue queued := by
  rw [SessionState.complete, show Completion.assemble ⟨answer, reply⟩ = .ok queued from h]

theorem becomesPacket_of_response {reply : Flow} {answer queued : Bytes}
    (h : Packet.response answer reply = .ok queued) (hfits : answer.length ≤ maxResponseSize) :
    BecomesPacket reply answer queued where
  drained := by
    intro read socket created hread
    apply drainsTo_of_response hread
    rw [List.take_of_length_le hfits]
    exact h
  completed := fun _ => complete_eq_queue h

section Delivered

variable (classify : Classifier κ) (packet : Bytes) (session : SessionState Flow) (classifier : κ)
variable (request : DnsRequest) (answer queued : Bytes)

/-- Whichever way the answer to a request comes, the packet that is queued is this one. -/
structure DeliveredAs : Prop where
  /-- The resolver has the answer at once. -/
  immediate : ∀ {σ : Type} (resolve : Resolver σ Flow) (state : σ),
    (resolve request.query session state).result = .ok (.immediate answer) →
      (handlePacket classify resolve packet session classifier state).session =
        (resolve request.query session state).session.queue queued
  /-- Any resolver keeps the reply that it was given for later. -/
  handed : ∀ {σ : Type} (resolve : Resolver σ Flow) (state : σ),
    ∀ call ∈ resolverCalls classify resolve packet session classifier state,
      ∃ reply, call.query.reply = some reply ∧ BecomesPacket reply answer queued
  /-- Over UDP the reply waits with the socket that was opened for the query. -/
  overUdp : ∀ path now, path request.server request.payload = .sent →
    ∃ query, (handlePacket classify (Forwarder.resolve path now) packet session classifier
        .udp).session.pending.queries.getLast? = some query ∧
      query.socket = session.socketsOpened ∧ BecomesPacket query.reply answer queued
  /-- Over HTTPS it waits with the request that was started for the query. -/
  overHttps : ∀ path now (resolver : HttpsResolver), resolver.free ≠ 0 →
    ∃ task, (handlePacket classify (Forwarder.resolve path now) packet session classifier
        (.https resolver)).session.tasks.getLast? = some task ∧
      task.number = session.tasksStarted ∧ BecomesPacket task.reply answer queued

end Delivered

theorem handlePacket_allowed (classify : Classifier κ) (resolve : Resolver σ Flow) (state : σ)
    {packet : Bytes} {session : SessionState Flow} {classifier : κ} {request : DnsRequest}
    (hask : AsksAbout session.servers packet request.flow request.server request.payload
      request.message request.host)
    (hallowed : (classify request.host classifier).1 = .allowed) :
    handlePacket classify resolve packet session classifier state =
      forwardRequest resolve request session (classify request.host classifier).2 state := by
  rw [handlePacket_dns _ _ _ _ _ (TunnelRequest.ofPacket_eq_dns_iff.2 hask)]
  apply handleDns_allowed
  rw [← hallowed]

theorem resolve_udp_of_sent {path : UdpPath} {request : DnsRequest} (now : Nat)
    (session : SessionState Flow) (hsent : path request.server request.payload = .sent) :
    Forwarder.resolve path now request.query session .udp =
      ⟨.ok .pending, (session.track now request.flow).1, (session.track now request.flow).2,
        .udp⟩ := by
  simp only [Forwarder.resolve, forwardUdp, DnsRequest.query, hsent]

theorem resolve_https_of_free (path : UdpPath) (now : Nat) (request : DnsRequest)
    (session : SessionState Flow) {resolver : HttpsResolver} (hfree : resolver.free ≠ 0) :
    Forwarder.resolve path now request.query session (.https resolver) =
      ⟨.ok .pending, session.startTask request.payload request.flow, [],
        .https { resolver with free := resolver.free - 1 }⟩ := by
  simp only [Forwarder.resolve, HttpsResolver.resolve, HttpsResolver.start, DnsRequest.query,
    if_neg hfree, SessionState.startTask]

theorem forwardRequest_session_of_pending {resolve : Resolver σ Flow} {request : DnsRequest}
    {session : SessionState Flow} {classifier : κ} {state : σ}
    (h : (resolve request.query session state).result = .ok .pending) :
    (forwardRequest resolve request session classifier state).session =
      (resolve request.query session state).session := by
  apply forwardRequest_session
  intro answer himmediate
  rw [h] at himmediate
  cases himmediate

theorem deliveredAs_of_response {classify : Classifier κ} {packet : Bytes}
    {session : SessionState Flow} {classifier : κ} {request : DnsRequest} {answer queued : Bytes}
    (hask : AsksAbout session.servers packet request.flow request.server request.payload
      request.message request.host)
    (hallowed : (classify request.host classifier).1 = .allowed)
    (hresponse : Packet.response answer request.flow = .ok queued)
    (hfits : answer.length ≤ maxResponseSize) :
    DeliveredAs classify packet session classifier request answer queued := by
  have hbecomes := becomesPacket_of_response hresponse hfits
  refine ⟨?_, ?_, ?_, ?_⟩
  · intro σ resolve state himmediate
    rw [handlePacket_allowed classify resolve state hask hallowed]
    rw [DnsRequest.query] at himmediate ⊢
    simp only [forwardRequest, himmediate]
    exact queueAnswer_eq_queue hresponse
  · intro σ resolve state call hcall
    -- The only call is the one that was decided on, and its query carries the flow.
    have hqueries := (follows_decisionOn classify resolve packet session classifier state).queries
    rw [decisionOn_dns hask (Prod.ext hallowed rfl), if_pos rfl] at hqueries
    have hmem := List.mem_map_of_mem (f := (·.query)) hcall
    rw [hqueries] at hmem
    rw [List.mem_singleton.1 hmem]
    exact ⟨request.flow, rfl, hbecomes⟩
  · intro path now hsent
    have hresolved := resolve_udp_of_sent now session hsent
    rw [handlePacket_allowed classify _ _ hask hallowed,
      forwardRequest_session_of_pending (by rw [hresolved]), hresolved]
    exact ⟨⟨session.socketsOpened, request.flow, now⟩, List.getLast?_concat, rfl, hbecomes⟩
  · intro path now resolver hfree
    have hresolved := resolve_https_of_free path now request session hfree
    rw [handlePacket_allowed classify _ _ hask hallowed,
      forwardRequest_session_of_pending (by rw [hresolved]), hresolved]
    exact ⟨⟨session.tasksStarted, request.payload, request.flow, none⟩, List.getLast?_concat, rfl,
      hbecomes⟩

/-- Proxies that differ in their resolver decide alike about every packet, and the answer to an
allowed request is queued in the same packet whichever way it comes and whatever the pool was used
for until then. -/
theorem transport_independent (classify : Classifier κ) (packet : Bytes)
    (session : SessionState Flow) (classifier : κ) :
    (∀ {σ τ : Type} (resolve : Resolver σ Flow) (state : σ) (other : Resolver τ Flow)
        (otherState : τ),
      DecidesAlike classify packet session classifier resolve state other otherState) ∧
    ∀ (request : DnsRequest) (answer : Bytes),
      AsksAbout session.servers packet request.flow request.server request.payload
        request.message request.host →
      (classify request.host classifier).1 = .allowed → answer.length ≤ maxResponseSize →
      ∃ queued, Packet.datagram? queued = some (request.flow.reversed, answer) ∧
        (∀ pool : BufferPool, pool.Clean →
          (Packet.buildResponse pool answer request.flow).1 = .ok queued) ∧
        DeliveredAs classify packet session classifier request answer queued := by
  refine ⟨decidesAlike classify packet session classifier, ?_⟩
  intro request answer hask hallowed hfits
  obtain ⟨queued, hresponse, hextracts⟩ := Packet.response_ok answer hask.oneFamily
  refine ⟨queued, hextracts (hfits.trans (maxResponseSize_le_maxPayload request.flow)), ?_,
    deliveredAs_of_response hask hallowed hresponse hfits⟩
  intro pool hclean
  exact (Packet.buildResponse_eq_response hclean answer request.flow).1.trans hresponse

def mixedCaseRequest : DnsRequest :=
  ⟨mixedCaseFlow, ⟨.v4 (Vector.replicate 4 9), 53⟩, mixedCasePayload, mixedCaseMessage,
    "ab.example.com"⟩

def blockAll : Classifier Unit := fun _ _ => (.blocked, ())

def answersAtOnce : Resolver Unit Flow := fun _ session _ => ⟨.ok (.immediate [7]), session, [], ()⟩

/-- An allowed query, whose answer becomes the same packet on every way, and a blocked one, which
is answered here with the same packet over UDP as in front of a resolver with an answer. -/
theorem transport_independent_mixedCase :
    ((AsksAbout oneServer mixedCasePacket mixedCaseFlow mixedCaseRequest.server mixedCasePayload
        mixedCaseMessage "ab.example.com" ∧
      (allowAll "ab.example.com" ()).1 = .allowed ∧
      (List.replicate 1024 (7 : UInt8)).length ≤ maxResponseSize) ∧
    ∃ queued, Packet.datagram? queued =
        some (mixedCaseFlow.reversed, List.replicate 1024 7) ∧
      (∀ pool : BufferPool, pool.Clean →
        (Packet.buildResponse pool (List.replicate 1024 7) mixedCaseFlow).1 = .ok queued) ∧
      DeliveredAs allowAll mixedCasePacket (.new oneServer 1) () mixedCaseRequest
        (List.replicate 1024 7) queued) ∧
    (∀ query, ¬ Forwards blockAll mixedCasePacket (.new oneServer 1) () query) ∧
    ∃ answer,
      (handlePacket blockAll (Forwarder.resolve .offline 0) mixedCasePacket (.new oneServer 1) ()
          .udp).session = (SessionState.new oneServer 1).queue answer ∧
      (handlePacket blockAll answersAtOnce mixedCasePacket (.new oneServer 1) () ()).session =
        (SessionState.new oneServer 1).queue answer := by
  have hfits : (List.replicate 1024 (7 : UInt8)).length ≤ maxResponseSize := by
    rw [List.length_replicate]
    exact Nat.le_refl _
  refine ⟨⟨⟨mixedCase_asksAbout, rfl, hfits⟩,
    (transport_independent allowAll mixedCasePacket (.new oneServer 1) ()).2 mixedCaseRequest
      (List.replicate 1024 7) mixedCase_asksAbout rfl hfits⟩, ?_⟩
  have hnone : ∀ query, ¬ Forwards blockAll mixedCasePacket (.new oneServer 1) () query := by
    intro query hforwards
    cases hforwards with
    | keepAlive hkeep => exact hkeep.not_asksAbout mixedCase_asksAbout
    | allowed _ hallowed => cases hallowed
  have halike := (transport_independent blockAll mixedCasePacket (.new oneServer 1) ()).1
    (Forwarder.resolve .offline 0) .udp answersAtOnce ()
  obtain ⟨answer, hanswer⟩ := mixedCase_blockedAnswer
  have hpacket : TunnelRequest.ofPacket (SessionState.new oneServer 1 : SessionState Flow).servers
      mixedCasePacket = .dns mixedCaseRequest :=
    TunnelRequest.ofPacket_eq_dns_iff.2 mixedCase_asksAbout
  have hudp : (handlePacket blockAll (Forwarder.resolve .offline 0) mixedCasePacket
      (.new oneServer 1) () .udp).session = (SessionState.new oneServer 1).queue answer := by
    rw [handlePacket_dns _ _ _ _ _ hpacket, handleDns_blocked _ _ _ _ _ rfl]
    exact hanswer _
  exact ⟨hnone, answer, hudp, (halike.here hnone).1.symm.trans hudp⟩

end Sinkhole
