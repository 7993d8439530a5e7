import Sinkhole.Counter
import Sinkhole.Proxy.Request
import Sinkhole.Rules.HostRules
import Sinkhole.Forwarding.Query

/-! # Handling tunnel packets

Blocked and redirected names are answered at once, allowed ones go to the resolver. Every answer
comes from the synthetic address that was asked. Only a failure of the resolver is an error.
-/
namespace Sinkhole

structure Handled (κ σ : Type) where
  result : Except Error Unit
  session : SessionState Flow
  counters : List Counter
  classifier : κ
  resolver : σ

/-- Queues the packet that carries an answer back, if it can be built. -/
def queueAnswer (flow : Flow) (answer : Bytes) (session : SessionState Flow) :
    SessionState Flow :=
  match Packet.response answer flow with
  | .ok packet => session.queue packet
  | .error _ => session

/-- Queues a message as the answer, if it can be written. -/
def answerLocally (flow : Flow) (response : Dns.Message) (session : SessionState Flow) :
    SessionState Flow :=
  match response.encode with
  | .ok octets => queueAnswer flow octets session
  | .error _ => session

variable {κ σ : Type}

/-- Hands an allowed request to the resolver. -/
def forwardRequest (resolve : Resolver σ Flow) (request : DnsRequest) (session : SessionState Flow)
    (classifier : κ) (state : σ) : Handled κ σ :=
  let resolved := resolve ⟨request.server, request.payload, some request.flow⟩ session state
  let counters := .queries .allowed :: resolved.counters
  match resolved.result with
  | .error error => ⟨.error error, resolved.session, counters, classifier, resolved.state⟩
  | .ok (.immediate answer) =>
    ⟨.ok (), queueAnswer request.flow answer resolved.session, counters, classifier,
      resolved.state⟩
  | .ok _ => ⟨.ok (), resolved.session, counters, classifier, resolved.state⟩

/-- Decides about a request and acts on the decision. -/
def handleDns (classify : Classifier κ) (resolve : Resolver σ Flow) (request : DnsRequest)
    (session : SessionState Flow) (classifier : κ) (state : σ) : Handled κ σ :=
  match classify request.host classifier with
  | (.blocked, classifier) =>
    ⟨.ok (), answerLocally request.flow request.message.blockedResponse session,
      [.queries .blocked], classifier, state⟩
  | (.redirected target, classifier) =>
    ⟨.ok (), answerLocally request.flow (request.message.redirectedResponse target) session,
      [.queries .redirected], classifier, state⟩
  | (.allowed, classifier) => forwardRequest resolve request session classifier state

def handlePacket (classify : Classifier κ) (resolve : Resolver σ Flow) (packet : Bytes)
    (session : SessionState Flow) (classifier : κ) (state : σ) : Handled κ σ :=
  match TunnelRequest.ofPacket session.servers packet with
  | .drop _ => ⟨.ok (), session, [.queries .dropped], classifier, state⟩
  | .keepAlive server =>
    let resolved := resolve ⟨server, [], none⟩ session state
    ⟨resolved.result.map fun _ => (), resolved.session, resolved.counters, classifier,
      resolved.state⟩
  | .dns request => handleDns classify resolve request session classifier state

end Sinkhole
