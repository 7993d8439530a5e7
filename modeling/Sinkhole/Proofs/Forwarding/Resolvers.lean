import Mathlib
import Sinkhole.Forwarding.Forwarder

/-! # What resolvers do to a session

Whichever way queries leave, resolving one either leaves the session alone, tracks the query on a
fresh socket, or starts a fresh request over HTTPS. It never has the answer at once.
-/
namespace Sinkhole

variable {σ ρ : Type}

/-- A resolver that queues no packet itself. -/
def Resolver.LeavesOutbound (resolve : Resolver σ ρ) : Prop :=
  ∀ query session state, (resolve query session state).session.outbound = session.outbound

def SessionState.startTask (session : SessionState ρ) (payload : Bytes) (reply : ρ) :
    SessionState ρ :=
  { session with
    tasks := session.tasks ++ [⟨session.tasksStarted, payload, reply, none⟩]
    tasksStarted := session.tasksStarted + 1 }

inductive ResolveCase (now : Nat) (query : ForwardedQuery ρ) (session : SessionState ρ) :
    Except Error Resolution → SessionState ρ → Prop where
  | failed (error : Error) : ResolveCase now query session (.error error) session
  | dropped : ResolveCase now query session (.ok .dropped) session
  | tracked {reply : ρ} (hreply : query.reply = some reply) :
      ResolveCase now query session (.ok .pending) (session.track now reply).1
  | started {reply : ρ} (hreply : query.reply = some reply) :
      ResolveCase now query session (.ok .pending) (session.startTask query.payload reply)

theorem forwardUdp_cases (path : UdpPath) (now : Nat) (query : ForwardedQuery ρ)
    (session : SessionState ρ) (state : Unit) :
    let resolved := forwardUdp path now query session state
    ResolveCase now query session resolved.result resolved.session := by
  simp only [forwardUdp]
  split
  · exact .dropped
  · split
    · exact .failed _
    · exact .dropped
  · split
    · exact .dropped
    · rename_i reply hreply
      exact .tracked hreply

theorem HttpsResolver.resolve_cases (path : UdpPath) (now : Nat) (query : ForwardedQuery ρ)
    (session : SessionState ρ) (resolver : HttpsResolver) :
    let resolved := HttpsResolver.resolve path now query session resolver
    ResolveCase now query session resolved.result resolved.session := by
  simp only [HttpsResolver.resolve]
  split
  · rename_i reply hreply
    simp only [HttpsResolver.start]
    split
    · exact .dropped
    · exact .started hreply
  · exact forwardUdp_cases path now query session ()

namespace Forwarder

theorem resolve_cases (path : UdpPath) (now : Nat) (query : ForwardedQuery ρ)
    (session : SessionState ρ) (forwarder : Forwarder) :
    let resolved := Forwarder.resolve path now query session forwarder
    ResolveCase now query session resolved.result resolved.session := by
  cases forwarder with
  | udp => exact forwardUdp_cases path now query session ()
  | https resolver => exact HttpsResolver.resolve_cases path now query session resolver

theorem leavesOutbound (path : UdpPath) (now : Nat) :
    (Forwarder.resolve path now : Resolver Forwarder ρ).LeavesOutbound := by
  intro query session forwarder
  have hcases := resolve_cases path now query session forwarder
  generalize Forwarder.resolve path now query session forwarder = resolved at hcases ⊢
  rcases resolved with ⟨result, after, counters, state⟩
  cases hcases <;> rfl

end Forwarder

end Sinkhole
