import Sinkhole.Tunnel.ServerMap
import Sinkhole.Forwarding.Tracker

/-! # Queries on their way

A session's state is what the proxy and the resolvers work on. A resolver takes a query and the
session and says what became of the query; it may have kept it in the session.
-/
namespace Sinkhole

structure ForwardedQuery (ρ : Type) where
  /-- The real server, and the port that the client addressed. -/
  server : Endpoint
  payload : Bytes
  /-- Absent when the answer is to be ignored. -/
  reply : Option ρ
deriving Repr

inductive Resolution where
  /-- The answer will come through the session. -/
  | pending
  | immediate (answer : Bytes)
  /-- The query was given up. -/
  | dropped
deriving DecidableEq, Repr

/-- A request over HTTPS. It holds its answer while the completion queue is full. -/
structure HttpsTask (ρ : Type) where
  number : Nat
  payload : Bytes
  reply : ρ
  answer : Option Bytes
deriving Repr

structure SessionState (ρ : Type) where
  servers : ServerMap
  pending : Tracker ρ
  completions : CompletionQueue ρ
  /-- Packets to be written to the tunnel. -/
  outbound : List Bytes
  tasks : List (HttpsTask ρ)
  /-- The number of sockets opened so far; each is known by its number. -/
  socketsOpened : Nat
  /-- The number of requests over HTTPS started so far. -/
  tasksStarted : Nat
deriving Repr

namespace SessionState

variable {ρ : Type}

def new (servers : ServerMap) (completionCapacity : Nat) : SessionState ρ :=
  ⟨servers, .new maxPending, .new completionCapacity, [], [], 0, 0⟩

def queue (session : SessionState ρ) (packet : Bytes) : SessionState ρ :=
  { session with outbound := session.outbound ++ [packet] }

/-- Queues the packet of a completion. One that cannot be assembled is dropped. -/
def complete [Reply ρ] (session : SessionState ρ) (completion : Completion ρ) : SessionState ρ :=
  match completion.assemble with
  | .ok packet => session.queue packet
  | .error _ => session

/-- Tracks a query on a socket of its own. -/
def track (session : SessionState ρ) (now : Nat) (reply : ρ) : SessionState ρ × List Counter :=
  let (pending, evicted) := session.pending.add now session.socketsOpened reply
  ({ session with pending := pending, socketsOpened := session.socketsOpened + 1 },
    Tracker.evictionCounts evicted)

/-- Drains the pending queries into the packets to be written. -/
def drain [Reply ρ] (session : SessionState ρ) (read : Nat → SocketRead) :
    SessionState ρ × Nat :=
  let (pending, outbound, removed) := session.pending.drain read session.outbound
  ({ session with pending := pending, outbound := outbound }, removed)

end SessionState

structure Resolved (σ ρ : Type) where
  result : Except Error Resolution
  session : SessionState ρ
  counters : List Counter
  state : σ

/-- Starts to resolve a query. The resolver has a state of its own. -/
abbrev Resolver (σ ρ : Type) := ForwardedQuery ρ → SessionState ρ → σ → Resolved σ ρ

end Sinkhole
