import Sinkhole.Counter
import Sinkhole.Time
import Sinkhole.Forwarding.Reply

/-! # Pending queries

Each query that waits for its answer owns the socket it was sent from. The tracker keeps them in
the order of their arrival and bounds them in time and number: before a query is added, those that
have waited too long are dropped, and then the oldest if there is still no room.
-/
namespace Sinkhole

def maxPending : Nat := 1024

def queryTimeout : Nat := seconds 10

def maxResponseSize : Nat := 1024

inductive SocketRead where
  | wouldBlock
  | datagram (octets : Bytes)
  | failed (cause : IoError)
deriving DecidableEq, Repr

structure PendingQuery (ρ : Type) where
  socket : Nat
  reply : ρ
  created : Nat
deriving Repr

structure Tracker (ρ : Type) where
  queries : List (PendingQuery ρ)
  capacity : Nat
deriving Repr

namespace Tracker

variable {ρ : Type}

def new (capacity : Nat) : Tracker ρ := ⟨[], max capacity 1⟩

def isExpired (now : Nat) (query : PendingQuery ρ) : Bool :=
  queryTimeout < now - query.created

/-- The queries that a new one finds: the oldest ones go while they have waited too long. -/
def unexpired (now : Nat) (queries : List (PendingQuery ρ)) : List (PendingQuery ρ) :=
  queries.dropWhile (isExpired now)

/-- Makes room for one more by dropping the oldest, if need be. -/
def makeRoom (capacity : Nat) (queries : List (PendingQuery ρ)) : List (PendingQuery ρ) :=
  if capacity ≤ queries.length then queries.drop 1 else queries

/-- Tracks a query, and says how many others had to go. -/
def add (tracker : Tracker ρ) (now : Nat) (socket : Nat) (reply : ρ) : Tracker ρ × Nat :=
  let kept := makeRoom tracker.capacity (unexpired now tracker.queries)
  ({ tracker with queries := kept ++ [⟨socket, reply, now⟩] },
    tracker.queries.length - kept.length)

/-- One increment for each query that had to go. -/
def evictionCounts (evicted : Nat) : List Counter :=
  List.replicate evicted .pendingEvictions

def sockets (tracker : Tracker ρ) : List Nat := tracker.queries.map (·.socket)

structure Drained (ρ : Type) where
  kept : List (PendingQuery ρ)
  packets : List Bytes
  removed : Nat
deriving Repr

/-- The packet for a datagram, of which no more is read than fits. -/
def packetFor? [Reply ρ] (query : PendingQuery ρ) (octets : Bytes) : Option Bytes :=
  (Reply.assemble query.reply (octets.take maxResponseSize)).toOption

/-- Reads every socket once. A query stays only if there is nothing to read yet. -/
def drainQueries [Reply ρ] (read : Nat → SocketRead) : List (PendingQuery ρ) → Drained ρ
  | [] => ⟨[], [], 0⟩
  | query :: queries =>
    let rest := drainQueries read queries
    match read query.socket with
    | .wouldBlock => { rest with kept := query :: rest.kept }
    | .datagram octets =>
      { rest with
        packets := (packetFor? query octets).toList ++ rest.packets
        removed := rest.removed + 1 }
    | .failed _ => { rest with removed := rest.removed + 1 }

theorem length_kept_add_removed [Reply ρ] (read : Nat → SocketRead)
    (queries : List (PendingQuery ρ)) :
    (drainQueries read queries).kept.length + (drainQueries read queries).removed =
      queries.length := by
  induction queries with
  | nil => rfl
  | cons query queries ih =>
    cases h : read query.socket <;> simp only [drainQueries, h, List.length_cons] <;> omega

/-- Takes out every query whose socket is ready, and adds the packets of those answered. -/
def drain [Reply ρ] (tracker : Tracker ρ) (read : Nat → SocketRead) (out : List Bytes) :
    Tracker ρ × List Bytes × Nat :=
  let drained := drainQueries read tracker.queries
  ({ tracker with queries := drained.kept }, out ++ drained.packets, drained.removed)

def clear (tracker : Tracker ρ) : Tracker ρ := { tracker with queries := [] }

end Tracker

end Sinkhole
