import Mathlib
import Sinkhole.Forwarding.Tracker

/-! # What draining keeps and answers

Draining goes through the pending queries once. It keeps those with nothing to read yet, in their
order, and gives the packets of the others that were answered, in the order of the queries. What
comes of one query does not depend on those around it.
-/
namespace Sinkhole.Tracker

variable {ρ : Type} [Reply ρ] {read : Nat → SocketRead}

def isIdle (read : Nat → SocketRead) (query : PendingQuery ρ) : Bool :=
  match read query.socket with
  | .wouldBlock => true
  | .datagram _ | .failed _ => false

def answer? (read : Nat → SocketRead) (query : PendingQuery ρ) : Option Bytes :=
  match read query.socket with
  | .datagram octets => packetFor? query octets
  | .wouldBlock | .failed _ => none

theorem answer?_eq_none_of_isIdle {query : PendingQuery ρ} (h : isIdle read query = true) :
    answer? read query = none := by
  rw [isIdle] at h
  rw [answer?]
  cases hread : read query.socket with
  | wouldBlock => rfl
  | datagram octets => simp [hread] at h
  | failed cause => rfl

theorem answer?_eq_some_iff {query : PendingQuery ρ} {packet : Bytes} :
    answer? read query = some packet ↔
      ∃ octets, read query.socket = .datagram octets ∧ packetFor? query octets = some packet := by
  rw [answer?]
  cases read query.socket <;> simp

theorem kept_drainQueries (read : Nat → SocketRead) (queries : List (PendingQuery ρ)) :
    (drainQueries read queries).kept = queries.filter (isIdle read) := by
  induction queries with
  | nil => rfl
  | cons query queries ih =>
    rw [List.filter_cons, ← ih]
    cases hread : read query.socket with
    | wouldBlock => simp [drainQueries, isIdle, hread]
    | datagram octets => simp [drainQueries, isIdle, hread]
    | failed cause => simp [drainQueries, isIdle, hread]

theorem packets_drainQueries (read : Nat → SocketRead) (queries : List (PendingQuery ρ)) :
    (drainQueries read queries).packets = queries.filterMap (answer? read) := by
  induction queries with
  | nil => rfl
  | cons query queries ih =>
    rw [List.filterMap_cons, ← ih]
    cases hread : read query.socket with
    | wouldBlock => simp only [drainQueries, answer?, hread]
    | datagram octets =>
      simp only [drainQueries, answer?, hread]
      cases packetFor? query octets <;> rfl
    | failed cause => simp only [drainQueries, answer?, hread]

/-- Whatever else is tracked, a drain adds this packet for the query, at its place. -/
def DrainsTo (read : Nat → SocketRead) (query : PendingQuery ρ) (packet : Bytes) : Prop :=
  ∀ (tracker : Tracker ρ) (front back : List (PendingQuery ρ)) (out : List Bytes),
    tracker.queries = front ++ query :: back →
      (tracker.drain read out).2.1 =
        out ++ ((drainQueries read front).packets ++ packet :: (drainQueries read back).packets)

theorem drainsTo_iff {query : PendingQuery ρ} {packet : Bytes} :
    DrainsTo read query packet ↔ answer? read query = some packet := by
  constructor
  · intro h
    have halone := h ⟨[query], 1⟩ [] [] [] rfl
    simp only [drain, packets_drainQueries] at halone
    cases hanswer : answer? read query with
    | none => simp [hanswer] at halone
    | some other =>
      simp only [List.filterMap_cons, hanswer, List.filterMap_nil, List.nil_append,
        List.cons.injEq, and_true] at halone
      rw [halone]
  · intro h tracker front back out hqueries
    simp only [drain, hqueries, packets_drainQueries, List.filterMap_append, List.filterMap_cons, h]

end Sinkhole.Tracker
