import Sinkhole.Proofs.Forwarding.Fates
import Sinkhole.Proofs.Forwarding.Reading
import Sinkhole.Proofs.Proxy.Requests

/-! # Which callbacks run

A reply is asked for the packet to an answer and keeps no account of that. So the tracker is run a
second time, with replies whose packet is a note of what they were asked. What the drains of that run
give is then a list of all callbacks that ran, in their order. The first run differs from it in
nothing but the packets, and its own packets are what these callbacks make of the real replies.
-/
namespace Sinkhole

namespace Tracker

/-- Writes a callback down: its number as so many ones, and after a zero what it was given. -/
def CallbackRun.note (callback : CallbackRun) : Bytes :=
  List.replicate callback.socket 1 ++ 0 :: callback.octets

def CallbackRun.ofNote : Bytes → CallbackRun
  | [] => ⟨0, []⟩
  | octet :: rest =>
    if octet = 0 then ⟨0, rest⟩ else ⟨(ofNote rest).socket + 1, (ofNote rest).octets⟩

theorem CallbackRun.ofNote_note (callback : CallbackRun) : ofNote callback.note = callback := by
  obtain ⟨socket, octets⟩ := callback
  induction socket with
  | zero => rfl
  | succ socket ih =>
    have hone : ofNote (note ⟨socket + 1, octets⟩) =
        let rest := ofNote (note ⟨socket, octets⟩)
        ⟨rest.socket + 1, rest.octets⟩ := rfl
    rw [hone, ih]

/-- What a callback gives when these are the replies. -/
def CallbackRun.packet? {ρ : Type} [Reply ρ] (replies : List ρ) (callback : CallbackRun) :
    Option Bytes :=
  replies[callback.socket]?.bind fun reply => (Reply.assemble reply callback.octets).toOption

end Tracker

/-- A reply that notes what it was asked. -/
structure NotedReply where
  query : Nat

instance : Reply NotedReply where
  assemble reply octets := .ok (Tracker.CallbackRun.note ⟨reply.query, octets⟩)

section Noted

variable {ρ : Type}

def PendingQuery.noted (query : PendingQuery ρ) : PendingQuery NotedReply :=
  ⟨query.socket, ⟨query.socket⟩, query.created⟩

def Tracker.noted (tracker : Tracker ρ) : Tracker NotedReply :=
  ⟨tracker.queries.map PendingQuery.noted, tracker.capacity⟩

def TrackerEvent.noted (query : Nat) : TrackerEvent ρ → TrackerEvent NotedReply
  | .add now _ => .add now ⟨query⟩
  | .drain read => .drain read
  | .clear => .clear

def TrackerEvent.reply? : TrackerEvent ρ → Option ρ
  | .add _ reply => some reply
  | .drain _ | .clear => none

end Noted

namespace Tracker

variable {ρ : Type} {read : Nat → SocketRead}

theorem add_noted (tracker : Tracker ρ) (now socket : Nat) (reply : ρ) :
    tracker.noted.add now socket ⟨socket⟩ =
      ((tracker.add now socket reply).1.noted, (tracker.add now socket reply).2) := by
  have hunexpired : unexpired now (tracker.queries.map PendingQuery.noted) =
      (unexpired now tracker.queries).map PendingQuery.noted := List.dropWhile_map
  have hroom : makeRoom tracker.capacity (unexpired now (tracker.queries.map PendingQuery.noted)) =
      (makeRoom tracker.capacity (unexpired now tracker.queries)).map PendingQuery.noted := by
    rw [hunexpired, makeRoom, makeRoom, List.length_map]
    split
    · exact List.map_drop.symm
    · rfl
  simp only [add, noted, hroom, List.length_map, List.map_append]
  rfl

theorem answer?_noted (query : PendingQuery ρ) :
    answer? read query.noted = (callback? read query).map CallbackRun.note := by
  rw [answer?, callback?, PendingQuery.noted]
  cases read query.socket <;> rfl

theorem answer?_eq_bind [Reply ρ] (query : PendingQuery ρ) :
    answer? read query = (callback? read query).bind fun callback =>
      (Reply.assemble query.reply callback.octets).toOption := by
  rw [answer?, callback?]
  cases read query.socket <;> rfl

theorem drain_noted [Reply ρ] (tracker : Tracker ρ) (read : Nat → SocketRead)
    (out plain : List Bytes) :
    (tracker.noted.drain read out).1 = (tracker.drain read plain).1.noted ∧
      (tracker.noted.drain read out).2.1 =
        out ++ (tracker.queries.filterMap (callback? read)).map CallbackRun.note := by
  constructor
  · simp only [drain, noted, kept_drainQueries, List.filter_map]
    rfl
  · simp only [drain, noted, packets_drainQueries, List.filterMap_map, List.map_filterMap]
    congr 2
    funext query
    exact answer?_noted query

end Tracker

namespace TrackerRun

variable {ρ : Type} [Reply ρ] {capacity : Nat} {events : List (TrackerEvent ρ)} {count : Nat}

def noted (capacity : Nat) (events : List (TrackerEvent ρ)) : List (TrackerEvent NotedReply) :=
  events.mapIdx fun place event => event.noted (stateAt capacity events place).added

/-- The callbacks that the first events of a run ran. -/
def callbacks (capacity : Nat) (events : List (TrackerEvent ρ)) (count : Nat) :
    List Tracker.CallbackRun :=
  (stateAt capacity (noted capacity events) count).packets.map Tracker.CallbackRun.ofNote

theorem getElem?_noted (capacity : Nat) (events : List (TrackerEvent ρ)) (place : Nat) :
    (noted capacity events)[place]? =
      events[place]?.map (·.noted (stateAt capacity events place).added) := by
  rw [noted, List.getElem?_mapIdx]

/-- Notes make a difference to the packets only. -/
structure IsNoted (run : TrackerRun ρ) (noted : TrackerRun NotedReply) : Prop where
  tracker : noted.tracker = run.tracker.noted
  added : noted.added = run.added
  counters : noted.counters = run.counters

theorem IsNoted.step {run : TrackerRun ρ} {noted : TrackerRun NotedReply} (h : run.IsNoted noted)
    (event : TrackerEvent ρ) : (run.step event).IsNoted (noted.step (event.noted run.added)) := by
  obtain ⟨htracker, hadded, hcounters⟩ := h
  cases event with
  | add now reply =>
    have hadd := run.tracker.add_noted now run.added reply
    refine ⟨?_, ?_, ?_⟩ <;>
      simp only [TrackerRun.step, TrackerEvent.noted, htracker, hadded, hcounters, hadd]
  | drain read =>
    refine ⟨?_, hadded, hcounters⟩
    simp only [TrackerRun.step, TrackerEvent.noted, htracker]
    exact (run.tracker.drain_noted read noted.packets run.packets).1
  | clear =>
    refine ⟨?_, hadded, hcounters⟩
    simp only [TrackerRun.step, TrackerEvent.noted, htracker]
    rfl

theorem isNoted_stateAt (capacity : Nat) (events : List (TrackerEvent ρ)) (count : Nat) :
    (stateAt capacity events count).IsNoted (stateAt capacity (noted capacity events) count) := by
  induction count with
  | zero => exact ⟨rfl, rfl, rfl⟩
  | succ count ih =>
    have hnoted := getElem?_noted capacity events count
    cases hevent : events[count]? with
    | none =>
      rw [hevent] at hnoted
      rw [stateAt_succ_of_none hevent, stateAt_succ_of_none hnoted]
      exact ih
    | some event =>
      rw [hevent] at hnoted
      rw [stateAt_succ hevent, stateAt_succ hnoted]
      exact ih.step event

theorem callbacks_succ_of_drain {read : Nat → SocketRead}
    (hevent : events[count]? = some (.drain read)) :
    callbacks capacity events (count + 1) = callbacks capacity events count ++
      (stateAt capacity events count).tracker.queries.filterMap (Tracker.callback? read) := by
  have hnoted : (noted capacity events)[count]? = some (.drain read) := by
    rw [getElem?_noted, hevent]
    rfl
  have hpackets := ((stateAt capacity events count).tracker.drain_noted read
    (stateAt capacity (noted capacity events) count).packets []).2
  rw [← (isNoted_stateAt capacity events count).tracker] at hpackets
  have hread : Tracker.CallbackRun.ofNote ∘ Tracker.CallbackRun.note = id :=
    funext Tracker.CallbackRun.ofNote_note
  rw [callbacks, stateAt_succ hnoted, step]
  simp only [hpackets, List.map_append, List.map_map, hread, List.map_id]
  rfl

theorem callbacks_succ_of_not_drain (h : ∀ read, events[count]? ≠ some (.drain read)) :
    callbacks capacity events (count + 1) = callbacks capacity events count := by
  have hnoted := getElem?_noted capacity events count
  rw [callbacks, callbacks]
  cases hevent : events[count]? with
  | none =>
    rw [hevent] at hnoted
    rw [stateAt_succ_of_none hnoted]
  | some event =>
    rw [hevent] at hnoted
    rw [stateAt_succ hnoted]
    cases event with
    | add now reply => rfl
    | drain read => exact absurd hevent (h read)
    | clear => rfl

/-- The callback of the query that owns the socket runs in the drain at a place of the run. -/
def RunsAt (capacity : Nat) (events : List (TrackerEvent ρ)) (place : Nat)
    (callback : Tracker.CallbackRun) : Prop :=
  ∃ read octets, events[place]? = some (.drain read) ∧
    (stateAt capacity events place).Tracks callback.socket ∧
    read callback.socket = .datagram octets ∧ callback.octets = octets.take maxResponseSize

theorem RunsAt.leavesAt {place : Nat} {callback : Tracker.CallbackRun}
    (h : RunsAt capacity events place callback) :
    LeavesAt capacity events place callback.socket := by
  obtain ⟨read, octets, hevent, htracks, hread, -⟩ := h
  refine (leavesAt_drain_iff hevent).2 ⟨htracks, ?_⟩
  rw [hread]
  exact SocketRead.noConfusion

omit [Reply ρ] in
theorem mem_filterMap_callback?_iff {run : TrackerRun ρ} {read : Nat → SocketRead}
    {callback : Tracker.CallbackRun} :
    callback ∈ run.tracker.queries.filterMap (Tracker.callback? read) ↔
      ∃ octets, run.Tracks callback.socket ∧ read callback.socket = .datagram octets ∧
        callback.octets = octets.take maxResponseSize := by
  rw [List.mem_filterMap]
  constructor
  · rintro ⟨query, hquery, hcallback⟩
    obtain ⟨octets, hread, rfl⟩ := Tracker.callback?_eq_some_iff.1 hcallback
    exact ⟨octets, List.mem_map_of_mem hquery, hread, rfl⟩
  · rintro ⟨octets, htracks, hread, hoctets⟩
    obtain ⟨query, hquery, hsocket⟩ := List.mem_map.1 htracks
    refine ⟨query, hquery, Tracker.callback?_eq_some_iff.2 ⟨octets, ?_, ?_⟩⟩
    · rw [hsocket]
      exact hread
    · rw [hsocket, ← hoctets]

omit [Reply ρ] in
theorem sockets_callbacks_sublist (read : Nat → SocketRead) (queries : List (PendingQuery ρ)) :
    ((queries.filterMap (Tracker.callback? read)).map (·.socket)).Sublist
      (queries.map (·.socket)) := by
  induction queries with
  | nil => exact List.Sublist.slnil
  | cons query queries ih =>
    rw [List.filterMap_cons, List.map_cons]
    cases hcallback : Tracker.callback? read query with
    | none => exact ih.cons _
    | some callback =>
      obtain ⟨octets, -, rfl⟩ := Tracker.callback?_eq_some_iff.1 hcallback
      exact ih.cons_cons _

/-- The callbacks of one more event are those of a drain, and each runs for a query of its own. -/
theorem exists_callbacks_succ (capacity : Nat) (events : List (TrackerEvent ρ)) (count : Nat) :
    ∃ later, callbacks capacity events (count + 1) = callbacks capacity events count ++ later ∧
      (later.map (·.socket)).Nodup ∧
      ∀ callback, callback ∈ later ↔ RunsAt capacity events count callback := by
  by_cases hdrain : ∃ read, events[count]? = some (.drain read)
  · obtain ⟨read, hevent⟩ := hdrain
    refine ⟨_, callbacks_succ_of_drain hevent, ?_, ?_⟩
    · have hnodup : (stateAt capacity events count).tracker.sockets.Nodup :=
        (numbered_stateAt capacity events count).increasing.imp Nat.ne_of_lt
      exact hnodup.sublist (sockets_callbacks_sublist read _)
    · intro callback
      rw [mem_filterMap_callback?_iff]
      constructor
      · rintro ⟨octets, hcallback⟩
        exact ⟨read, octets, hevent, hcallback⟩
      · rintro ⟨other, octets, hother, hcallback⟩
        rw [hevent] at hother
        cases hother
        exact ⟨octets, hcallback⟩
  · have hnone : ∀ read, events[count]? ≠ some (.drain read) := fun read h => hdrain ⟨read, h⟩
    refine ⟨[], ?_, List.nodup_nil, ?_⟩
    · rw [callbacks_succ_of_not_drain hnone, List.append_nil]
    · intro callback
      refine iff_of_false List.not_mem_nil ?_
      rintro ⟨read, -, hevent, -⟩
      exact hnone read hevent

theorem mem_callbacks_iff {callback : Tracker.CallbackRun} :
    callback ∈ callbacks capacity events count ↔
      ∃ place < count, RunsAt capacity events place callback := by
  induction count with
  | zero =>
    constructor
    · intro h
      exact absurd h List.not_mem_nil
    · rintro ⟨place, hplace, -⟩
      exact absurd hplace (Nat.not_lt_zero _)
  | succ count ih =>
    obtain ⟨later, hcallbacks, -, hlater⟩ := exists_callbacks_succ capacity events count
    rw [hcallbacks, List.mem_append, ih, hlater]
    constructor
    · rintro (⟨place, hplace, hruns⟩ | hruns)
      · exact ⟨place, Nat.lt_succ_of_lt hplace, hruns⟩
      · exact ⟨count, Nat.lt_succ_self _, hruns⟩
    · rintro ⟨place, hplace, hruns⟩
      rcases Nat.lt_succ_iff_lt_or_eq.1 hplace with hbefore | rfl
      · exact .inl ⟨place, hbefore, hruns⟩
      · exact .inr hruns

/-- A callback that ran before belongs to a query that has left, so no later one is of its query. -/
theorem nodup_sockets_callbacks (capacity : Nat) (events : List (TrackerEvent ρ)) (count : Nat) :
    ((callbacks capacity events count).map (·.socket)).Nodup := by
  induction count with
  | zero => exact List.nodup_nil
  | succ count ih =>
    obtain ⟨later, hcallbacks, hnodup, hlater⟩ := exists_callbacks_succ capacity events count
    rw [hcallbacks, List.map_append]
    refine ih.append hnodup ?_
    intro socket hbefore hnow
    obtain ⟨earlier, hearlier, rfl⟩ := List.mem_map.1 hbefore
    obtain ⟨callback, hcallback, hsocket⟩ := List.mem_map.1 hnow
    obtain ⟨place, hplace, hruns⟩ := mem_callbacks_iff.1 hearlier
    have hleaves := ((hlater callback).1 hcallback).leavesAt
    rw [hsocket] at hleaves
    exact hruns.leavesAt.not_tracks hplace hleaves.1

def replies (events : List (TrackerEvent ρ)) : List ρ := events.filterMap TrackerEvent.reply?

theorem added_eq_length_replies (capacity : Nat) (events : List (TrackerEvent ρ)) (count : Nat) :
    (stateAt capacity events count).added = (replies (events.take count)).length := by
  induction count with
  | zero => rfl
  | succ count ih =>
    rw [List.take_add_one, replies, List.filterMap_append, List.length_append, ← replies, ← ih]
    cases hevent : events[count]? with
    | none =>
      rw [stateAt_succ_of_none hevent]
      rfl
    | some event =>
      rw [stateAt_succ hevent]
      cases event <;> rfl

theorem getElem?_replies {query : PendingQuery ρ}
    (hquery : query ∈ (stateAt capacity events count).tracker.queries) :
    (replies events)[query.socket]? = some query.reply := by
  obtain ⟨place, -, hevent, hadded⟩ := exists_add_of_mem hquery
  obtain ⟨hplace, hadd⟩ := List.getElem?_eq_some_iff.1 hevent
  have hsplit : replies events = replies (events.take place) ++
      query.reply :: replies (events.drop (place + 1)) := by
    conv_lhs => rw [← List.take_append_drop place events, List.drop_eq_getElem_cons hplace, hadd]
    exact List.filterMap_append
  rw [hsplit, ← hadded, added_eq_length_replies, List.getElem?_append_right (Nat.le_refl _),
    Nat.sub_self]
  rfl

/-- What the drains gave is what the callbacks that ran made of their replies. -/
theorem packets_eq_filterMap_callbacks (capacity : Nat) (events : List (TrackerEvent ρ))
    (count : Nat) :
    (stateAt capacity events count).packets =
      (callbacks capacity events count).filterMap (·.packet? (replies events)) := by
  induction count with
  | zero => rfl
  | succ count ih =>
    by_cases hdrain : ∃ read, events[count]? = some (.drain read)
    · obtain ⟨read, hevent⟩ := hdrain
      rw [callbacks_succ_of_drain hevent, List.filterMap_append, ← ih, stateAt_succ hevent, step,
        List.filterMap_filterMap]
      simp only [Tracker.drain, Tracker.packets_drainQueries]
      congr 1
      refine List.filterMap_congr fun query hquery => ?_
      rw [Tracker.answer?_eq_bind]
      cases hcallback : Tracker.callback? read query with
      | none => rfl
      | some callback =>
        obtain ⟨octets, -, rfl⟩ := Tracker.callback?_eq_some_iff.1 hcallback
        simp only [Option.bind_some, Tracker.CallbackRun.packet?, getElem?_replies hquery]
    · have hnone : ∀ read, events[count]? ≠ some (.drain read) := fun read h => hdrain ⟨read, h⟩
      rw [callbacks_succ_of_not_drain hnone, ← ih]
      cases hevent : events[count]? with
      | none => rw [stateAt_succ_of_none hevent]
      | some event =>
        rw [stateAt_succ hevent]
        cases event with
        | add now reply => rfl
        | drain read => exact absurd hevent (hnone read)
        | clear => rfl

/-- At every moment of every run each query that was added has exactly one fate, and those that a
drain takes out are those whose sockets gave data or failed. A callback runs once at most, and in the
drain in which its own socket gave data to a query still tracked; what the drains give is what these
callbacks make of it. The fates add up to the additions, and the evictions are those counted. -/
theorem fates_accounted (capacity : Nat) (events : List (TrackerEvent ρ)) (count : Nat) :
    (∀ query < (stateAt capacity events count).added,
        ∃! fate, HasFate capacity events count query fate) ∧
      (∀ place read, events[place]? = some (.drain read) → ∀ query,
        (LeavesAt capacity events place query ↔
          (stateAt capacity events place).Tracks query ∧ read query ≠ .wouldBlock)) ∧
      ((callbacks capacity events count).map (·.socket)).Nodup ∧
      (∀ callback, callback ∈ callbacks capacity events count ↔
        ∃ place < count, RunsAt capacity events place callback) ∧
      (stateAt capacity events count).packets =
        (callbacks capacity events count).filterMap (·.packet? (replies events)) ∧
      ∑ fate : Fate, (withFate capacity events count fate).ncard =
        (stateAt capacity events count).added ∧
      (stateAt capacity events count).counters.count .pendingEvictions =
        (withFate capacity events count .evicted).ncard :=
  ⟨fun _ => existsUnique_hasFate, fun _ _ hevent _ => leavesAt_drain_iff hevent,
    nodup_sockets_callbacks capacity events count, fun _ => mem_callbacks_iff,
    packets_eq_filterMap_callbacks capacity events count,
    sum_ncard_withFate capacity events count, count_pendingEvictions capacity events count⟩

/-- A run in which three queries leave in three ways: there is room for two, so the first is
evicted, the second has its answer, and the third is cleared. -/
def threeWays : List (TrackerEvent Flow) :=
  [.add 0 mixedCaseFlow, .add 1 mixedCaseFlow, .add 2 mixedCaseFlow,
    .drain fun query => if query = 1 then .datagram [7] else .wouldBlock, .clear]

theorem fates_accounted_threeWays :
    1 < (stateAt 2 threeWays 5).added ∧
      (∃! fate, HasFate 2 threeWays 5 1 fate) ∧
      (LeavesAt 2 threeWays 3 1 ↔
        (stateAt 2 threeWays 3).Tracks 1 ∧ SocketRead.datagram [7] ≠ .wouldBlock) ∧
      callbacks 2 threeWays 5 = [⟨1, [7]⟩] ∧
      (∃ place < 5, RunsAt 2 threeWays place ⟨1, [7]⟩) ∧
      (stateAt 2 threeWays 5).packets =
        (Packet.response [7] mixedCaseFlow).toOption.toList ∧
      (stateAt 2 threeWays 5).counters.count .pendingEvictions =
        (withFate 2 threeWays 5 .evicted).ncard := by
  have hadded : 1 < (stateAt 2 threeWays 5).added := by decide
  have hran : callbacks 2 threeWays 5 = [⟨1, [7]⟩] := by decide
  obtain ⟨hfate, hdrain, -, hcallbacks, hpackets, -, hevicted⟩ := fates_accounted 2 threeWays 5
  rw [hran] at hcallbacks hpackets
  refine ⟨hadded, hfate 1 hadded, hdrain 3 _ rfl 1, hran,
    (hcallbacks ⟨1, [7]⟩).1 List.mem_cons_self, ?_, hevicted⟩
  rw [hpackets]
  rfl

end TrackerRun

end Sinkhole
