import Sinkhole.Proofs.Forwarding.Draining

/-! # Reading the sockets one after another

The sockets are read from the front of the queue on. A query that is taken out moves those behind it
up, so the same place is read again; one with nothing to read is passed over. This loop, with a note
of every callback that it runs, does what `drainQueries` does in one recursion over the queue.
-/
namespace Sinkhole.Tracker

structure CallbackRun where
  socket : Nat
  octets : Bytes
deriving DecidableEq, Repr

/-- The queue while its sockets are read, and what came of those read so far. -/
structure Reading (ρ : Type) where
  queries : List (PendingQuery ρ)
  packets : List Bytes
  removed : Nat
  callbacks : List CallbackRun

variable {ρ : Type}

namespace Reading

def takeOut (reading : Reading ρ) (place : Nat) : Reading ρ :=
  { reading with
    queries := reading.queries.eraseIdx place
    removed := reading.removed + 1 }

/-- The callback of a query runs on what was read of a datagram. -/
def runCallback [Reply ρ] (reading : Reading ρ) (query : PendingQuery ρ) (given : Bytes) :
    Reading ρ :=
  { reading with
    packets := reading.packets ++ (Reply.assemble query.reply given).toOption.toList
    callbacks := reading.callbacks ++ [⟨query.socket, given⟩] }

/-- Reads the sockets from a place on. -/
def readFrom [Reply ρ] (read : Nat → SocketRead) (place : Nat) (reading : Reading ρ) : Reading ρ :=
  if h : place < reading.queries.length then
    match read reading.queries[place].socket with
    | .wouldBlock => readFrom read (place + 1) reading
    | .datagram octets =>
      let given := octets.take maxResponseSize
      readFrom read place ((reading.takeOut place).runCallback reading.queries[place] given)
    | .failed _ => readFrom read place (reading.takeOut place)
  else reading
termination_by reading.queries.length - place
decreasing_by
  · omega
  · simp only [runCallback, takeOut, List.length_eraseIdx_of_lt h]
    omega
  · simp only [takeOut, List.length_eraseIdx_of_lt h]
    omega

def start (tracker : Tracker ρ) (out : List Bytes) : Reading ρ := ⟨tracker.queries, out, 0, []⟩

end Reading

/-- The callback that a drain runs for the query, if it runs it. -/
def callback? (read : Nat → SocketRead) (query : PendingQuery ρ) : Option CallbackRun :=
  match read query.socket with
  | .datagram octets => some ⟨query.socket, octets.take maxResponseSize⟩
  | .wouldBlock | .failed _ => none

theorem callback?_eq_some_iff {read : Nat → SocketRead} {query : PendingQuery ρ}
    {callback : CallbackRun} :
    callback? read query = some callback ↔
      ∃ octets, read query.socket = .datagram octets ∧
        callback = ⟨query.socket, octets.take maxResponseSize⟩ := by
  rw [callback?]
  cases read query.socket <;> simp [eq_comm]

theorem eraseIdx_length_append {α : Type} (front : List α) (entry : α) (back : List α) :
    (front ++ entry :: back).eraseIdx front.length = front ++ back := by
  rw [List.eraseIdx_append_of_length_le (Nat.le_refl _), Nat.sub_self, List.eraseIdx_zero,
    List.tail_cons]

variable [Reply ρ] {read : Nat → SocketRead}

/-- What stands before the place has been read, and what stands from there on has not. -/
theorem readFrom_append (front back : List (PendingQuery ρ)) (packets : List Bytes)
    (removed : Nat) (callbacks : List CallbackRun) :
    Reading.readFrom read front.length ⟨front ++ back, packets, removed, callbacks⟩ =
      ⟨front ++ (drainQueries read back).kept, packets ++ (drainQueries read back).packets,
        removed + (drainQueries read back).removed,
        callbacks ++ back.filterMap (callback? read)⟩ := by
  induction back generalizing front packets removed callbacks with
  | nil =>
    rw [Reading.readFrom]
    simp [drainQueries]
  | cons query back ih =>
    have hplace : front.length < (front ++ query :: back).length := by simp
    have hquery : (front ++ query :: back)[front.length] = query := by simp
    rw [Reading.readFrom, dif_pos hplace]
    simp only [hquery]
    cases hread : read query.socket with
    | wouldBlock =>
      have hnext := ih (front ++ [query]) packets removed callbacks
      simp only [List.length_append, List.length_singleton, List.append_assoc,
        List.singleton_append] at hnext
      simp [hnext, drainQueries, callback?, hread]
    | datagram octets =>
      simp only [Reading.takeOut, Reading.runCallback, eraseIdx_length_append]
      rw [ih]
      simp [drainQueries, packetFor?, callback?, hread]
      omega
    | failed cause =>
      simp only [Reading.takeOut, eraseIdx_length_append]
      rw [ih]
      simp [drainQueries, callback?, hread]
      omega

theorem readFrom_start (tracker : Tracker ρ) (out : List Bytes) :
    Reading.readFrom read 0 (.start tracker out) =
      ⟨(tracker.drain read out).1.queries, (tracker.drain read out).2.1,
        (tracker.drain read out).2.2, tracker.queries.filterMap (callback? read)⟩ := by
  have hread : Reading.readFrom read ([] : List (PendingQuery ρ)).length
      ⟨[] ++ tracker.queries, out, 0, []⟩ = _ :=
    readFrom_append [] tracker.queries out 0 []
  simp only [List.length_nil, List.nil_append, Nat.zero_add] at hread
  exact hread

end Sinkhole.Tracker
