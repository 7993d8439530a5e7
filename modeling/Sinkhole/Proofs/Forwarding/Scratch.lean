import Sinkhole.Proofs.Forwarding.Reading

/-! # Draining through one scratch buffer

All sockets are read into the same scratch octets, and a callback is given as many of them as were
read. Since a read writes them from the front on, what an earlier answer left behind never gets into
a later one. The loop reads every socket once, in the order of the queries, keeps those with nothing
to read yet, and ends when it has been through the queue.
-/
namespace Sinkhole.Tracker

/-- A reading of the queue under way: the place to be read next, the scratch octets, and the sockets
tried so far. -/
structure Pass (ρ : Type) extends Reading ρ where
  place : Nat
  scratch : Bytes
  tried : List Nat

namespace Pass

variable {ρ : Type}

def start (tracker : Tracker ρ) (out : List Bytes) : Pass ρ :=
  ⟨.start tracker out, 0, List.replicate maxResponseSize 0, []⟩

def takeOut (pass : Pass ρ) : Pass ρ :=
  { pass with toReading := pass.toReading.takeOut pass.place }

/-- Puts a datagram into the scratch octets, as far as it fits, and says how much of it that is. -/
def receive (pass : Pass ρ) (octets : Bytes) : Pass ρ × Nat :=
  let received := octets.take pass.scratch.length
  ({ pass with scratch := overwrite 0 received pass.scratch }, received.length)

def runCallback [Reply ρ] (pass : Pass ρ) (query : PendingQuery ρ) (length : Nat) : Pass ρ :=
  let given := pass.scratch.take length
  { pass with
    packets := pass.packets ++ (Reply.assemble query.reply given).toOption.toList
    callbacks := pass.callbacks ++ [⟨query.socket, given⟩] }

/-- One round of the loop, unless the queue has been gone through. -/
def step? [Reply ρ] (read : Nat → SocketRead) (pass : Pass ρ) : Option (Pass ρ) :=
  match pass.queries[pass.place]? with
  | none => none
  | some query =>
    let pass := { pass with tried := pass.tried ++ [query.socket] }
    match read query.socket with
    | .wouldBlock => some { pass with place := pass.place + 1 }
    | .datagram octets =>
      let (pass, length) := pass.receive octets
      some (pass.takeOut.runCallback query length)
    | .failed _ => some pass.takeOut

def rounds [Reply ρ] (read : Nat → SocketRead) : Nat → Pass ρ → Option (Pass ρ)
  | 0, pass => some pass
  | count + 1, pass => (pass.step? read).bind (rounds read count)

theorem take_overwrite_zero {new buffer : Bytes} (h : new.length ≤ buffer.length) :
    (overwrite 0 new buffer).take new.length = new := by
  rw [overwrite, List.take_zero, List.nil_append, List.take_take, Nat.min_eq_left h,
    List.take_left]

theorem drop_eraseIdx {α : Type} {entries : List α} {place : Nat} (h : place < entries.length) :
    (entries.eraseIdx place).drop place = entries.drop (place + 1) := by
  have hfront : (entries.take place).length = place := by
    rw [List.length_take, Nat.min_eq_left (Nat.le_of_lt h)]
  rw [List.eraseIdx_eq_take_drop_succ, List.drop_append_of_le_length (Nat.le_of_eq hfront.symm),
    List.drop_of_length_le (Nat.le_of_eq hfront), List.nil_append]

variable [Reply ρ]

/-- After a round the same reading goes on, with one query less ahead. -/
structure Advances (read : Nat → SocketRead) (pass next : Pass ρ) : Prop where
  scratch : next.scratch.length = maxResponseSize
  reading : next.toReading.readFrom read next.place = pass.toReading.readFrom read pass.place
  ahead : next.queries.drop next.place = pass.queries.drop (pass.place + 1)
  tried : next.tried ++ (pass.queries.drop (pass.place + 1)).map (·.socket) =
    pass.tried ++ (pass.queries.drop pass.place).map (·.socket)

/-- A callback is given the start of its own datagram, whatever the scratch octets held. -/
theorem exists_advances (read : Nat → SocketRead) {pass : Pass ρ}
    (hscratch : pass.scratch.length = maxResponseSize)
    (hplace : pass.place < pass.queries.length) :
    ∃ next, pass.step? read = some next ∧ Advances read pass next := by
  have hquery : pass.queries[pass.place]? = some pass.queries[pass.place] :=
    List.getElem?_eq_getElem hplace
  have hahead : pass.queries.drop pass.place =
      pass.queries[pass.place] :: pass.queries.drop (pass.place + 1) :=
    List.drop_eq_getElem_cons hplace
  have htried : (pass.tried ++ [pass.queries[pass.place].socket]) ++
      (pass.queries.drop (pass.place + 1)).map (·.socket) =
        pass.tried ++ (pass.queries.drop pass.place).map (·.socket) := by
    rw [hahead, List.map_cons, List.append_assoc, List.singleton_append]
  have hremoved := drop_eraseIdx hplace
  cases hread : read pass.queries[pass.place].socket with
  | wouldBlock =>
    simp only [step?, hquery, hread]
    refine ⟨_, rfl, hscratch, ?_, rfl, htried⟩
    rw [Reading.readFrom.eq_def read pass.place, dif_pos hplace, hread]
  | datagram octets =>
    have hgiven : (overwrite 0 (octets.take pass.scratch.length) pass.scratch).take
        (octets.take pass.scratch.length).length = octets.take maxResponseSize := by
      rw [take_overwrite_zero (List.length_take_le _ _), hscratch]
    simp only [step?, hquery, hread]
    refine ⟨_, rfl, (length_overwrite _ _ _).trans hscratch, ?_, hremoved, htried⟩
    rw [Reading.readFrom.eq_def read pass.place, dif_pos hplace, hread]
    simp only [receive, runCallback, takeOut, hgiven]
    rfl
  | failed cause =>
    simp only [step?, hquery, hread]
    refine ⟨_, rfl, hscratch, ?_, hremoved, htried⟩
    rw [Reading.readFrom.eq_def read pass.place, dif_pos hplace, hread]
    rfl

theorem exists_rounds (read : Nat → SocketRead) {pass : Pass ρ}
    (hscratch : pass.scratch.length = maxResponseSize) :
    ∃ final, rounds read (pass.queries.drop pass.place).length pass = some final ∧
      final.step? read = none ∧
      final.toReading = pass.toReading.readFrom read pass.place ∧
      final.tried = pass.tried ++ (pass.queries.drop pass.place).map (·.socket) := by
  generalize hcount : (pass.queries.drop pass.place).length = count
  induction count generalizing pass with
  | zero =>
    have hdone : pass.queries.drop pass.place = [] := List.length_eq_zero_iff.1 hcount
    have hplace : pass.queries.length ≤ pass.place := List.drop_eq_nil_iff.1 hdone
    refine ⟨pass, rfl, ?_, ?_, ?_⟩
    · rw [step?, List.getElem?_eq_none hplace]
    · rw [Reading.readFrom, dif_neg (Nat.not_lt.2 hplace)]
    · rw [hdone, List.map_nil, List.append_nil]
  | succ count ih =>
    have hplace : pass.place < pass.queries.length := by
      rw [List.length_drop] at hcount
      omega
    obtain ⟨next, hnext, hadvances⟩ := exists_advances read hscratch hplace
    have hahead : (next.queries.drop next.place).length = count := by
      rw [hadvances.ahead, List.length_drop]
      rw [List.length_drop] at hcount
      omega
    obtain ⟨final, hrounds, hends, hreading, htried⟩ := ih hadvances.scratch hahead
    rw [hadvances.ahead] at htried
    refine ⟨final, ?_, hends, hreading.trans hadvances.reading, htried.trans hadvances.tried⟩
    rw [rounds, hnext, Option.bind_some, hrounds]

end Pass

variable {ρ : Type}

theorem isIdle_eq_beq (read : Nat → SocketRead) :
    (isIdle read : PendingQuery ρ → Bool) = fun query => read query.socket == .wouldBlock := by
  funext query
  rw [isIdle]
  cases read query.socket <;> rfl

variable [Reply ρ]

theorem removed_drainQueries (read : Nat → SocketRead) (queries : List (PendingQuery ρ)) :
    (drainQueries read queries).removed =
      queries.countP fun query => read query.socket != .wouldBlock := by
  have hall := length_kept_add_removed read queries
  have hsplit := List.length_eq_countP_add_countP
    (fun query : PendingQuery ρ => read query.socket == .wouldBlock) (l := queries)
  rw [kept_drainQueries, isIdle_eq_beq, ← List.countP_eq_length_filter, hsplit] at hall
  have hremoved := Nat.add_left_cancel hall
  refine hremoved.trans (List.countP_congr ?_)
  simp

/-- For every queue and every outcome of the reads and the callbacks the loop ends. It reads every
socket once and keeps the queries with nothing to read, in their order. Every other query is taken
out and counted. Its callback is given as much of its own datagram as is read, and the packets that
come of this follow those that were there, in the order of the queries. -/
theorem drain_partitions (tracker : Tracker ρ) (read : Nat → SocketRead) (out : List Bytes) :
    ∃ final, Pass.rounds read tracker.queries.length (.start tracker out) = some final ∧
      final.step? read = none ∧
      tracker.drain read out =
        ({ tracker with queries := final.queries }, final.packets, final.removed) ∧
      final.queries = tracker.queries.filter (fun query => read query.socket == .wouldBlock) ∧
      final.callbacks = tracker.queries.filterMap (callback? read) ∧
      final.packets = out ++ tracker.queries.filterMap (answer? read) ∧
      final.removed = tracker.queries.countP (fun query => read query.socket != .wouldBlock) ∧
      final.tried = tracker.sockets := by
  have hscratch : (Pass.start tracker out).scratch.length = maxResponseSize :=
    List.length_replicate
  obtain ⟨final, hrounds, hends, hreading, htried⟩ := Pass.exists_rounds read hscratch
  have hdrained : final.toReading = _ := hreading.trans (readFrom_start tracker out)
  refine ⟨final, hrounds, hends, ?_, ?_, ?_, ?_, ?_, htried⟩
  · rw [hdrained]
    rfl
  · rw [hdrained]
    simp only [drain, kept_drainQueries, isIdle_eq_beq]
  · rw [hdrained]
  · rw [hdrained]
    simp only [drain, packets_drainQueries]
  · rw [hdrained]
    exact removed_drainQueries read tracker.queries

end Sinkhole.Tracker
