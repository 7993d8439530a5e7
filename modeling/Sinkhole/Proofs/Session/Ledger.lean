import Sinkhole.Proofs.Forwarding.Draining
import Sinkhole.Proofs.Session.Run

/-! # Whose is what

A ledger names for everything that waits in a session, and for every packet that it queued, the
request that it belongs to. Events move entries about and drop some of them, but no move gives a
request more entries than it had. That is said with counts, so that arithmetic can add them up.
-/
namespace Sinkhole

def share {α : Type} (request : Nat) (entries : List (Nat × α)) : Nat :=
  (entries.map Prod.fst).count request

section Share

variable {α β : Type} {request : Nat}

@[simp] theorem share_nil : share request ([] : List (Nat × α)) = 0 := rfl

@[simp] theorem share_append (front back : List (Nat × α)) :
    share request (front ++ back) = share request front + share request back := by
  rw [share, List.map_append, List.count_append]
  rfl

@[simp] theorem share_cons (entry : Nat × α) (entries : List (Nat × α)) :
    share request (entry :: entries) =
      share request entries + if entry.1 = request then 1 else 0 := by
  rw [share, List.map_cons, List.count_cons]
  simp only [beq_iff_eq]
  rfl

@[simp] theorem share_map (f : Nat × α → β) (entries : List (Nat × α)) :
    share request (entries.map fun entry => (entry.1, f entry)) = share request entries := by
  rw [share, List.map_map]
  rfl

theorem share_le_of_sublist {kept entries : List (Nat × α)} (h : kept.Sublist entries) :
    share request kept ≤ share request entries :=
  (h.map Prod.fst).count_le request

theorem share_filter_add_le {keep : Nat × α → Bool} {entry : Nat × α} {entries : List (Nat × α)}
    (hmem : entry ∈ entries) (hdrop : keep entry = false) :
    share request (entries.filter keep) + (if entry.1 = request then 1 else 0) ≤
      share request entries := by
  obtain ⟨front, back, rfl⟩ := List.append_of_mem hmem
  have hfront : share request (front.filter keep) ≤ share request front :=
    share_le_of_sublist List.filter_sublist
  have hback : share request (back.filter keep) ≤ share request back :=
    share_le_of_sublist List.filter_sublist
  rw [List.filter_append, List.filter_cons_of_neg (by rw [hdrop]; exact Bool.false_ne_true)]
  simp only [share_append, share_cons]
  omega

theorem mem_of_mem_append_entry {entries : List (Nat × α)} {owner : Nat} {content new : α}
    (h : (request, content) ∈ entries ++ [(owner, new)]) :
    (request, content) ∈ entries ∨ request = owner ∧ content = new := by
  rcases List.mem_append.1 h with hold | hnew
  · exact Or.inl hold
  · exact Or.inr (Prod.mk.inj (List.mem_singleton.1 hnew))

end Share

/-- What waits in a session and what it queued, each with its request. -/
structure Ledger where
  pending : List (Nat × PendingQuery Flow)
  tasks : List (Nat × HttpsTask Flow)
  waiting : List (Nat × Completion Flow)
  queued : List (Nat × Bytes)

namespace Ledger

def count (ledger : Ledger) (request : Nat) : Nat :=
  share request ledger.pending + share request ledger.tasks + share request ledger.waiting +
    share request ledger.queued

structure Matches (ledger : Ledger) (content : SessionContent) : Prop where
  pending : ledger.pending.map Prod.snd = content.pending
  tasks : ledger.tasks.map Prod.snd = content.tasks
  waiting : ledger.waiting.map Prod.snd = content.waiting
  queued : ledger.queued.map Prod.snd = content.queued

def origin (ledger : Ledger) (place : Nat) : Nat :=
  ((ledger.queued[place]?).map Prod.fst).getD 0

theorem origin_eq {ledger : Ledger} {place request : Nat} {packet : Bytes}
    (h : ledger.queued[place]? = some (request, packet)) : ledger.origin place = request := by
  rw [origin, h]
  rfl

/-- No request owns two packets when every request has at most one entry. -/
theorem origin_injective {ledger : Ledger} (honce : ∀ request, ledger.count request ≤ 1)
    {place other : Nat} (hplace : place < ledger.queued.length)
    (hother : other < ledger.queued.length) (hsame : ledger.origin place = ledger.origin other) :
    place = other := by
  have hnodup : (ledger.queued.map Prod.fst).Nodup := by
    rw [List.nodup_iff_count_le_one]
    intro request
    have hshare : share request ledger.queued ≤ ledger.count request := Nat.le_add_left _ _
    exact Nat.le_trans hshare (honce request)
  have hfirst : ledger.origin place = ledger.queued[place].1 :=
    origin_eq (List.getElem?_eq_getElem hplace)
  have hsecond : ledger.origin other = ledger.queued[other].1 :=
    origin_eq (List.getElem?_eq_getElem hother)
  have howner : (ledger.queued.map Prod.fst)[place]? = (ledger.queued.map Prod.fst)[other]? := by
    rw [List.getElem?_map, List.getElem?_map, List.getElem?_eq_getElem hplace,
      List.getElem?_eq_getElem hother, Option.map_some, Option.map_some, ← hfirst, ← hsecond, hsame]
  rw [← List.length_map (f := Prod.fst)] at hplace
  exact (List.getElem?_inj hplace hnodup).1 howner

end Ledger

theorem toOption_eq_some_iff {α : Type} {result : Except Error α} {a : α} :
    result.toOption = some a ↔ result = .ok a := by
  cases result <;> simp [Except.toOption]

section Drained

variable (read : Nat → SocketRead) (entries : List (Nat × PendingQuery Flow))

def keptEntries : List (Nat × PendingQuery Flow) :=
  entries.filter fun entry => Tracker.isIdle read entry.2

def answeredEntries : List (Nat × Bytes) :=
  entries.filterMap fun entry =>
    (Tracker.answer? read entry.2).map fun packet => (entry.1, packet)

theorem map_snd_keptEntries :
    (keptEntries read entries).map Prod.snd =
      (Tracker.drainQueries read (entries.map Prod.snd)).kept := by
  rw [Tracker.kept_drainQueries, List.filter_map]
  rfl

theorem map_snd_answeredEntries :
    (answeredEntries read entries).map Prod.snd =
      (Tracker.drainQueries read (entries.map Prod.snd)).packets := by
  rw [Tracker.packets_drainQueries, answeredEntries, List.map_filterMap, List.filterMap_map]
  simp only [Option.map_map, Function.comp_def, Option.map_id']

theorem share_drained (request : Nat) :
    share request (keptEntries read entries) + share request (answeredEntries read entries) ≤
      share request entries := by
  induction entries with
  | nil => exact Nat.le_refl _
  | cons entry entries ih =>
    rw [keptEntries, answeredEntries] at ih
    rw [keptEntries, answeredEntries, List.filter_cons, List.filterMap_cons, share_cons]
    -- An idle query keeps its entry; any other gives it up for one packet at most.
    by_cases hidle : Tracker.isIdle read entry.2 = true
    · simp only [hidle, Tracker.answer?_eq_none_of_isIdle hidle, Option.map_none, if_true,
        share_cons]
      omega
    · rw [if_neg hidle]
      cases Tracker.answer? read entry.2 with
      | none =>
        simp only [Option.map_none]
        omega
      | some packet =>
        simp only [Option.map_some, share_cons]
        omega

theorem mem_of_mem_keptEntries {entry : Nat × PendingQuery Flow}
    (h : entry ∈ keptEntries read entries) : entry ∈ entries :=
  List.mem_of_mem_filter h

theorem exists_of_mem_answeredEntries {request : Nat} {packet : Bytes}
    (h : (request, packet) ∈ answeredEntries read entries) :
    ∃ query octets, (request, query) ∈ entries ∧ read query.socket = .datagram octets ∧
      Packet.response (octets.take maxResponseSize) query.reply = .ok packet := by
  obtain ⟨⟨owner, query⟩, hmem, hanswer⟩ := List.mem_filterMap.1 h
  obtain ⟨found, hfound, hentry⟩ := Option.map_eq_some_iff.1 hanswer
  obtain ⟨rfl, rfl⟩ := Prod.mk.inj hentry
  obtain ⟨octets, hread, hpacket⟩ := Tracker.answer?_eq_some_iff.1 hfound
  refine ⟨query, octets, hmem, hread, ?_⟩
  exact toOption_eq_some_iff.1 hpacket

end Drained

end Sinkhole
