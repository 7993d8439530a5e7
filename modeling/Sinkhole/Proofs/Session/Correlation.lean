import Sinkhole.Proofs.Session.Ledger

/-! # Answers belong to requests

Every packet that a session queues in a run answers a request that came no later, and no two answer
the same one. What it carries is the local answer to that request, or was read from the socket that
was opened for it, or is what the request over HTTPS got that was started for it. The invariant is
a ledger: whatever waits in the session is entered under the request that it came from.
-/
namespace Sinkhole.SessionRun

variable {κ : Type}

section Answers

variable (classify : Classifier κ) (start : SessionRun κ) (events : List SessionEvent)

/-- The event is a request: it handles a packet that asks about a host. -/
def RequestAt (request : Nat) (flow : Flow) (server : Endpoint) (payload : Bytes)
    (message : Dns.Message) (host : String) : Prop :=
  ∃ path now octets, events[request]? = some (.packet path now octets) ∧
    AsksAbout start.session.servers octets flow server payload message host

def OpensSocket (request socket : Nat) : Prop :=
  (stateAt classify start events request).content.socketsOpened = socket ∧
    (stateAt classify start events (request + 1)).content.socketsOpened = socket + 1

def StartsTask (request number : Nat) : Prop :=
  (stateAt classify start events request).content.tasksStarted = number ∧
    (stateAt classify start events (request + 1)).content.tasksStarted = number + 1

/-- The answers to a request that a later event, or the request itself, can queue. -/
inductive AnswerAt (request later : Nat) (message : Dns.Message) (host : String) :
    Bytes → Prop where
  | here {response : Dns.Message} {answer : Bytes} (hsame : later = request)
      (hlocal : (classify host
        (stateAt classify start events request).classifier).1.localAnswer? message = some response)
      (hencode : response.encode = .ok answer) : AnswerAt request later message host answer
  | socket {socket : Nat} {read : Nat → SocketRead} {octets : Bytes}
      (hopens : OpensSocket classify start events request socket)
      (hown : ∀ other, OpensSocket classify start events other socket → other = request)
      (hlater : request < later) (hevent : events[later]? = some (.answers read))
      (hread : read socket = .datagram octets) :
      AnswerAt request later message host (octets.take maxResponseSize)
  | task {number between : Nat} {answer : Bytes}
      (hstarts : StartsTask classify start events request number)
      (hown : ∀ other, StartsTask classify start events other number → other = request)
      (hbetween : request < between) (hlater : between < later)
      (hanswered : events[between]? = some (.request number (.answered answer)))
      (hevent : events[later]? = some .completion) : AnswerAt request later message host answer

/-- The packet carries an answer to the request, back along its flow. -/
def RespondsTo (request later : Nat) (packet : Bytes) : Prop :=
  ∃ flow server payload message host answer,
    RequestAt start events request flow server payload message host ∧
      AnswerAt classify start events request later message host answer ∧
      Packet.response answer flow = .ok packet

def QueuesAt (later place : Nat) : Prop :=
  (stateAt classify start events later).queued.length ≤ place ∧
    place < (stateAt classify start events (later + 1)).queued.length

def HasFlow (request : Nat) (flow : Flow) : Prop :=
  ∃ server payload message host, RequestAt start events request flow server payload message host

/-- The query waits on the socket of its request. -/
structure PendingFor (k request : Nat) (query : PendingQuery Flow) : Prop where
  asks : HasFlow start events request query.reply
  earlier : request < k
  opens : OpensSocket classify start events request query.socket

/-- The request over HTTPS was started for the request, and has the answer that it got. -/
structure RunningFor (k request : Nat) (task : HttpsTask Flow) : Prop where
  asks : HasFlow start events request task.reply
  earlier : request < k
  starts : StartsTask classify start events request task.number
  answered : ∀ answer, task.answer = some answer → ∃ between, request < between ∧ between < k ∧
    events[between]? = some (.request task.number (.answered answer))

/-- The completion is the answer that the request's own request over HTTPS got. -/
structure WaitingFor (k request : Nat) (completion : Completion Flow) : Prop where
  asks : HasFlow start events request completion.reply
  answered : ∃ number between, StartsTask classify start events request number ∧
    request < between ∧ between < k ∧
    events[between]? = some (.request number (.answered completion.answer))

/-- After some events the ledger is right about everything. -/
structure LedgerAt (k : Nat) (ledger : Ledger) : Prop where
  content : ledger.Matches (stateAt classify start events k).content
  once : ∀ request, ledger.count request ≤ if request < k then 1 else 0
  pending : ∀ request query, (request, query) ∈ ledger.pending →
    PendingFor classify start events k request query
  tasks : ∀ request task, (request, task) ∈ ledger.tasks →
    RunningFor classify start events k request task
  waiting : ∀ request completion, (request, completion) ∈ ledger.waiting →
    WaitingFor classify start events k request completion
  queued : ∀ place request packet, ledger.queued[place]? = some (request, packet) →
    ∃ later, request ≤ later ∧ QueuesAt classify start events later place ∧
      RespondsTo classify start events request later packet

end Answers

variable {classify : Classifier κ} {start : SessionRun κ} {events : List SessionEvent}
variable {k : Nat} {ledger after : Ledger} {event : SessionEvent}

theorem eq_of_passes {f : Nat → Nat} (hmono : ∀ k l, k ≤ l → f k ≤ f l) {i j value : Nat}
    (hi : f i = value) (hnext : f (i + 1) = value + 1) (hj : f j = value)
    (hnext' : f (j + 1) = value + 1) : j = i := by
  rcases Nat.lt_trichotomy j i with hlt | heq | hlt
  · have hle := hmono (j + 1) i hlt
    omega
  · exact heq
  · have hle := hmono (i + 1) j hlt
    omega

theorem OpensSocket.unique {request other socket : Nat}
    (h : OpensSocket classify start events request socket)
    (hother : OpensSocket classify start events other socket) : other = request :=
  eq_of_passes (fun _ _ => socketsOpened_mono classify start events) h.1 h.2 hother.1 hother.2

theorem StartsTask.unique {request other number : Nat}
    (h : StartsTask classify start events request number)
    (hother : StartsTask classify start events other number) : other = request :=
  eq_of_passes (fun _ _ => tasksStarted_mono classify start events) h.1 h.2 hother.1 hother.2

theorem PendingFor.mono {request : Nat} {query : PendingQuery Flow}
    (h : PendingFor classify start events k request query) :
    PendingFor classify start events (k + 1) request query :=
  ⟨h.asks, Nat.lt_succ_of_lt h.earlier, h.opens⟩

theorem RunningFor.mono {request : Nat} {task : HttpsTask Flow}
    (h : RunningFor classify start events k request task) :
    RunningFor classify start events (k + 1) request task := by
  refine ⟨h.asks, Nat.lt_succ_of_lt h.earlier, h.starts, ?_⟩
  intro answer hanswer
  obtain ⟨between, hafter, hbefore, hevent⟩ := h.answered answer hanswer
  exact ⟨between, hafter, Nat.lt_succ_of_lt hbefore, hevent⟩

theorem WaitingFor.mono {request : Nat} {completion : Completion Flow}
    (h : WaitingFor classify start events k request completion) :
    WaitingFor classify start events (k + 1) request completion := by
  obtain ⟨number, between, hstarts, hafter, hbefore, hevent⟩ := h.answered
  exact ⟨h.asks, number, between, hstarts, hafter, Nat.lt_succ_of_lt hbefore, hevent⟩

/-- A ledger for one more event, from what is new in it. -/
theorem LedgerAt.succ (h : LedgerAt classify start events k ledger)
    (hcontent : after.Matches (stateAt classify start events (k + 1)).content)
    (hcount : ∀ request, after.count request ≤
      ledger.count request + if k = request then 1 else 0)
    (hpending : ∀ request query, (request, query) ∈ after.pending →
      (request, query) ∈ ledger.pending ∨
        PendingFor classify start events (k + 1) request query)
    (htasks : ∀ request task, (request, task) ∈ after.tasks →
      (request, task) ∈ ledger.tasks ∨ RunningFor classify start events (k + 1) request task)
    (hwaiting : ∀ request completion, (request, completion) ∈ after.waiting →
      (request, completion) ∈ ledger.waiting ∨
        WaitingFor classify start events (k + 1) request completion)
    (added : List (Nat × Bytes)) (hqueued : after.queued = ledger.queued ++ added)
    (hadded : ∀ request packet, (request, packet) ∈ added →
      request ≤ k ∧ RespondsTo classify start events request k packet) :
    LedgerAt classify start events (k + 1) after := by
  refine ⟨hcontent, ?_, ?_, ?_, ?_, ?_⟩
  · intro request
    have hold := h.once request
    have hnew := hcount request
    split at hold <;> split at hnew <;> split <;> omega
  · intro request query hmem
    rcases hpending request query hmem with hold | hnew
    · exact (h.pending request query hold).mono
    · exact hnew
  · intro request task hmem
    rcases htasks request task hmem with hold | hnew
    · exact (h.tasks request task hold).mono
    · exact hnew
  · intro request completion hmem
    rcases hwaiting request completion hmem with hold | hnew
    · exact (h.waiting request completion hold).mono
    · exact hnew
  · intro place request packet hplace
    rw [hqueued] at hplace
    by_cases hlt : place < ledger.queued.length
    · rw [List.getElem?_append_left hlt] at hplace
      exact h.queued place request packet hplace
    · -- A place behind the old packets was filled by this event.
      have hge : ledger.queued.length ≤ place := Nat.le_of_not_lt hlt
      have hmem := List.mem_of_getElem? (List.getElem?_append_right hge ▸ hplace)
      obtain ⟨hle, hresponds⟩ := hadded request packet hmem
      have hbefore : (stateAt classify start events k).queued.length = ledger.queued.length := by
        have hlength := congrArg List.length h.content.queued
        rw [List.length_map] at hlength
        exact hlength.symm
      have hafter :
          (stateAt classify start events (k + 1)).queued.length = after.queued.length := by
        have hlength := congrArg List.length hcontent.queued
        rw [List.length_map] at hlength
        exact hlength.symm
      refine ⟨k, hle, ⟨?_, ?_⟩, hresponds⟩
      · rw [hbefore]
        exact hge
      · rw [hafter, hqueued]
        exact (List.getElem?_eq_some_iff.1 hplace).1

theorem LedgerAt.succ_of_queued_eq (h : LedgerAt classify start events k ledger)
    (hcontent : after.Matches (stateAt classify start events (k + 1)).content)
    (hcount : ∀ request, after.count request ≤
      ledger.count request + if k = request then 1 else 0)
    (hpending : ∀ request query, (request, query) ∈ after.pending →
      (request, query) ∈ ledger.pending ∨
        PendingFor classify start events (k + 1) request query)
    (htasks : ∀ request task, (request, task) ∈ after.tasks →
      (request, task) ∈ ledger.tasks ∨ RunningFor classify start events (k + 1) request task)
    (hwaiting : ∀ request completion, (request, completion) ∈ after.waiting →
      (request, completion) ∈ ledger.waiting ∨
        WaitingFor classify start events (k + 1) request completion)
    (hqueued : after.queued = ledger.queued) : LedgerAt classify start events (k + 1) after := by
  refine h.succ hcontent hcount hpending htasks hwaiting [] ?_ ?_
  · rw [hqueued, List.append_nil]
  · intro request packet hmem
    cases hmem

section Event

variable {path : UdpPath} {now : Nat} {octets : Bytes} {flow : Flow} {server : Endpoint}
variable {payload : Bytes} {message : Dns.Message} {host : String}

theorem LedgerAt.unchanged (h : LedgerAt classify start events k ledger)
    (hcontent : (stateAt classify start events (k + 1)).content =
      (stateAt classify start events k).content) :
    LedgerAt classify start events (k + 1) ledger := by
  refine h.succ_of_queued_eq ?_ ?_ ?_ ?_ ?_ rfl
  · rw [hcontent]
    exact h.content
  · intro request
    exact Nat.le_add_right _ _
  · exact fun _ _ hmem => Or.inl hmem
  · exact fun _ _ hmem => Or.inl hmem
  · exact fun _ _ hmem => Or.inl hmem

theorem LedgerAt.answered {response : Dns.Message} {answer packet : Bytes}
    (h : LedgerAt classify start events k ledger)
    (hevent : events[k]? = some (.packet path now octets))
    (hask : AsksAbout start.session.servers octets flow server payload message host)
    (hlocal : (classify host (stateAt classify start events k).classifier).1.localAnswer? message =
      some response)
    (hencode : response.encode = .ok answer) (hpacket : Packet.response answer flow = .ok packet)
    (hcontent : (stateAt classify start events (k + 1)).content =
      { (stateAt classify start events k).content with
        queued := (stateAt classify start events k).content.queued ++ [packet] }) :
    LedgerAt classify start events (k + 1)
      { ledger with queued := ledger.queued ++ [(k, packet)] } := by
  refine h.succ ?_ ?_ ?_ ?_ ?_ [(k, packet)] rfl ?_
  · rw [hcontent]
    refine ⟨h.content.pending, h.content.tasks, h.content.waiting, ?_⟩
    rw [List.map_append, h.content.queued]
    rfl
  · intro request
    simp only [Ledger.count, share_append, share_cons, share_nil]
    omega
  · exact fun _ _ hmem => Or.inl hmem
  · exact fun _ _ hmem => Or.inl hmem
  · exact fun _ _ hmem => Or.inl hmem
  · intro request found hmem
    obtain ⟨rfl, rfl⟩ := Prod.mk.inj (List.mem_singleton.1 hmem)
    exact ⟨Nat.le_refl _, flow, server, payload, message, host, answer,
      ⟨path, now, octets, hevent, hask⟩, .here rfl hlocal hencode, hpacket⟩

theorem LedgerAt.tracked {kept : List (PendingQuery Flow)}
    (h : LedgerAt classify start events k ledger)
    (hevent : events[k]? = some (.packet path now octets))
    (hask : AsksAbout start.session.servers octets flow server payload message host)
    (hkept : kept.Sublist (stateAt classify start events k).content.pending)
    (hcontent : (stateAt classify start events (k + 1)).content =
      { (stateAt classify start events k).content with
        pending := kept ++
          [⟨(stateAt classify start events k).content.socketsOpened, flow, now⟩]
        socketsOpened := (stateAt classify start events k).content.socketsOpened + 1 }) :
    ∃ after, LedgerAt classify start events (k + 1) after := by
  rw [← h.content.pending] at hkept
  obtain ⟨old, hold, rfl⟩ := List.sublist_map_iff.1 hkept
  let query : PendingQuery Flow :=
    ⟨(stateAt classify start events k).content.socketsOpened, flow, now⟩
  refine ⟨{ ledger with pending := old ++ [(k, query)] }, ?_⟩
  refine h.succ_of_queued_eq ?_ ?_ ?_ ?_ ?_ rfl
  · rw [hcontent]
    refine ⟨?_, h.content.tasks, h.content.waiting, h.content.queued⟩
    rw [List.map_append]
    rfl
  · intro request
    have hshare : share request old ≤ share request ledger.pending := share_le_of_sublist hold
    simp only [Ledger.count, share_append, share_cons, share_nil]
    omega
  · intro request found hmem
    rcases mem_of_mem_append_entry hmem with hmem | ⟨rfl, rfl⟩
    · exact Or.inl (hold.subset hmem)
    · exact Or.inr ⟨⟨server, payload, message, host, path, now, octets, hevent, hask⟩,
        Nat.lt_succ_self _, rfl, by rw [hcontent]⟩
  · exact fun _ _ hmem => Or.inl hmem
  · exact fun _ _ hmem => Or.inl hmem

theorem LedgerAt.started (h : LedgerAt classify start events k ledger)
    (hevent : events[k]? = some (.packet path now octets))
    (hask : AsksAbout start.session.servers octets flow server payload message host)
    (hcontent : (stateAt classify start events (k + 1)).content =
      { (stateAt classify start events k).content with
        tasks := (stateAt classify start events k).content.tasks ++
          [⟨(stateAt classify start events k).content.tasksStarted, payload, flow, none⟩]
        tasksStarted := (stateAt classify start events k).content.tasksStarted + 1 }) :
    ∃ after, LedgerAt classify start events (k + 1) after := by
  let task : HttpsTask Flow :=
    ⟨(stateAt classify start events k).content.tasksStarted, payload, flow, none⟩
  refine ⟨{ ledger with tasks := ledger.tasks ++ [(k, task)] }, ?_⟩
  refine h.succ_of_queued_eq ?_ ?_ ?_ ?_ ?_ rfl
  · rw [hcontent]
    refine ⟨h.content.pending, ?_, h.content.waiting, h.content.queued⟩
    rw [List.map_append, h.content.tasks]
    rfl
  · intro request
    simp only [Ledger.count, share_append, share_cons, share_nil]
    omega
  · exact fun _ _ hmem => Or.inl hmem
  · intro request found hmem
    rcases mem_of_mem_append_entry hmem with hmem | ⟨rfl, rfl⟩
    · exact Or.inl hmem
    · refine Or.inr ⟨⟨server, payload, message, host, path, now, octets, hevent, hask⟩,
        Nat.lt_succ_self _, ⟨rfl, by rw [hcontent]⟩, ?_⟩
      intro answer hanswer
      cases hanswer
  · exact fun _ _ hmem => Or.inl hmem

theorem LedgerAt.drained {read : Nat → SocketRead} (h : LedgerAt classify start events k ledger)
    (hevent : events[k]? = some (.answers read))
    (hcontent : (stateAt classify start events (k + 1)).content =
      { (stateAt classify start events k).content with
        pending :=
          (Tracker.drainQueries read (stateAt classify start events k).content.pending).kept
        queued := (stateAt classify start events k).content.queued ++
          (Tracker.drainQueries read (stateAt classify start events k).content.pending).packets }) :
    LedgerAt classify start events (k + 1)
      { ledger with
        pending := keptEntries read ledger.pending
        queued := ledger.queued ++ answeredEntries read ledger.pending } := by
  refine h.succ ?_ ?_ ?_ ?_ ?_ (answeredEntries read ledger.pending) rfl ?_
  · rw [hcontent]
    refine ⟨?_, h.content.tasks, h.content.waiting, ?_⟩
    · rw [map_snd_keptEntries, h.content.pending]
    · rw [List.map_append, h.content.queued, map_snd_answeredEntries, h.content.pending]
  · intro request
    have hshare := share_drained read ledger.pending request
    simp only [Ledger.count, share_append]
    omega
  · exact fun _ _ hmem => Or.inl (mem_of_mem_keptEntries read ledger.pending hmem)
  · exact fun _ _ hmem => Or.inl hmem
  · exact fun _ _ hmem => Or.inl hmem
  · intro request packet hmem
    obtain ⟨query, datagram, hquery, hread, hpacket⟩ :=
      exists_of_mem_answeredEntries read ledger.pending hmem
    have hfor := h.pending request query hquery
    obtain ⟨server, payload, message, host, hrequest⟩ := hfor.asks
    exact ⟨Nat.le_of_lt hfor.earlier, query.reply, server, payload, message, host, _, hrequest,
      .socket hfor.opens (fun _ => hfor.opens.unique) hfor.earlier hevent hread, hpacket⟩

theorem LedgerAt.completed {completion : Completion Flow} {waiting : List (Completion Flow)}
    (h : LedgerAt classify start events k ledger) (hevent : events[k]? = some .completion)
    (hwaiting : (stateAt classify start events k).content.waiting = completion :: waiting)
    (hcontent : (stateAt classify start events (k + 1)).content =
      { (stateAt classify start events k).content with
        waiting := waiting
        queued := (stateAt classify start events k).content.queued ++
          completion.assemble.toOption.toList }) :
    ∃ after, LedgerAt classify start events (k + 1) after := by
  rw [← h.content.waiting] at hwaiting
  obtain ⟨⟨owner, found⟩, rest, hentries, rfl, hrest⟩ := List.map_eq_cons_iff.1 hwaiting
  let added := found.assemble.toOption.toList.map fun packet => (owner, packet)
  refine ⟨{ ledger with waiting := rest, queued := ledger.queued ++ added }, ?_⟩
  refine h.succ ?_ ?_ ?_ ?_ ?_ added rfl ?_
  · rw [hcontent]
    refine ⟨h.content.pending, h.content.tasks, hrest, ?_⟩
    rw [List.map_append, h.content.queued, List.map_map]
    simp only [Function.comp_def, List.map_id']
  · intro request
    have hshare : share request added ≤ if owner = request then 1 else 0 := by
      cases hassemble : found.assemble with
      | error cause =>
        simp only [added, hassemble]
        exact Nat.zero_le _
      | ok packet =>
        have hadded : added = [(owner, packet)] := by
          simp only [added, hassemble]
          rfl
        exact Nat.le_of_eq (by rw [hadded, share_cons, share_nil, Nat.zero_add])
    simp only [Ledger.count, hentries, share_append, share_cons]
    omega
  · exact fun _ _ hmem => Or.inl hmem
  · exact fun _ _ hmem => Or.inl hmem
  · intro request other hmem
    rw [hentries]
    exact Or.inl (List.mem_cons_of_mem _ hmem)
  · intro request packet hmem
    obtain ⟨built, hbuilt, hpair⟩ := List.mem_map.1 hmem
    obtain ⟨rfl, rfl⟩ := Prod.mk.inj hpair
    have hpacket : found.assemble = .ok built :=
      toOption_eq_some_iff.1 (Option.mem_toList.1 hbuilt)
    have hfor := h.waiting owner found (by rw [hentries]; exact List.mem_cons_self)
    obtain ⟨number, between, hstarts, hafter, hbefore, hanswered⟩ := hfor.answered
    obtain ⟨server, payload, message, host, hrequest⟩ := hfor.asks
    exact ⟨Nat.le_of_lt (Nat.lt_trans hafter hbefore), found.reply, server, payload, message, host,
      found.answer, hrequest,
      .task hstarts (fun _ => hstarts.unique) hafter hbefore hanswered hevent, hpacket⟩

theorem LedgerAt.taskFailed (h : LedgerAt classify start events k ledger) (number : Nat)
    (hcontent : (stateAt classify start events (k + 1)).content =
      { (stateAt classify start events k).content with
        tasks := (stateAt classify start events k).content.tasks.filter (·.number != number) }) :
    LedgerAt classify start events (k + 1)
      { ledger with tasks := ledger.tasks.filter fun entry => entry.2.number != number } := by
  refine h.succ_of_queued_eq ?_ ?_ ?_ ?_ ?_ rfl
  · rw [hcontent]
    refine ⟨h.content.pending, ?_, h.content.waiting, h.content.queued⟩
    rw [← h.content.tasks, List.filter_map]
    rfl
  · intro request
    have hshare : share request (ledger.tasks.filter fun entry => entry.2.number != number) ≤
        share request ledger.tasks := share_le_of_sublist List.filter_sublist
    simp only [Ledger.count]
    omega
  · exact fun _ _ hmem => Or.inl hmem
  · exact fun _ _ hmem => Or.inl (List.mem_of_mem_filter hmem)
  · exact fun _ _ hmem => Or.inl hmem

def answeredTask (number : Nat) (answer : Bytes) (task : HttpsTask Flow) : HttpsTask Flow :=
  if task.number = number then { task with answer := task.answer.or (some answer) } else task

theorem RunningFor.answeredTask {request number : Nat} {task : HttpsTask Flow} {answer : Bytes}
    (h : RunningFor classify start events k request task)
    (hevent : events[k]? = some (.request number (.answered answer))) :
    RunningFor classify start events (k + 1) request (answeredTask number answer task) := by
  rw [SessionRun.answeredTask]
  split
  · rename_i hnumber
    refine ⟨h.asks, Nat.lt_succ_of_lt h.earlier, h.starts, ?_⟩
    intro found hfound
    cases hanswer : task.answer with
    | none =>
      simp only [hanswer, Option.none_or, Option.some.injEq] at hfound
      rw [← hfound]
      refine ⟨k, h.earlier, Nat.lt_succ_self k, ?_⟩
      rw [hnumber]
      exact hevent
    | some old =>
      simp only [hanswer, Option.some_or, Option.some.injEq] at hfound
      rw [← hfound]
      exact h.mono.answered old hanswer
  · exact h.mono

theorem LedgerAt.taskAnswered {number : Nat} {answer : Bytes}
    (h : LedgerAt classify start events k ledger)
    (hevent : events[k]? = some (.request number (.answered answer)))
    (hcontent : (stateAt classify start events (k + 1)).content =
      { (stateAt classify start events k).content with
        tasks := (stateAt classify start events k).content.tasks.map
          (answeredTask number answer) }) :
    LedgerAt classify start events (k + 1)
      { ledger with
        tasks := ledger.tasks.map fun entry => (entry.1, answeredTask number answer entry.2) } := by
  refine h.succ_of_queued_eq ?_ ?_ ?_ ?_ ?_ rfl
  · rw [hcontent]
    refine ⟨h.content.pending, ?_, h.content.waiting, h.content.queued⟩
    rw [← h.content.tasks, List.map_map, List.map_map]
    rfl
  · intro request
    simp only [Ledger.count, share_map]
    omega
  · exact fun _ _ hmem => Or.inl hmem
  · intro request task hmem
    obtain ⟨⟨owner, old⟩, hold, hpair⟩ := List.mem_map.1 hmem
    obtain ⟨rfl, rfl⟩ := Prod.mk.inj hpair
    exact Or.inr ((h.tasks owner old hold).answeredTask hevent)
  · exact fun _ _ hmem => Or.inl hmem

theorem LedgerAt.handedOver {number : Nat} {task : HttpsTask Flow} {answer : Bytes}
    (h : LedgerAt classify start events k ledger)
    (htask : task ∈ (stateAt classify start events k).content.tasks)
    (hnumber : task.number = number) (hanswer : task.answer = some answer)
    (hcontent : (stateAt classify start events (k + 1)).content =
      { (stateAt classify start events k).content with
        tasks := (stateAt classify start events k).content.tasks.filter (·.number != number)
        waiting := (stateAt classify start events k).content.waiting ++
          [⟨answer, task.reply⟩] }) :
    ∃ after, LedgerAt classify start events (k + 1) after := by
  rw [← h.content.tasks] at htask
  obtain ⟨⟨owner, found⟩, hfound, rfl⟩ := List.mem_map.1 htask
  have hdrop : (found.number != number) = false := bne_eq_false_iff_eq.2 hnumber
  let completion : Completion Flow := ⟨answer, found.reply⟩
  refine ⟨{ ledger with
    tasks := ledger.tasks.filter fun entry => entry.2.number != number
    waiting := ledger.waiting ++ [(owner, completion)] }, ?_⟩
  refine h.succ_of_queued_eq ?_ ?_ ?_ ?_ ?_ rfl
  · rw [hcontent]
    refine ⟨h.content.pending, ?_, ?_, h.content.queued⟩
    · rw [← h.content.tasks, List.filter_map]
      rfl
    · rw [List.map_append, h.content.waiting]
      rfl
  · intro request
    have hshare : share request (ledger.tasks.filter fun entry => entry.2.number != number) +
        (if owner = request then 1 else 0) ≤ share request ledger.tasks :=
      share_filter_add_le hfound hdrop
    simp only [Ledger.count, share_append, share_cons, share_nil]
    omega
  · exact fun _ _ hmem => Or.inl hmem
  · exact fun _ _ hmem => Or.inl (List.mem_of_mem_filter hmem)
  · intro request other hmem
    rcases mem_of_mem_append_entry hmem with hmem | ⟨rfl, rfl⟩
    · exact Or.inl hmem
    · have hfor := h.tasks request found hfound
      obtain ⟨between, hafter, hbefore, hevent⟩ := hfor.answered answer hanswer
      exact Or.inr ⟨hfor.asks, found.number, between, hfor.starts, hafter,
        Nat.lt_succ_of_lt hbefore, hevent⟩

end Event

theorem LedgerAt.exists_succ (h : LedgerAt classify start events k ledger)
    (hevent : events[k]? = some event) : ∃ after, LedgerAt classify start events (k + 1) after := by
  have hcase := step_cases classify (stateAt classify start events k) event
  have hservers : (stateAt classify start events k).session.servers = start.session.servers :=
    servers_stateAt
  rw [← stateAt_succ hevent] at hcase
  generalize hcontent : (stateAt classify start events (k + 1)).content = content at hcase
  cases hcase with
  | unchanged _ => exact ⟨_, h.unchanged hcontent⟩
  | answered hask hlocal hencode hpacket =>
    rw [hservers] at hask
    exact ⟨_, h.answered hevent hask hlocal hencode hpacket hcontent⟩
  | tracked hask hkept =>
    rw [hservers] at hask
    exact h.tracked hevent hask hkept hcontent
  | started hask =>
    rw [hservers] at hask
    exact h.started hevent hask hcontent
  | drained read => exact ⟨_, h.drained hevent hcontent⟩
  | taskFailed number => exact ⟨_, h.taskFailed number hcontent⟩
  | taskAnswered number answer => exact ⟨_, h.taskAnswered hevent hcontent⟩
  | handedOver htask hnumber hanswer => exact h.handedOver htask hnumber hanswer hcontent
  | completed hwaiting => exact h.completed hevent hwaiting hcontent

theorem ledgerAt_zero (classify : Classifier κ) (servers : ServerMap) (capacity : Nat)
    (classifier : κ) (forwarder : Forwarder) (events : List SessionEvent) :
    LedgerAt classify (new servers capacity classifier forwarder) events 0 ⟨[], [], [], []⟩ where
  content := ⟨rfl, rfl, rfl, rfl⟩
  once := fun _ => Nat.le_refl _
  pending := by
    intro request query hmem
    cases hmem
  tasks := by
    intro request task hmem
    cases hmem
  waiting := by
    intro request completion hmem
    cases hmem
  queued := by
    intro place request packet hplace
    cases hplace

theorem exists_ledgerAt (classify : Classifier κ) (servers : ServerMap) (capacity : Nat)
    (classifier : κ) (forwarder : Forwarder) (events : List SessionEvent) (hk : k ≤ events.length) :
    ∃ ledger, LedgerAt classify (new servers capacity classifier forwarder) events k ledger := by
  induction k with
  | zero => exact ⟨_, ledgerAt_zero classify servers capacity classifier forwarder events⟩
  | succ k ih =>
    obtain ⟨ledger, hledger⟩ := ih (Nat.le_of_succ_le hk)
    exact hledger.exists_succ (List.getElem?_eq_getElem hk)

/-- A packet that answers a request: what it carries, and where it goes. -/
structure ResponseTo (classify : Classifier κ) (start : SessionRun κ) (events : List SessionEvent)
    (request later : Nat) (packet : Bytes) (flow : Flow) (server : Endpoint) (payload : Bytes)
    (message : Dns.Message) (host : String) (answer : Bytes) : Prop where
  requested : RequestAt start events request flow server payload message host
  answered : AnswerAt classify start events request later message host answer
  extracted : answer.length ≤ flow.maxPayload →
    Packet.datagram? packet = some (flow.reversed, answer)
  /-- It comes from a synthetic address. -/
  source : ∀ address, start.session.servers.reverseLookup address = none →
    flow.reversed.source ≠ address

theorem RespondsTo.exists_responseTo {request later : Nat} {packet : Bytes}
    (h : RespondsTo classify start events request later packet) :
    ∃ flow server payload message host answer,
      ResponseTo classify start events request later packet flow server payload message host
        answer := by
  obtain ⟨flow, server, payload, message, host, answer, hrequest, hanswer, hpacket⟩ := h
  obtain ⟨path, now, octets, hevent, hask⟩ := hrequest
  have hresponse : ∃ built, Packet.response answer flow = .ok built ∧
      (answer.length ≤ flow.maxPayload → Packet.datagram? built = some (flow.reversed, answer)) :=
    Packet.response_ok _ hask.oneFamily
  obtain ⟨built, hbuilt, hextracts⟩ := hresponse
  obtain rfl : packet = built := Except.ok.inj (hpacket.symm.trans hbuilt)
  refine ⟨flow, server, payload, message, host, answer,
    ⟨⟨path, now, octets, hevent, hask⟩, hanswer, hextracts, ?_⟩⟩
  rintro address hunmapped rfl
  have hclash := hask.mapped.symm.trans hunmapped
  cases hclash

/-- Every packet that a session queues answers a request that came no later, and no two answer the
same one. -/
theorem queued_correlated (classify : Classifier κ) (servers : ServerMap) (capacity : Nat)
    (classifier : κ) (forwarder : Forwarder) (events : List SessionEvent) :
    let start := new servers capacity classifier forwarder
    let queued := (events.foldl (step classify) start).queued
    ∃ origin : Nat → Nat,
      (∀ place other, place < queued.length → other < queued.length →
        origin place = origin other → place = other) ∧
      ∀ place packet, queued[place]? = some packet →
        ∃ later, origin place ≤ later ∧ QueuesAt classify start events later place ∧
          ∃ flow server payload message host answer,
            ResponseTo classify start events (origin place) later packet flow server payload
              message host answer := by
  intro start queued
  obtain ⟨ledger, hledger⟩ := exists_ledgerAt classify servers capacity classifier forwarder events
    (Nat.le_refl events.length)
  have hqueued : ledger.queued.map Prod.snd = queued := by
    have hcontent := hledger.content.queued
    rw [stateAt, List.take_length] at hcontent
    exact hcontent
  have hlength : ledger.queued.length = queued.length := by
    rw [← hqueued, List.length_map]
  have honce : ∀ request, ledger.count request ≤ 1 := by
    intro request
    have hcount := hledger.once request
    split at hcount <;> omega
  refine ⟨ledger.origin, ?_, ?_⟩
  · intro place other hplace hother hsame
    rw [← hlength] at hplace hother
    exact Ledger.origin_injective honce hplace hother hsame
  · intro place packet hplace
    rw [← hqueued, List.getElem?_map] at hplace
    obtain ⟨⟨request, found⟩, hentry, rfl⟩ := Option.map_eq_some_iff.1 hplace
    obtain ⟨later, hle, hqueues, hresponds⟩ := hledger.queued place request found hentry
    rw [Ledger.origin_eq hentry]
    exact ⟨later, hle, hqueues, hresponds.exists_responseTo⟩

end Sinkhole.SessionRun
