import Sinkhole.Lifecycle.Worker
import Sinkhole.Proofs.Places
import Sinkhole.Proofs.Proxy.Decision

/-! # Runs of one session

Packets from the tunnel, answers on query sockets, requests over HTTPS and completions come in any
order. What matters about a session is what waits in it and what it has queued, and each event
moves little of that: `step_cases` says what.
-/
namespace Sinkhole

inductive SessionEvent where
  /-- A packet from the tunnel is handled. -/
  | packet (path : UdpPath) (now : Nat) (octets : Bytes)
  /-- The sockets of all pending queries are read. -/
  | answers (read : Nat → SocketRead)
  /-- A request over HTTPS goes on. -/
  | request (number : Nat) (event : RequestEvent)
  /-- The oldest completion is completed. -/
  | completion
  /-- The first packets of the queue leave it, written or lost. -/
  | written (count : Nat)
  /-- Requests outside the session take or return permits. -/
  | permits (free : Nat)

/-- A session with all that its events work on. -/
structure SessionRun (κ : Type) where
  session : SessionState Flow
  classifier : κ
  forwarder : Forwarder
  /-- The packets that have left the queue. -/
  gone : List Bytes

structure SessionContent where
  servers : ServerMap
  pending : List (PendingQuery Flow)
  tasks : List (HttpsTask Flow)
  waiting : List (Completion Flow)
  queued : List Bytes
  socketsOpened : Nat
  tasksStarted : Nat

namespace SessionRun

variable {κ : Type}

/-- A session that was just established. -/
def new (servers : ServerMap) (capacity : Nat) (classifier : κ) (forwarder : Forwarder) :
    SessionRun κ :=
  ⟨.new servers capacity, classifier, forwarder, []⟩

def queued (run : SessionRun κ) : List Bytes :=
  run.gone ++ run.session.outbound

def content (run : SessionRun κ) : SessionContent :=
  ⟨run.session.servers, run.session.pending.queries, run.session.tasks,
    run.session.completions.waiting, run.queued, run.session.socketsOpened,
    run.session.tasksStarted⟩

def step (classify : Classifier κ) (run : SessionRun κ) : SessionEvent → SessionRun κ
  | .packet path now octets =>
    let handled := handlePacket classify (Forwarder.resolve path now) octets run.session
      run.classifier run.forwarder
    { run with
      session := handled.session
      classifier := handled.classifier
      forwarder := handled.resolver }
  | .answers read => { run with session := (run.session.drain read).1 }
  | .request number event =>
    match run.forwarder.onHttps run.session (Worker.applyRequest number event) with
    | some (forwarder, session) => { run with session := session, forwarder := forwarder }
    | none => run
  | .completion =>
    match run.session.completions.waiting with
    | [] => run
    | completion :: waiting =>
      let completions := { run.session.completions with waiting := waiting }
      let session := { run.session with completions := completions }
      { run with session := session.complete completion }
  | .written count =>
    { run with
      session := { run.session with outbound := run.session.outbound.drop count }
      gone := run.gone ++ run.session.outbound.take count }
  | .permits free =>
    match run.forwarder with
    | .udp => run
    | .https resolver => { run with forwarder := .https { resolver with free := free } }

/-- What a packet can do to a session. Whatever it does, it does for the request that it is. -/
inductive PacketCase (classify : Classifier κ) (now : Nat) (octets : Bytes)
    (session : SessionState Flow) (classifier : κ) : SessionState Flow → Prop where
  | unchanged : PacketCase classify now octets session classifier session
  | answered {flow : Flow} {server : Endpoint} {payload : Bytes} {message : Dns.Message}
      {host : String} {response : Dns.Message} {answer packet : Bytes}
      (hask : AsksAbout session.servers octets flow server payload message host)
      (hlocal : (classify host classifier).1.localAnswer? message = some response)
      (hencode : response.encode = .ok answer)
      (hpacket : Packet.response answer flow = .ok packet) :
      PacketCase classify now octets session classifier (session.queue packet)
  | tracked {flow : Flow} {server : Endpoint} {payload : Bytes} {message : Dns.Message}
      {host : String} (hask : AsksAbout session.servers octets flow server payload message host) :
      PacketCase classify now octets session classifier (session.track now flow).1
  | started {flow : Flow} {server : Endpoint} {payload : Bytes} {message : Dns.Message}
      {host : String} (hask : AsksAbout session.servers octets flow server payload message host) :
      PacketCase classify now octets session classifier (session.startTask payload flow)

theorem handlePacket_packetCase (classify : Classifier κ) (path : UdpPath) (now : Nat)
    (octets : Bytes) (session : SessionState Flow) (classifier : κ) (forwarder : Forwarder) :
    PacketCase classify now octets session classifier
      (handlePacket classify (Forwarder.resolve path now) octets session classifier
        forwarder).session := by
  have hcases := handlePacket_cases classify (Forwarder.resolve path now) octets session classifier
    forwarder
  generalize hostsAsked classify _ octets session classifier forwarder = hosts at hcases
  generalize resolverCalls classify _ octets session classifier forwarder = calls at hcases
  generalize handlePacket classify _ octets session classifier forwarder = handled at hcases ⊢
  cases hcases with
  | dropped _ _ => exact .unchanged
  | @keptAlive server _ =>
    have hresolve := Forwarder.resolve_cases path now ⟨server, [], none⟩ session forwarder
    dsimp only at hresolve ⊢
    generalize Forwarder.resolve path now ⟨server, [], none⟩ session forwarder = resolved
      at hresolve ⊢
    rcases resolved with ⟨result, after, counters, state⟩
    cases hresolve with
    | failed error => exact .unchanged
    | dropped => exact .unchanged
    | tracked hreply => cases hreply
    | started hreply => cases hreply
  | @answered request classification next response hask hclass hlocal =>
    rcases answerLocally_eq_or request.flow response session with
      hsame | ⟨answer, packet, hencode, hpacket, hqueued⟩
    · dsimp only
      rw [hsame]
      exact .unchanged
    · dsimp only
      rw [hqueued]
      refine .answered hask ?_ hencode hpacket
      rw [hclass]
      exact hlocal
  | @forwarded request next hask _ =>
    have hresolve := Forwarder.resolve_cases path now request.query session forwarder
    dsimp only at hresolve
    have hsession :
        (forwardRequest (Forwarder.resolve path now) request session next forwarder).session =
          (Forwarder.resolve path now request.query session forwarder).session := by
      apply forwardRequest_session
      intro answer himmediate
      rw [himmediate] at hresolve
      cases hresolve
    rw [hsession]
    generalize Forwarder.resolve path now request.query session forwarder = resolved at hresolve ⊢
    rcases resolved with ⟨result, after, counters, state⟩
    cases hresolve with
    | failed error => exact .unchanged
    | dropped => exact .unchanged
    | tracked hreply =>
      cases hreply
      exact .tracked hask
    | started hreply =>
      cases hreply
      exact .started hask

/-- What an event can do to the content of a session. -/
inductive StepCase (classify : Classifier κ) (run : SessionRun κ) :
    SessionEvent → SessionContent → Prop where
  | unchanged (event : SessionEvent) : StepCase classify run event run.content
  | answered {path : UdpPath} {now : Nat} {octets : Bytes} {flow : Flow} {server : Endpoint}
      {payload : Bytes} {message : Dns.Message} {host : String} {response : Dns.Message}
      {answer packet : Bytes}
      (hask : AsksAbout run.session.servers octets flow server payload message host)
      (hlocal : (classify host run.classifier).1.localAnswer? message = some response)
      (hencode : response.encode = .ok answer)
      (hpacket : Packet.response answer flow = .ok packet) :
      StepCase classify run (.packet path now octets)
        { run.content with queued := run.content.queued ++ [packet] }
  | tracked {path : UdpPath} {now : Nat} {octets : Bytes} {flow : Flow} {server : Endpoint}
      {payload : Bytes} {message : Dns.Message} {host : String} {kept : List (PendingQuery Flow)}
      (hask : AsksAbout run.session.servers octets flow server payload message host)
      (hkept : kept.Sublist run.content.pending) :
      StepCase classify run (.packet path now octets)
        { run.content with
          pending := kept ++ [⟨run.content.socketsOpened, flow, now⟩]
          socketsOpened := run.content.socketsOpened + 1 }
  | started {path : UdpPath} {now : Nat} {octets : Bytes} {flow : Flow} {server : Endpoint}
      {payload : Bytes} {message : Dns.Message} {host : String}
      (hask : AsksAbout run.session.servers octets flow server payload message host) :
      StepCase classify run (.packet path now octets)
        { run.content with
          tasks := run.content.tasks ++ [⟨run.content.tasksStarted, payload, flow, none⟩]
          tasksStarted := run.content.tasksStarted + 1 }
  | drained (read : Nat → SocketRead) :
      StepCase classify run (.answers read)
        { run.content with
          pending := (Tracker.drainQueries read run.content.pending).kept
          queued := run.content.queued ++ (Tracker.drainQueries read run.content.pending).packets }
  | taskFailed (number : Nat) :
      StepCase classify run (.request number .failed)
        { run.content with tasks := run.content.tasks.filter (·.number != number) }
  | taskAnswered (number : Nat) (answer : Bytes) :
      StepCase classify run (.request number (.answered answer))
        { run.content with
          tasks := run.content.tasks.map fun task =>
            if task.number = number then { task with answer := task.answer.or (some answer) }
            else task }
  | handedOver {number : Nat} {task : HttpsTask Flow} {answer : Bytes}
      (htask : task ∈ run.content.tasks) (hnumber : task.number = number)
      (hanswer : task.answer = some answer) :
      StepCase classify run (.request number .handedOver)
        { run.content with
          tasks := run.content.tasks.filter (·.number != number)
          waiting := run.content.waiting ++ [⟨answer, task.reply⟩] }
  | completed {completion : Completion Flow} {waiting : List (Completion Flow)}
      (hwaiting : run.content.waiting = completion :: waiting) :
      StepCase classify run .completion
        { run.content with
          waiting := waiting
          queued := run.content.queued ++ completion.assemble.toOption.toList }

theorem complete_eq (session : SessionState Flow) (completion : Completion Flow) :
    session.complete completion =
      { session with outbound := session.outbound ++ completion.assemble.toOption.toList } := by
  rw [SessionState.complete]
  cases completion.assemble with
  | error cause =>
    have hnone : (Except.error cause : Except Error Bytes).toOption.toList = [] := rfl
    rw [hnone, List.append_nil]
  | ok packet => rfl

theorem makeRoom_sublist {ρ : Type} (capacity now : Nat) (queries : List (PendingQuery ρ)) :
    (Tracker.makeRoom capacity (Tracker.unexpired now queries)).Sublist queries := by
  have hunexpired : (Tracker.unexpired now queries).Sublist queries :=
    List.dropWhile_sublist _
  rw [Tracker.makeRoom]
  split
  · exact (List.drop_sublist _ _).trans hunexpired
  · exact hunexpired

theorem step_packet_cases (classify : Classifier κ) (run : SessionRun κ) (path : UdpPath)
    (now : Nat) (octets : Bytes) :
    StepCase classify run (.packet path now octets)
      (run.step classify (.packet path now octets)).content := by
  have hcase := handlePacket_packetCase classify path now octets run.session run.classifier
    run.forwarder
  rw [step]
  generalize handlePacket classify (Forwarder.resolve path now) octets run.session run.classifier
    run.forwarder = handled at hcase ⊢
  rcases handled with ⟨result, after, counters, classifier, forwarder⟩
  cases hcase with
  | unchanged => exact .unchanged _
  | @answered flow server payload message host response answer packet hask hlocal hencode hpacket =>
    show StepCase classify run _
      ⟨_, _, _, _, run.gone ++ (run.session.outbound ++ [packet]), _, _⟩
    rw [← List.append_assoc]
    exact .answered hask hlocal hencode hpacket
  | tracked hask => exact .tracked hask (makeRoom_sublist _ _ _)
  | started hask => exact .started hask

theorem step_request_cases (classify : Classifier κ) (run : SessionRun κ) (number : Nat)
    (event : RequestEvent) :
    StepCase classify run (.request number event)
      (run.step classify (.request number event)).content := by
  rw [step]
  cases hforwarder : run.forwarder with
  | udp => exact .unchanged _
  | https resolver =>
    cases event with
    | failed => exact .taskFailed number
    | answered answer => exact .taskAnswered number answer
    | handedOver =>
      simp only [Forwarder.onHttps, Worker.applyRequest, HttpsResolver.handOver?,
        HttpsResolver.endTask]
      cases htask : run.session.tasks.find? (·.number = number) with
      | none => exact .unchanged _
      | some task =>
        cases hanswer : task.answer with
        | none => simpa [hanswer] using .unchanged _
        | some answer =>
          have hmem : task ∈ run.session.tasks := List.mem_of_find?_eq_some htask
          have hnumber : task.number = number := by simpa using List.find?_some htask
          simp only [CompletionQueue.push?, Option.bind_eq_bind, Option.bind_some, hanswer]
          by_cases hroom : run.session.completions.waiting.length <
              run.session.completions.capacity
          · simp only [if_pos hroom]
            exact .handedOver hmem hnumber hanswer
          · simp only [if_neg hroom]
            exact .unchanged _

/-- Every event does one of these things, and nothing else. -/
theorem step_cases (classify : Classifier κ) (run : SessionRun κ) (event : SessionEvent) :
    StepCase classify run event (run.step classify event).content := by
  cases event with
  | packet path now octets => exact step_packet_cases classify run path now octets
  | answers read =>
    show StepCase classify run _ ⟨_, _, _, _, run.gone ++ (run.session.outbound ++
      (Tracker.drainQueries read run.session.pending.queries).packets), _, _⟩
    rw [← List.append_assoc]
    exact .drained read
  | request number event => exact step_request_cases classify run number event
  | completion =>
    rw [step]
    cases hwaiting : run.session.completions.waiting with
    | nil => exact .unchanged _
    | cons completion waiting =>
      dsimp only
      rw [complete_eq]
      show StepCase classify run _ ⟨_, _, _, _, run.gone ++ (run.session.outbound ++
        completion.assemble.toOption.toList), _, _⟩
      rw [← List.append_assoc]
      exact .completed hwaiting
  | written count =>
    have hqueued : (run.gone ++ run.session.outbound.take count) ++
        run.session.outbound.drop count = run.gone ++ run.session.outbound := by
      rw [List.append_assoc, List.take_append_drop]
    show StepCase classify run _ ⟨_, _, _, _,
      (run.gone ++ run.session.outbound.take count) ++ run.session.outbound.drop count, _, _⟩
    rw [hqueued]
    exact .unchanged _
  | permits free =>
    rw [step]
    cases run.forwarder <;> exact .unchanged _

theorem step_servers (classify : Classifier κ) (run : SessionRun κ) (event : SessionEvent) :
    (run.step classify event).content.servers = run.content.servers := by
  have hcase := step_cases classify run event
  generalize (run.step classify event).content = content at hcase ⊢
  cases hcase <;> rfl

theorem socketsOpened_le_step (classify : Classifier κ) (run : SessionRun κ)
    (event : SessionEvent) :
    run.content.socketsOpened ≤ (run.step classify event).content.socketsOpened := by
  have hcase := step_cases classify run event
  generalize (run.step classify event).content = content at hcase ⊢
  cases hcase with
  | tracked _ _ => exact Nat.le_succ _
  | _ => exact Nat.le_refl _

theorem tasksStarted_le_step (classify : Classifier κ) (run : SessionRun κ)
    (event : SessionEvent) :
    run.content.tasksStarted ≤ (run.step classify event).content.tasksStarted := by
  have hcase := step_cases classify run event
  generalize (run.step classify event).content = content at hcase ⊢
  cases hcase with
  | started _ => exact Nat.le_succ _
  | _ => exact Nat.le_refl _

def stateAt (classify : Classifier κ) (start : SessionRun κ) (events : List SessionEvent)
    (count : Nat) : SessionRun κ :=
  (events.take count).foldl (step classify) start

variable {classify : Classifier κ} {start : SessionRun κ} {events : List SessionEvent} {k : Nat}

theorem stateAt_succ {event : SessionEvent} (h : events[k]? = some event) :
    stateAt classify start events (k + 1) =
      (stateAt classify start events k).step classify event :=
  foldl_take_succ h

theorem stateAt_succ_of_none (h : events[k]? = none) :
    stateAt classify start events (k + 1) = stateAt classify start events k :=
  foldl_take_succ_of_none h

/-- What holds between a session and the one after any event holds over every stretch of a run. -/
theorem stateAt_rel {r : SessionRun κ → SessionRun κ → Prop} (hrefl : ∀ run, r run run)
    (htrans : ∀ first second third, r first second → r second third → r first third)
    (hstep : ∀ run event, r run (run.step classify event)) {l : Nat} (h : k ≤ l) :
    r (stateAt classify start events k) (stateAt classify start events l) := by
  refine foldl_take_keeps (P := r (stateAt classify start events k)) ?_ h (hrefl _)
  intro run event hrun
  exact htrans _ _ _ hrun (hstep run event)

theorem servers_stateAt : (stateAt classify start events k).content.servers =
    start.content.servers :=
  stateAt_rel (r := fun run later => later.content.servers = run.content.servers) (fun _ => rfl)
    (fun _ _ _ hfirst hsecond => hsecond.trans hfirst) (step_servers classify) (Nat.zero_le k)

variable (classify start events) in
theorem socketsOpened_mono {l : Nat} (h : k ≤ l) :
    (stateAt classify start events k).content.socketsOpened ≤
      (stateAt classify start events l).content.socketsOpened :=
  stateAt_rel (r := fun run later => run.content.socketsOpened ≤ later.content.socketsOpened)
    (fun _ => Nat.le_refl _) (fun _ _ _ => Nat.le_trans) (socketsOpened_le_step classify) h

variable (classify start events) in
theorem tasksStarted_mono {l : Nat} (h : k ≤ l) :
    (stateAt classify start events k).content.tasksStarted ≤
      (stateAt classify start events l).content.tasksStarted :=
  stateAt_rel (r := fun run later => run.content.tasksStarted ≤ later.content.tasksStarted)
    (fun _ => Nat.le_refl _) (fun _ _ _ => Nat.le_trans) (tasksStarted_le_step classify) h

end SessionRun

end Sinkhole
