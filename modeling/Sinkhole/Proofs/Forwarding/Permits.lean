import Sinkhole.Lifecycle.Worker
import Sinkhole.Proofs.Forwarding.Resolvers
import Sinkhole.Proofs.Places

/-! # Permits

A resolver over HTTPS outlives the sessions that use it. Each request holds one of its permits for
as long as it lives, also when it waits for room in a queue or when its session has ended and it was
only not dropped yet. So the permits that are free and the requests that live are always as many as
there were permits at first. The queue of a session gets completions from its own requests only, one
from each at most, and none after its end.
-/
namespace Sinkhole

variable {ρ : Type}

structure ServedSession (ρ : Type) where
  state : SessionState ρ
  /-- Whether it has ended. Then nobody takes from its queue any more. -/
  ended : Bool

/-- One thing that can happen to a session. -/
inductive ServiceEvent (ρ : Type) where
  /-- It gives a query to the resolver. -/
  | asked (path : UdpPath) (now : Nat) (query : ForwardedQuery ρ)
  /-- One of its requests goes on. -/
  | request (number : Nat) (event : RequestEvent)
  /-- Its other work leaves it with these pending queries and packets, and takes the first
  completions from its queue. -/
  | worked (pending : Tracker ρ) (outbound : List Bytes) (taken : Nat)
  /-- It ends. Its requests are aborted, but may live until they are looked at again. -/
  | ended
  /-- Whatever is left of its aborted requests is dropped. -/
  | aborted

namespace ServiceEvent

def whileOpen (resolver : HttpsResolver) (state : SessionState ρ) :
    ServiceEvent ρ → HttpsResolver × SessionState ρ
  | .asked path now query =>
    let resolved := HttpsResolver.resolve path now query state resolver
    (resolved.state, resolved.session)
  | .request number event =>
    (Worker.applyRequest number event resolver state).getD (resolver, state)
  | .worked pending outbound taken =>
    let completions := { state.completions with waiting := state.completions.waiting.drop taken }
    (resolver, { state with
      pending := pending, outbound := outbound, completions := completions })
  | .ended => (resolver, state)
  | .aborted => (resolver, state)

/-- What an event does once the session has ended: requests can only end. -/
def onceEnded (resolver : HttpsResolver) (state : SessionState ρ) :
    ServiceEvent ρ → HttpsResolver × SessionState ρ
  | .request number _ => resolver.endTask number state
  | .aborted => resolver.sessionEnded state
  | _ => (resolver, state)

def ends : ServiceEvent ρ → Bool
  | .ended => true
  | _ => false

/-- How many completions a session takes from the front of its queue. -/
def takes (ended : Bool) : ServiceEvent ρ → Nat
  | .worked _ _ taken => if ended then 0 else taken
  | _ => 0

def apply (resolver : HttpsResolver) (served : ServedSession ρ) (event : ServiceEvent ρ) :
    HttpsResolver × ServedSession ρ :=
  let (resolver, state) :=
    if served.ended then event.onceEnded resolver served.state
    else event.whileOpen resolver served.state
  (resolver, ⟨state, served.ended || event.ends⟩)

end ServiceEvent

def SessionState.requests (state : SessionState ρ) : List (Nat × ρ) :=
  state.tasks.map fun task => (task.number, task.reply)

inductive ServiceCase (resolver : HttpsResolver) (served : ServedSession ρ) :
    ServiceEvent ρ → HttpsResolver → ServedSession ρ → Prop where
  | started {path : UdpPath} {now : Nat} {query : ForwardedQuery ρ} {reply : ρ}
      (hopen : served.ended = false) (hreply : query.reply = some reply)
      (hfree : 0 < resolver.free) :
      ServiceCase resolver served (.asked path now query)
        { resolver with free := resolver.free - 1 }
        ⟨served.state.startTask query.payload reply, false⟩
  | handedOver {number : Nat} {task : HttpsTask ρ} {answer : Bytes}
      (hopen : served.ended = false) (htask : task ∈ served.state.tasks)
      (hnumber : task.number = number) (hanswer : task.answer = some answer) :
      ServiceCase resolver served (.request number .handedOver)
        (resolver.endTask number served.state).1
        ⟨{ (resolver.endTask number served.state).2 with
          completions := { served.state.completions with
            waiting := served.state.completions.waiting ++ [⟨answer, task.reply⟩] } },
          false⟩
  | other (event : ServiceEvent ρ) {resolver' : HttpsResolver} {served' : ServedSession ρ}
      (hended : served.ended = true → served'.ended = true)
      (hfree : resolver'.free + served'.state.tasks.length =
        resolver.free + served.state.tasks.length)
      (hrequests : served'.state.requests ⊆ served.state.requests)
      (hstarted : served'.state.tasksStarted = served.state.tasksStarted)
      (hwaiting : served'.state.completions.waiting =
        served.state.completions.waiting.drop (event.takes served.ended)) :
      ServiceCase resolver served event resolver' served'

theorem free_add_length_endTask (resolver : HttpsResolver) (number : Nat)
    (state : SessionState ρ) :
    (resolver.endTask number state).1.free + (resolver.endTask number state).2.tasks.length =
      resolver.free + state.tasks.length := by
  have hlength :=
    List.length_filter_le (fun task : HttpsTask ρ => task.number != number) state.tasks
  simp only [HttpsResolver.endTask]
  omega

theorem requests_endTask_subset (resolver : HttpsResolver) (number : Nat)
    (state : SessionState ρ) :
    (resolver.endTask number state).2.requests ⊆ state.requests :=
  List.map_subset _ List.filter_sublist.subset

theorem not_mem_requests_endTask (resolver : HttpsResolver) (number : Nat) (state : SessionState ρ)
    (reply : ρ) : (number, reply) ∉ (resolver.endTask number state).2.requests := by
  intro h
  obtain ⟨task, htask, hlabel⟩ := List.mem_map.1 h
  have hkept := (List.mem_filter.1 htask).2
  obtain ⟨rfl, -⟩ := Prod.mk.inj hlabel
  simp at hkept

theorem requests_taskAnswered (number : Nat) (answer : Bytes) (state : SessionState ρ) :
    (HttpsResolver.taskAnswered number answer state).requests = state.requests := by
  simp only [HttpsResolver.taskAnswered, SessionState.requests, List.map_map]
  apply List.map_congr_left
  intro task _
  simp only [Function.comp_apply]
  split <;> rfl

theorem HttpsResolver.resolve_of_reply (path : UdpPath) (now : Nat) {query : ForwardedQuery ρ}
    {reply : ρ} (hreply : query.reply = some reply) (state : SessionState ρ)
    (resolver : HttpsResolver) :
    HttpsResolver.resolve path now query state resolver =
      if resolver.free = 0 then ⟨.ok .dropped, state, [], resolver⟩
      else ⟨.ok .pending, state.startTask query.payload reply, [],
        { resolver with free := resolver.free - 1 }⟩ := by
  simp only [resolve, hreply, start]
  rfl

theorem HttpsResolver.resolve_of_noReply (path : UdpPath) (now : Nat) {query : ForwardedQuery ρ}
    (hreply : query.reply = none) (state : SessionState ρ) (resolver : HttpsResolver) :
    (HttpsResolver.resolve path now query state resolver).state = resolver ∧
      (HttpsResolver.resolve path now query state resolver).session = state := by
  have hcases := forwardUdp_cases path now query state ()
  simp only [resolve, hreply, true_and]
  generalize forwardUdp path now query state () = resolved at hcases ⊢
  rcases resolved with ⟨result, after, counters, _⟩
  cases hcases with
  | tracked hsome => rw [hreply] at hsome; cases hsome
  | started hsome => rw [hreply] at hsome; cases hsome
  | _ => rfl

namespace ServiceEvent

variable {resolver : HttpsResolver} {served served' : ServedSession ρ} {event : ServiceEvent ρ}

theorem serviceCase_of_same (hended : served'.ended = (served.ended || event.ends))
    (htasks : served'.state.tasks = served.state.tasks)
    (hstarted : served'.state.tasksStarted = served.state.tasksStarted)
    (hwaiting : served'.state.completions.waiting =
      served.state.completions.waiting.drop (event.takes served.ended)) :
    ServiceCase resolver served event resolver served' := by
  refine .other event ?_ ?_ ?_ hstarted hwaiting
  · intro h
    rw [hended, h, Bool.true_or]
  · rw [htasks]
  · rw [SessionState.requests, SessionState.requests, htasks]
    exact List.Subset.refl _

theorem serviceCase_asked (state : SessionState ρ) (path : UdpPath) (now : Nat)
    (query : ForwardedQuery ρ) :
    ServiceCase resolver ⟨state, false⟩ (.asked path now query)
      (HttpsResolver.resolve path now query state resolver).state
      ⟨(HttpsResolver.resolve path now query state resolver).session, false⟩ := by
  cases hreply : query.reply with
  | none =>
    obtain ⟨hresolver, hsession⟩ :=
      HttpsResolver.resolve_of_noReply path now hreply state resolver
    rw [hresolver, hsession]
    exact serviceCase_of_same rfl rfl rfl rfl
  | some reply =>
    rw [HttpsResolver.resolve_of_reply path now hreply]
    by_cases hfree : resolver.free = 0
    · rw [if_pos hfree]
      exact serviceCase_of_same rfl rfl rfl rfl
    · rw [if_neg hfree]
      exact .started rfl hreply (Nat.pos_of_ne_zero hfree)

theorem serviceCase_request (state : SessionState ρ) (number : Nat) (event : RequestEvent) :
    let applied := (Worker.applyRequest number event resolver state).getD (resolver, state)
    ServiceCase resolver ⟨state, false⟩ (.request number event) applied.1 ⟨applied.2, false⟩ := by
  cases event with
  | failed =>
    exact .other _ (fun hended => hended) (free_add_length_endTask resolver number state)
      (requests_endTask_subset resolver number state) rfl rfl
  | answered answer =>
    refine .other _ (fun hended => hended) ?_ ?_ rfl rfl
    · simp only [Worker.applyRequest, Option.getD_some, HttpsResolver.taskAnswered, List.length_map]
    · have hsame := requests_taskAnswered number answer state
      simp only [Worker.applyRequest, Option.getD_some, hsame]
      exact List.Subset.refl _
  | handedOver =>
    simp only [Worker.applyRequest, HttpsResolver.handOver?, CompletionQueue.push?]
    cases htask : state.tasks.find? (·.number = number) with
    | none => exact serviceCase_of_same rfl rfl rfl rfl
    | some task =>
      cases hanswer : task.answer with
      | none =>
        simp only [hanswer, Option.bind_eq_bind, Option.bind_some, Option.bind_none]
        exact serviceCase_of_same rfl rfl rfl rfl
      | some answer =>
        have hmem : task ∈ state.tasks := List.mem_of_find?_eq_some htask
        have hnumber : task.number = number := by simpa using List.find?_some htask
        simp only [hanswer, Option.bind_eq_bind, Option.bind_some]
        by_cases hroom : state.completions.waiting.length < state.completions.capacity
        · rw [if_pos hroom]
          exact .handedOver rfl hmem hnumber hanswer
        · rw [if_neg hroom]
          exact serviceCase_of_same rfl rfl rfl rfl

theorem apply_cases (resolver : HttpsResolver) (served : ServedSession ρ)
    (event : ServiceEvent ρ) :
    ServiceCase resolver served event (event.apply resolver served).1
      (event.apply resolver served).2 := by
  rcases served with ⟨state, ended⟩
  cases ended with
  | true =>
    cases event with
    | request number event =>
      exact .other _ (fun _ => rfl) (free_add_length_endTask resolver number state)
        (requests_endTask_subset resolver number state) rfl rfl
    | aborted =>
      exact .other _ (fun _ => rfl) (Nat.add_zero _) (List.nil_subset _) rfl rfl
    | _ => exact serviceCase_of_same rfl rfl rfl rfl
  | false =>
    cases event with
    | asked path now query => exact serviceCase_asked state path now query
    | request number event => exact serviceCase_request state number event
    | _ => exact serviceCase_of_same rfl rfl rfl rfl

end ServiceEvent

namespace ServiceCase

variable {resolver resolver' : HttpsResolver} {served served' : ServedSession ρ}
variable {event : ServiceEvent ρ} {number : Nat} {reply : ρ}

/-- A permit that is taken is held by a new request, and one that comes back was held by another. -/
theorem free_add_length (h : ServiceCase resolver served event resolver' served') :
    resolver'.free + served'.state.tasks.length = resolver.free + served.state.tasks.length := by
  cases h with
  | started hopen hreply hfree =>
    simp only [SessionState.startTask, List.length_append, List.length_singleton]
    omega
  | handedOver => exact free_add_length_endTask resolver _ served.state
  | other _ hended hfree => exact hfree

theorem ended (h : ServiceCase resolver served event resolver' served')
    (hended : served.ended = true) : served'.ended = true := by
  cases h with
  | started hopen => rw [hended] at hopen; cases hopen
  | handedOver hopen => rw [hended] at hopen; cases hopen
  | other _ hstays => exact hstays hended

theorem tasksStarted_le (h : ServiceCase resolver served event resolver' served') :
    served.state.tasksStarted ≤ served'.state.tasksStarted := by
  cases h with
  | started => exact Nat.le_succ _
  | handedOver => exact Nat.le_refl _
  | other _ _ _ _ hstarted => exact hstarted.ge

theorem mem_requests (h : ServiceCase resolver served event resolver' served')
    (hmem : (number, reply) ∈ served'.state.requests) :
    (number, reply) ∈ served.state.requests ∨
      number = served.state.tasksStarted ∧ served'.state.tasksStarted = number + 1 ∧
        served.ended = false ∧ 0 < resolver.free ∧
        ∃ path now query, event = .asked path now query ∧ query.reply = some reply := by
  cases h with
  | @started path now query asked hopen hreply hfree =>
    rw [SessionState.requests, SessionState.startTask, List.map_append, List.mem_append] at hmem
    rcases hmem with hold | hnew
    · exact .inl hold
    · obtain ⟨rfl, rfl⟩ := Prod.mk.inj (List.mem_singleton.1 hnew)
      exact .inr ⟨rfl, rfl, hopen, hfree, path, now, query, rfl, hreply⟩
  | handedOver => exact .inl (requests_endTask_subset resolver _ served.state hmem)
  | other _ _ _ hrequests => exact .inl (hrequests hmem)

/-- The queue loses what is taken from its front. What comes in is one completion at most, that of a
request which is over then. -/
theorem exists_put (h : ServiceCase resolver served event resolver' served') :
    ∃ put, served'.state.completions.waiting =
        served.state.completions.waiting.drop (event.takes served.ended) ++ put ∧
      (put = [] ∨ ∃ completion number, put = [completion] ∧ served.ended = false ∧
        event = .request number .handedOver ∧
        (number, completion.reply) ∈ served.state.requests ∧
        ∀ reply, (number, reply) ∉ served'.state.requests) := by
  cases h with
  | started => exact ⟨[], (List.append_nil _).symm, .inl rfl⟩
  | @handedOver number task answer hopen htask hnumber =>
    refine ⟨[⟨answer, task.reply⟩], rfl, .inr ⟨_, number, rfl, hopen, rfl, ?_,
      not_mem_requests_endTask resolver number served.state⟩⟩
    rw [← hnumber]
    exact List.mem_map_of_mem htask
  | other _ _ _ _ _ hwaiting => exact ⟨[], by rw [hwaiting, List.append_nil], .inl rfl⟩

end ServiceCase

inductive HttpsEvent (ρ : Type) where
  /-- A session is established. -/
  | opened (servers : ServerMap) (capacity : Nat)
  | served (session : Nat) (event : ServiceEvent ρ)

/-- A resolver with all the sessions that used it, in the order in which they were established. -/
structure HttpsRun (ρ : Type) where
  resolver : HttpsResolver
  sessions : List (ServedSession ρ)

namespace HttpsRun

def live (run : HttpsRun ρ) : Nat := (run.sessions.map (·.state.tasks.length)).sum

def step (run : HttpsRun ρ) : HttpsEvent ρ → HttpsRun ρ
  | .opened servers capacity =>
    { run with sessions := run.sessions ++ [⟨.new servers capacity, false⟩] }
  | .served session event =>
    match run.sessions[session]? with
    | none => run
    | some served =>
      let (resolver, served) := event.apply run.resolver served
      ⟨resolver, run.sessions.set session served⟩

def stateAt (resolver : HttpsResolver) (events : List (HttpsEvent ρ)) (count : Nat) : HttpsRun ρ :=
  (events.take count).foldl step ⟨resolver, []⟩

variable {run : HttpsRun ρ} {event : HttpsEvent ρ} {session number : Nat} {reply : ρ}
variable {served served' : ServedSession ρ}

theorem step_served_of_none {event : ServiceEvent ρ} (h : run.sessions[session]? = none) :
    run.step (.served session event) = run := by
  rw [step, h]

theorem step_served_of_some {event : ServiceEvent ρ} (h : run.sessions[session]? = some served) :
    run.step (.served session event) =
      ⟨(event.apply run.resolver served).1,
        run.sessions.set session (event.apply run.resolver served).2⟩ := by
  rw [step, h]

theorem live_set (h : run.sessions[session]? = some served) (resolver : HttpsResolver)
    (served' : ServedSession ρ) :
    live ⟨resolver, run.sessions.set session served'⟩ + served.state.tasks.length =
      run.live + served'.state.tasks.length := by
  obtain ⟨hlt, hserved⟩ := List.getElem?_eq_some_iff.1 h
  obtain ⟨front, back, hsplit, -, hset⟩ := @List.exists_of_set _ _ served' _ hlt
  rw [live, live, hset, hsplit, hserved]
  simp only [List.map_append, List.map_cons, List.sum_append, List.sum_cons]
  omega

theorem free_add_live_step (run : HttpsRun ρ) (event : HttpsEvent ρ) :
    (run.step event).resolver.free + (run.step event).live = run.resolver.free + run.live := by
  cases event with
  | opened servers capacity =>
    simp only [step, live, List.map_append, List.sum_append, List.map_cons, List.map_nil,
      List.sum_singleton]
    rfl
  | served session event =>
    cases hserved : run.sessions[session]? with
    | none => rw [step_served_of_none hserved]
    | some served =>
      have hfree := (event.apply_cases run.resolver served).free_add_length
      have hlive := live_set hserved (event.apply run.resolver served).1
        (event.apply run.resolver served).2
      rw [step_served_of_some hserved]
      dsimp only
      omega

/-- A session stays in its place, and changes only by its own events. -/
theorem exists_step (h : run.sessions[session]? = some served) (event : HttpsEvent ρ) :
    ∃ served', (run.step event).sessions[session]? = some served' ∧
      ((∀ serviceEvent, event ≠ .served session serviceEvent) ∧ served' = served ∨
        ∃ serviceEvent, event = .served session serviceEvent ∧
          ServiceCase run.resolver served serviceEvent (run.step event).resolver served') := by
  obtain ⟨hlt, -⟩ := List.getElem?_eq_some_iff.1 h
  cases event with
  | opened servers capacity =>
    refine ⟨served, ?_, .inl ⟨nofun, rfl⟩⟩
    rw [step, List.getElem?_append_left hlt, h]
  | served other serviceEvent =>
    by_cases hsame : other = session
    · subst hsame
      rw [step_served_of_some h, List.getElem?_set_self hlt]
      exact ⟨_, rfl, .inr ⟨serviceEvent, rfl, serviceEvent.apply_cases run.resolver served⟩⟩
    · have hother : ∀ own, HttpsEvent.served other serviceEvent ≠ .served session own := by
        rintro own ⟨⟩
        exact hsame rfl
      refine ⟨served, ?_, .inl ⟨hother, rfl⟩⟩
      cases hbusy : run.sessions[other]? with
      | none => rw [step_served_of_none hbusy, h]
      | some busy => rw [step_served_of_some hbusy, List.getElem?_set_ne hsame, h]

theorem new_of_step (hnone : run.sessions[session]? = none)
    (h : (run.step event).sessions[session]? = some served') :
    ∃ servers capacity, served' = ⟨.new servers capacity, false⟩ := by
  have hlength := List.getElem?_eq_none_iff.1 hnone
  cases event with
  | opened servers capacity =>
    rw [step, List.getElem?_append_right hlength] at h
    have hmem := List.mem_of_getElem? h
    exact ⟨servers, capacity, List.mem_singleton.1 hmem⟩
  | served other serviceEvent =>
    cases hother : run.sessions[other]? with
    | none =>
      rw [step_served_of_none hother, hnone] at h
      cases h
    | some busy =>
      rw [step_served_of_some hother, List.getElem?_eq_none] at h
      · cases h
      · rwa [List.length_set]

theorem sessions_step_cases (h : (run.step event).sessions[session]? = some served') :
    (∃ servers capacity, served' = ⟨.new servers capacity, false⟩) ∨
      ∃ served, run.sessions[session]? = some served ∧
        (served' = served ∨ ∃ serviceEvent, event = .served session serviceEvent ∧
          ServiceCase run.resolver served serviceEvent (run.step event).resolver served') := by
  cases hserved : run.sessions[session]? with
  | none => exact .inl (new_of_step hserved h)
  | some served =>
    obtain ⟨found, hfound, hcase⟩ := exists_step hserved event
    obtain rfl := Option.some.inj (hfound.symm.trans h)
    exact .inr ⟨served, rfl, hcase.imp_left And.right⟩

def IsEnded (run : HttpsRun ρ) (session : Nat) : Prop :=
  ∃ served, run.sessions[session]? = some served ∧ served.ended = true

def IsGone (run : HttpsRun ρ) (session : Nat) : Prop :=
  ∃ served, run.sessions[session]? = some served ∧ served.ended = true ∧ served.state.tasks = []

def Lives (run : HttpsRun ρ) (session number : Nat) (reply : ρ) : Prop :=
  ∃ served, run.sessions[session]? = some served ∧ (number, reply) ∈ served.state.requests

def IsOver (run : HttpsRun ρ) (session number : Nat) : Prop :=
  ∃ served, run.sessions[session]? = some served ∧ number < served.state.tasksStarted ∧
    ∀ reply, (number, reply) ∉ served.state.requests

def Numbered (run : HttpsRun ρ) : Prop :=
  ∀ (session : Nat) (served : ServedSession ρ), run.sessions[session]? = some served →
    ∀ number reply, (number, reply) ∈ served.state.requests → number < served.state.tasksStarted

theorem IsEnded.step (h : run.IsEnded session) (event : HttpsEvent ρ) :
    (run.step event).IsEnded session := by
  obtain ⟨served, hserved, hended⟩ := h
  obtain ⟨served', hserved', ⟨-, rfl⟩ | ⟨_, _, hcase⟩⟩ := exists_step hserved event
  · exact ⟨served', hserved', hended⟩
  · exact ⟨served', hserved', hcase.ended hended⟩

theorem IsGone.step (h : run.IsGone session) (event : HttpsEvent ρ) :
    (run.step event).IsGone session := by
  obtain ⟨served, hserved, hended, htasks⟩ := h
  obtain ⟨served', hserved', ⟨-, rfl⟩ | ⟨_, _, hcase⟩⟩ := exists_step hserved event
  · exact ⟨served', hserved', hended, htasks⟩
  · refine ⟨served', hserved', hcase.ended hended, ?_⟩
    have hnone : ∀ number reply, (number, reply) ∉ served'.state.requests := by
      intro number reply hmem
      rcases hcase.mem_requests hmem with hold | ⟨-, -, hopen, -⟩
      · rw [SessionState.requests, htasks] at hold
        cases hold
      · rw [hended] at hopen
        cases hopen
    exact List.map_eq_nil_iff.1 (List.eq_nil_iff_forall_not_mem.2 fun request => hnone _ _)

theorem IsOver.step (h : run.IsOver session number) (event : HttpsEvent ρ) :
    (run.step event).IsOver session number := by
  obtain ⟨served, hserved, hstarted, hover⟩ := h
  obtain ⟨served', hserved', ⟨-, rfl⟩ | ⟨_, _, hcase⟩⟩ := exists_step hserved event
  · exact ⟨served', hserved', hstarted, hover⟩
  · refine ⟨served', hserved', Nat.lt_of_lt_of_le hstarted hcase.tasksStarted_le, ?_⟩
    intro reply hmem
    rcases hcase.mem_requests hmem with hold | ⟨hnext, -⟩
    · exact hover reply hold
    · exact absurd hstarted (Nat.lt_irrefl _ ∘ (hnext ▸ ·))

theorem lives_step_cases (h : (run.step event).Lives session number reply) :
    run.Lives session number reply ∨
      ∃ state path now query, run.sessions[session]? = some ⟨state, false⟩ ∧
        number = state.tasksStarted ∧ 0 < run.resolver.free ∧
        event = .served session (.asked path now query) ∧ query.reply = some reply := by
  obtain ⟨served', hserved', hmem⟩ := h
  obtain ⟨servers, capacity, rfl⟩ | ⟨served, hserved, rfl | ⟨serviceEvent, rfl, hcase⟩⟩ :=
    sessions_step_cases hserved'
  · cases hmem
  · exact .inl ⟨served', hserved, hmem⟩
  · rcases hcase.mem_requests hmem with
      hold | ⟨hnext, -, hopen, hfree, path, now, query, rfl, hreply⟩
    · exact .inl ⟨served, hserved, hold⟩
    · rcases served with ⟨state, ended⟩
      obtain rfl : ended = false := hopen
      exact .inr ⟨state, path, now, query, hserved, hnext, hfree, rfl, hreply⟩

theorem Numbered.step (h : run.Numbered) (event : HttpsEvent ρ) : (run.step event).Numbered := by
  intro session served' hserved' number reply hmem
  obtain ⟨servers, capacity, rfl⟩ | ⟨served, hserved, rfl | ⟨serviceEvent, rfl, hcase⟩⟩ :=
    sessions_step_cases hserved'
  · cases hmem
  · exact h session served' hserved number reply hmem
  · rcases hcase.mem_requests hmem with hold | ⟨-, hnext, -⟩
    · exact Nat.lt_of_lt_of_le (h session served hserved number reply hold) hcase.tasksStarted_le
    · rw [hnext]
      exact Nat.lt_succ_self number

def queue (run : HttpsRun ρ) (session : Nat) : List (Completion ρ) :=
  (run.sessions[session]?).elim [] (·.state.completions.waiting)

/-- How many completions an event takes from the front of the queue of a session. -/
def takes (run : HttpsRun ρ) (session : Nat) : HttpsEvent ρ → Nat
  | .opened _ _ => 0
  | .served other event =>
    if other = session then (run.sessions[session]?).elim 0 (event.takes ·.ended) else 0

theorem takes_of_ne (h : ∀ serviceEvent, event ≠ .served session serviceEvent) :
    run.takes session event = 0 := by
  cases event with
  | opened servers capacity => rfl
  | served other serviceEvent =>
    rw [takes, if_neg]
    rintro rfl
    exact h serviceEvent rfl

theorem exists_queue_step (hnumbered : run.Numbered) (event : HttpsEvent ρ) (session : Nat) :
    ∃ put, (run.step event).queue session =
        (run.queue session).drop (run.takes session event) ++ put ∧
      (put = [] ∨ ∃ completion number, put = [completion] ∧
        event = .served session (.request number .handedOver) ∧
        run.Lives session number completion.reply ∧ (run.step event).IsOver session number ∧
        ¬ run.IsEnded session) := by
  cases hserved : run.sessions[session]? with
  | none =>
    refine ⟨[], ?_, .inl rfl⟩
    rw [queue, queue, hserved, Option.elim_none, List.drop_nil]
    cases hafter : (run.step event).sessions[session]? with
    | none => rfl
    | some after =>
      obtain ⟨servers, capacity, rfl⟩ := new_of_step hserved hafter
      rfl
  | some served =>
    obtain ⟨served', hserved', ⟨hother, rfl⟩ | ⟨serviceEvent, rfl, hcase⟩⟩ :=
      exists_step hserved event
    · refine ⟨[], ?_, .inl rfl⟩
      rw [queue, queue, hserved, hserved', takes_of_ne hother, List.append_nil, List.drop_zero]
    · obtain ⟨put, hwaiting, hput⟩ := hcase.exists_put
      refine ⟨put, ?_, ?_⟩
      · rw [queue, queue, takes, if_pos rfl, hserved, hserved']
        exact hwaiting
      · rcases hput with rfl | ⟨completion, number, rfl, hopen, rfl, hmem, hover⟩
        · exact .inl rfl
        · have hstarted := hnumbered session served hserved _ _ hmem
          refine .inr ⟨completion, number, rfl, rfl, ⟨served, hserved, hmem⟩,
            ⟨served', hserved', Nat.lt_of_lt_of_le hstarted hcase.tasksStarted_le, hover⟩, ?_⟩
          rintro ⟨found, hfound, hended⟩
          obtain rfl := Option.some.inj (hserved.symm.trans hfound)
          rw [hopen] at hended
          cases hended

section Places

variable (resolver : HttpsResolver) (events : List (HttpsEvent ρ))

/-- At this place of the run a session that has not ended gives a query to the resolver. -/
def ResolvesAt (place session : Nat) (query : ForwardedQuery ρ) (before : SessionState ρ)
    (resolved : Resolved HttpsResolver ρ) : Prop :=
  ∃ path now, events[place]? = some (.served session (.asked path now query)) ∧
    (stateAt resolver events place).sessions[session]? = some ⟨before, false⟩ ∧
    resolved =
      HttpsResolver.resolve path now query before (stateAt resolver events place).resolver

def PendingAt (place session number : Nat) (reply : ρ) : Prop :=
  ∃ query before resolved, ResolvesAt resolver events place session query before resolved ∧
    query.reply = some reply ∧ resolved.result = .ok .pending ∧ number = before.tasksStarted

/-- How many completions are taken from the queue of a session here. -/
def takenAt (place session : Nat) : Nat :=
  (events[place]?).elim 0 ((stateAt resolver events place).takes session)

/-- What is put on the queue of a session here: all that stands behind what is left of the queue. -/
def putAt (place session : Nat) : List (Completion ρ) :=
  ((stateAt resolver events (place + 1)).queue session).drop
    (((stateAt resolver events place).queue session).length -
      takenAt resolver events place session)

/-- The completion of the query that became pending at the first place is put on the queue at the
second. -/
def CompletesAt (query place session : Nat) (completion : Completion ρ) : Prop :=
  completion ∈ putAt resolver events place session ∧
    ∃ number, PendingAt resolver events query session number completion.reply ∧
      events[place]? = some (.served session (.request number .handedOver))

end Places

variable {resolver : HttpsResolver} {events : List (HttpsEvent ρ)} {k l : Nat}

theorem stateAt_succ (h : events[k]? = some event) :
    stateAt resolver events (k + 1) = (stateAt resolver events k).step event :=
  foldl_take_succ h

theorem stateAt_succ_of_none (h : events[k]? = none) :
    stateAt resolver events (k + 1) = stateAt resolver events k :=
  foldl_take_succ_of_none h

theorem numbered_stateAt (resolver : HttpsResolver) (events : List (HttpsEvent ρ)) (k : Nat) :
    (stateAt resolver events k).Numbered := by
  refine foldl_take_keeps (P := Numbered) (fun _ event h => h.step event) (Nat.zero_le k) ?_
  intro session served hserved
  cases hserved

theorem free_add_live_stateAt (resolver : HttpsResolver) (events : List (HttpsEvent ρ)) (k : Nat) :
    (stateAt resolver events k).resolver.free + (stateAt resolver events k).live =
      resolver.free := by
  refine foldl_take_keeps
    (P := fun run : HttpsRun ρ => run.resolver.free + run.live = resolver.free) ?_
    (Nat.zero_le k) rfl
  intro run event h
  rw [free_add_live_step]
  exact h

variable {place query other : Nat} {completion : Completion ρ}

theorem PendingAt.unique {session' number' : Nat} {reply' : ρ}
    (h : PendingAt resolver events query session number reply)
    (h' : PendingAt resolver events query session' number' reply') :
    session' = session ∧ number' = number := by
  obtain ⟨asked, before, resolved, ⟨path, now, hevent, hbefore, -⟩, -, -, rfl⟩ := h
  obtain ⟨asked', before', resolved', ⟨path', now', hevent', hbefore', -⟩, -, -, rfl⟩ := h'
  cases hevent.symm.trans hevent'
  cases hbefore.symm.trans hbefore'
  exact ⟨rfl, rfl⟩

theorem exists_pendingAt (h : (stateAt resolver events k).Lives session number reply) :
    ∃ query < k, PendingAt resolver events query session number reply := by
  induction k with
  | zero =>
    obtain ⟨served, hserved, -⟩ := h
    cases hserved
  | succ k ih =>
    cases hevent : events[k]? with
    | none =>
      rw [stateAt_succ_of_none hevent] at h
      obtain ⟨query, hquery, hpending⟩ := ih h
      exact ⟨query, Nat.lt_succ_of_lt hquery, hpending⟩
    | some event =>
      rw [stateAt_succ hevent] at h
      rcases lives_step_cases h with
        hold | ⟨state, path, now, asked, hstate, hnumber, hfree, rfl, hreply⟩
      · obtain ⟨query, hquery, hpending⟩ := ih hold
        exact ⟨query, Nat.lt_succ_of_lt hquery, hpending⟩
      · refine ⟨k, Nat.lt_succ_self k, asked, state, _, ⟨path, now, hevent, hstate, rfl⟩, hreply,
          ?_, hnumber⟩
        rw [HttpsResolver.resolve_of_reply path now hreply, if_neg hfree.ne']

/-- A queue loses what is taken from its front. What is put at its end is nothing, or the completion
of a request of the session, which is over then. -/
theorem put_cases (resolver : HttpsResolver) (events : List (HttpsEvent ρ))
    (place session : Nat) :
    (stateAt resolver events (place + 1)).queue session =
        ((stateAt resolver events place).queue session).drop
          (takenAt resolver events place session) ++ putAt resolver events place session ∧
      (putAt resolver events place session = [] ∨ ∃ completion number,
        putAt resolver events place session = [completion] ∧
        events[place]? = some (.served session (.request number .handedOver)) ∧
        (stateAt resolver events place).Lives session number completion.reply ∧
        (stateAt resolver events (place + 1)).IsOver session number ∧
        ¬ (stateAt resolver events place).IsEnded session) := by
  have hput {put : List (Completion ρ)} (h : (stateAt resolver events (place + 1)).queue session =
      ((stateAt resolver events place).queue session).drop
        (takenAt resolver events place session) ++ put) :
      putAt resolver events place session = put := by
    rw [putAt, h, ← List.length_drop, List.drop_left]
  cases hevent : events[place]? with
  | none =>
    have hqueue : (stateAt resolver events (place + 1)).queue session =
        ((stateAt resolver events place).queue session).drop
          (takenAt resolver events place session) ++ [] := by
      rw [stateAt_succ_of_none hevent, takenAt, hevent, List.append_nil]
      rfl
    rw [hput hqueue]
    exact ⟨hqueue, .inl rfl⟩
  | some event =>
    obtain ⟨put, hqueue, hcases⟩ :=
      exists_queue_step (numbered_stateAt resolver events place) event session
    have htaken : takenAt resolver events place session =
        (stateAt resolver events place).takes session event := by
      rw [takenAt, hevent]
      rfl
    rw [← stateAt_succ hevent, ← htaken] at hqueue
    rw [← stateAt_succ hevent] at hcases
    rw [hput hqueue]
    refine ⟨hqueue, hcases.imp_right ?_⟩
    rintro ⟨completion, number, hone, rfl, hrest⟩
    exact ⟨completion, number, hone, rfl, hrest⟩

theorem exists_request (h : completion ∈ putAt resolver events place session) :
    ∃ number, events[place]? = some (.served session (.request number .handedOver)) ∧
      (stateAt resolver events place).Lives session number completion.reply ∧
      (stateAt resolver events (place + 1)).IsOver session number ∧
      ¬ (stateAt resolver events place).IsEnded session := by
  rcases (put_cases resolver events place session).2 with hnone | ⟨_, number, hone, hrest⟩
  · rw [hnone] at h
    cases h
  · rw [hone] at h
    obtain rfl := List.mem_singleton.1 h
    exact ⟨number, hrest⟩

theorem length_putAt_le (resolver : HttpsResolver) (events : List (HttpsEvent ρ))
    (place session : Nat) : (putAt resolver events place session).length ≤ 1 := by
  rcases (put_cases resolver events place session).2 with hnone | ⟨_, _, hone, -⟩
  · rw [hnone]
    exact Nat.zero_le 1
  · rw [hone]
    exact Nat.le_refl 1

theorem exists_completesAt (h : completion ∈ putAt resolver events place session) :
    ∃ query < place, CompletesAt resolver events query place session completion := by
  obtain ⟨number, hevent, hlives, -, -⟩ := exists_request h
  obtain ⟨query, hquery, hpending⟩ := exists_pendingAt hlives
  exact ⟨query, hquery, h, number, hpending, hevent⟩

/-- A request that is over puts nothing on a queue any more. -/
theorem not_lives_of_isOver (h : (stateAt resolver events k).IsOver session number) (hle : k ≤ l) :
    ¬ (stateAt resolver events l).Lives session number reply := by
  obtain ⟨served, hserved, -, hover⟩ :=
    foldl_take_keeps (P := (IsOver · session number)) (fun _ event h => h.step event) hle h
  rintro ⟨found, hfound, hmem⟩
  obtain rfl := Option.some.inj (hserved.symm.trans hfound)
  exact hover reply hmem

section Once

variable {session' : Nat} {completion' : Completion ρ}

theorem CompletesAt.le (h : CompletesAt resolver events query place session completion)
    (h' : CompletesAt resolver events query other session' completion') : other ≤ place := by
  obtain ⟨hputs, number, hpending, hevent⟩ := h
  obtain ⟨hputs', number', hpending', hevent'⟩ := h'
  obtain ⟨rfl, rfl⟩ := hpending.unique hpending'
  obtain ⟨ended, hended, -, hover, -⟩ := exists_request hputs
  obtain ⟨living, hliving, hlives, -, -⟩ := exists_request hputs'
  cases hevent.symm.trans hended
  cases hevent'.symm.trans hliving
  by_contra hlt
  exact not_lives_of_isOver hover (Nat.lt_of_not_le hlt) hlives

theorem CompletesAt.unique (h : CompletesAt resolver events query place session completion)
    (h' : CompletesAt resolver events query other session' completion') :
    other = place ∧ session' = session ∧ completion' = completion := by
  obtain rfl := Nat.le_antisymm (h.le h') (h'.le h)
  obtain ⟨hput, number, hpending, -⟩ := h
  obtain ⟨hput', number', hpending', -⟩ := h'
  obtain ⟨rfl, -⟩ := hpending.unique hpending'
  obtain ⟨only, honly⟩ := List.length_eq_one_iff.1 (Nat.le_antisymm
    (length_putAt_le resolver events other session') (List.length_pos_of_mem hput))
  rw [honly, List.mem_singleton] at hput hput'
  exact ⟨rfl, rfl, hput'.trans hput.symm⟩

end Once

/-- What a resolver with so many permits does in a run. -/
structure Bounded (limit : Nat) (resolver : HttpsResolver) (events : List (HttpsEvent ρ)) :
    Prop where
  conserved : ∀ count, (stateAt resolver events count).resolver.free +
    (stateAt resolver events count).live = limit
  /-- A query that has to be answered becomes pending if a permit is free, and is otherwise given
  up without a trace. -/
  resolves : ∀ place session query before resolved,
    ResolvesAt resolver events place session query before resolved → query.reply.isSome →
      (resolved.result = .ok .pending ↔ 0 < (stateAt resolver events place).resolver.free) ∧
      (resolved.result ≠ .ok .pending → resolved.result = .ok .dropped ∧
        resolved.session = before ∧
        stateAt resolver events (place + 1) = stateAt resolver events place)
  /-- An event takes from the front of a queue, and puts one completion at its end at most. -/
  queues : ∀ place session, (stateAt resolver events (place + 1)).queue session =
      ((stateAt resolver events place).queue session).drop
        (takenAt resolver events place session) ++ putAt resolver events place session ∧
    (putAt resolver events place session).length ≤ 1
  /-- Whatever comes into a queue completes a query that became pending in the same session. -/
  own : ∀ place session, ∀ completion ∈ putAt resolver events place session,
    ∃ query < place, CompletesAt resolver events query place session completion
  once : ∀ query place other session session' completion completion',
    CompletesAt resolver events query place session completion →
      CompletesAt resolver events query other session' completion' →
        other = place ∧ session' = session ∧ completion' = completion
  silent : ∀ count place session, (stateAt resolver events count).IsEnded session →
    count ≤ place → putAt resolver events place session = []
  /-- Once the requests of a session that has ended are dropped, none of them holds a permit. -/
  released : ∀ place count session, events[place]? = some (.served session .aborted) →
    (stateAt resolver events place).IsEnded session → place < count →
      (stateAt resolver events count).IsGone session

theorem resolvesAt_cases {asked : ForwardedQuery ρ} {before : SessionState ρ}
    {resolved : Resolved HttpsResolver ρ}
    (h : ResolvesAt resolver events place session asked before resolved)
    (hreply : asked.reply.isSome) :
    (resolved.result = .ok .pending ↔ 0 < (stateAt resolver events place).resolver.free) ∧
      (resolved.result ≠ .ok .pending → resolved.result = .ok .dropped ∧
        resolved.session = before ∧
        stateAt resolver events (place + 1) = stateAt resolver events place) := by
  obtain ⟨path, now, hevent, hbefore, rfl⟩ := h
  obtain ⟨reply, hreply⟩ := Option.isSome_iff_exists.1 hreply
  have hresolve := HttpsResolver.resolve_of_reply path now hreply before
    (stateAt resolver events place).resolver
  by_cases hfree : (stateAt resolver events place).resolver.free = 0
  · rw [if_pos hfree] at hresolve
    rw [hresolve]
    refine ⟨iff_of_false nofun hfree.not_gt, fun _ => ⟨rfl, rfl, ?_⟩⟩
    obtain ⟨hlt, hserved⟩ := List.getElem?_eq_some_iff.1 hbefore
    have happly : (ServiceEvent.asked path now asked).apply
        (stateAt resolver events place).resolver ⟨before, false⟩ =
          ((stateAt resolver events place).resolver, ⟨before, false⟩) := by
      simp only [ServiceEvent.apply, ServiceEvent.whileOpen, hresolve]
      rfl
    rw [stateAt_succ hevent, step_served_of_some hbefore, happly, ← hserved]
    dsimp only
    rw [List.set_getElem_self]
  · rw [if_neg hfree] at hresolve
    rw [hresolve]
    exact ⟨iff_of_true rfl (Nat.pos_of_ne_zero hfree), fun hnot => absurd rfl hnot⟩

theorem isGone_of_aborted (hevent : events[place]? = some (.served session .aborted))
    (hended : (stateAt resolver events place).IsEnded session) :
    (stateAt resolver events (place + 1)).IsGone session := by
  obtain ⟨⟨state, ended⟩, hserved, rfl⟩ := hended
  rw [stateAt_succ hevent, step_served_of_some hserved]
  obtain ⟨hlt, -⟩ := List.getElem?_eq_some_iff.1 hserved
  exact ⟨_, List.getElem?_set_self hlt, rfl, rfl⟩

theorem free_of_new {settings : ForwardingSettings} {limit : Nat}
    (h : HttpsResolver.new settings limit = .ok resolver) : resolver.free = limit := by
  rw [HttpsResolver.new] at h
  split at h
  · cases h
  · split at h
    · cases h
    · obtain rfl := Except.ok.inj h
      rfl

/-- However a new resolver is used, by whatever sessions, none of its permits is lost. -/
theorem bounded_of_new {settings : ForwardingSettings} {limit : Nat} {resolver : HttpsResolver}
    (h : HttpsResolver.new settings limit = .ok resolver) (events : List (HttpsEvent ρ)) :
    Bounded limit resolver events where
  conserved count := (free_add_live_stateAt resolver events count).trans (free_of_new h)
  resolves _ _ _ _ _ := resolvesAt_cases
  queues place session := ⟨(put_cases resolver events place session).1,
    length_putAt_le resolver events place session⟩
  own _ _ _ := exists_completesAt
  once _ _ _ _ _ _ _ hfirst hsecond := hfirst.unique hsecond
  silent count place session hended hle := by
    refine List.eq_nil_iff_forall_not_mem.2 fun completion hput => ?_
    obtain ⟨-, -, -, -, hopen⟩ := exists_request hput
    exact hopen
      (foldl_take_keeps (P := (IsEnded · session)) (fun _ event h => h.step event) hle hended)
  released place count session hevent hended hlt :=
    foldl_take_keeps (P := (IsGone · session)) (fun _ event h => h.step event) hlt
      (isGone_of_aborted hevent hended)

def loopbackSettings : ForwardingSettings :=
  { mode := .doh, url := "https://[::1]/dns-query" }

def loopbackResolver : HttpsResolver :=
  ⟨⟨"https", some ⟨[], [], some (.address (.v6 #v[0, 0, 0, 0, 0, 0, 0, 0, 0, 0, 0, 0, 0, 0, 0, 1])),
    none⟩, "/dns-query".toList, none, none⟩, 1, 1⟩

def noServers : ServerMap := ⟨⟨.v4 #v[10, 0, 0, 0], 24⟩, none, [], [], none⟩

def askedFor (reply : Nat) : ServiceEvent Nat :=
  .asked .offline 0 ⟨⟨.v4 #v[9, 9, 9, 9], 53⟩, [1], some reply⟩

/-- Two sessions use a single permit. The first completes a query and ends during the next, whose
request keeps the permit from the second session until it is dropped. Each queue has room for two. -/
def twoSessions : List (HttpsEvent Nat) :=
  [.opened noServers 2, .served 0 (askedFor 5), .served 0 (askedFor 6),
    .served 0 (.request 0 (.answered [7])), .served 0 (.request 0 .handedOver),
    .served 0 (askedFor 8), .served 0 .ended, .opened noServers 2, .served 1 (askedFor 9),
    .served 0 .aborted, .served 1 (askedFor 9)]

theorem bounded_of_new_twoSessions :
    HttpsResolver.new loopbackSettings 1 = .ok loopbackResolver ∧
      Bounded 1 loopbackResolver twoSessions ∧
      CompletesAt loopbackResolver twoSessions 1 4 0 ⟨[7], 5⟩ ∧
      (stateAt loopbackResolver twoSessions 5).queue 0 = [⟨[7], 5⟩] ∧
      stateAt loopbackResolver twoSessions 9 = stateAt loopbackResolver twoSessions 8 ∧
      (stateAt loopbackResolver twoSessions 10).live = 0 ∧
      (stateAt loopbackResolver twoSessions 11).live = 1 := by
  have hnew : HttpsResolver.new loopbackSettings 1 = .ok loopbackResolver := by cbv
  have hput : putAt loopbackResolver twoSessions 4 0 = [⟨[7], 5⟩] := rfl
  have hpending : PendingAt loopbackResolver twoSessions 1 0 0 5 :=
    ⟨_, _, _, ⟨_, _, rfl, rfl, rfl⟩, rfl, rfl, rfl⟩
  refine ⟨hnew, bounded_of_new hnew twoSessions, ⟨?_, 0, hpending, rfl⟩, rfl, rfl, rfl, rfl⟩
  rw [hput]
  exact List.mem_singleton_self _

end HttpsRun

end Sinkhole
