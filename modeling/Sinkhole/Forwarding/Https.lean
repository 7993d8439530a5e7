import Sinkhole.Config.Settings
import Sinkhole.Text.Quoted
import Sinkhole.Forwarding.Udp
import Sinkhole.Url.Parser

/-! # DNS over HTTPS

Each query becomes a request that runs beside the session. A permit is taken for as long as the
request lives, so their number is bounded; without a free one the query is given up. A finished
request hands its answer to the completion queue and waits while that is full. Requests end with
their session.
-/
namespace Sinkhole

/-- Free permits, of which requests that live hold the others. -/
structure HttpsResolver where
  url : Url
  limit : Nat
  free : Nat
deriving Repr

namespace HttpsResolver

def new (settings : ForwardingSettings) (limit : Nat) : Except Error HttpsResolver :=
  match Url.parse settings.url with
  | .error cause =>
    .error (.resolver ("invalid DoH URL " ++ Text.quoted settings.url ++ ": " ++ cause.message))
  | .ok url =>
    match url.host? with
    | none => .error (.resolver ("DoH URL has no host: " ++ Text.quoted settings.url))
    | some _ => .ok ⟨url, limit, limit⟩

variable {ρ : Type}

/-- Starts a request, or gives the query up when no permit is free. -/
def start (resolver : HttpsResolver) (payload : Bytes) (reply : ρ) (session : SessionState ρ) :
    Resolved HttpsResolver ρ :=
  if resolver.free = 0 then ⟨.ok .dropped, session, [], resolver⟩
  else
    let task : HttpsTask ρ := ⟨session.tasksStarted, payload, reply, none⟩
    let session := { session with
      tasks := session.tasks ++ [task], tasksStarted := session.tasksStarted + 1 }
    ⟨.ok .pending, session, [], { resolver with free := resolver.free - 1 }⟩

/-- Resolves a query. One without a reply only has to leave the device and goes over UDP. -/
def resolve (path : UdpPath) (now : Nat) : Resolver HttpsResolver ρ :=
  fun query session resolver =>
    match query.reply with
    | some reply => resolver.start query.payload reply session
    | none =>
      let forwarded := forwardUdp path now query session ()
      ⟨forwarded.result, forwarded.session, forwarded.counters, resolver⟩

def endTask (resolver : HttpsResolver) (number : Nat) (session : SessionState ρ) :
    HttpsResolver × SessionState ρ :=
  let tasks := session.tasks.filter (·.number != number)
  ({ resolver with free := resolver.free + (session.tasks.length - tasks.length) },
    { session with tasks := tasks })

def taskFailed (resolver : HttpsResolver) (number : Nat) (session : SessionState ρ) :
    HttpsResolver × SessionState ρ :=
  resolver.endTask number session

/-- A request that has its answer holds it until there is room in the queue. -/
def taskAnswered (number : Nat) (answer : Bytes) (session : SessionState ρ) : SessionState ρ :=
  { session with tasks := session.tasks.map fun task =>
      if task.number = number then { task with answer := task.answer.or (some answer) }
      else task }

/-- Hands over the answer of a request, if it has one and there is room. -/
def handOver? (resolver : HttpsResolver) (number : Nat) (session : SessionState ρ) :
    Option (HttpsResolver × SessionState ρ) := do
  let task ← session.tasks.find? (·.number = number)
  let answer ← task.answer
  let completions ← session.completions.push? ⟨answer, task.reply⟩
  pure (resolver.endTask number { session with completions := completions })

def sessionEnded (resolver : HttpsResolver) (session : SessionState ρ) :
    HttpsResolver × SessionState ρ :=
  ({ resolver with free := resolver.free + session.tasks.length }, { session with tasks := [] })

end HttpsResolver

end Sinkhole
