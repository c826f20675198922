import FormulaLab.Action.Perform
import FormulaLab.Action.Request

/-! The dispatcher: one engine that answers requests, with counters. Requests are accepted, may be
answered with a timeout while they wait for the engine, and are always carried out in the end; what
is counted when they finish does not depend on whether somebody still waits for the answer. -/

namespace FormulaLab

structure Metrics where
  /-- Requests that have been answered by their own outcome. -/
  actions : Nat
  failures : Nat
  timeouts : Nat
  durations : Nat
  deriving DecidableEq, Repr

structure MetricFamily where
  name : String
  help : String
  count : Nat

namespace Metrics

def zero : Metrics := ⟨0, 0, 0, 0⟩

def record (metrics : Metrics) (response : Response) : Metrics :=
  { metrics with
    actions := metrics.actions + 1
    failures := if response.success then metrics.failures else metrics.failures + 1
    durations := metrics.durations + 1 }

def families (metrics : Metrics) : List MetricFamily := [
  ⟨"dfumt_action_duration_seconds", "Action execution duration", metrics.durations⟩,
  ⟨"dfumt_action_failures_total", "Actions that returned a failure response", metrics.failures⟩,
  ⟨"dfumt_action_timeouts_total", "Actions abandoned after the execution timeout",
    metrics.timeouts⟩,
  ⟨"dfumt_actions_total", "Total actions dispatched", metrics.actions⟩]

end Metrics

/-- An accepted request that has not finished. -/
structure Pending where
  ticket : Nat
  request : Request
  /-- Whether the caller still waits for the answer. -/
  awaited : Bool

structure Dispatcher where
  engine : Engine Float
  metrics : Option Metrics
  /-- Accepted requests that have not finished, in order of acceptance. -/
  pending : List Pending
  nextTicket : Nat

namespace Dispatcher

def new (engine : Engine Float) (metrics : Option Metrics) : Dispatcher := ⟨engine, metrics, [], 1⟩

def record (dispatcher : Dispatcher) (response : Response) : Dispatcher :=
  { dispatcher with metrics := dispatcher.metrics.map (·.record response) }

/-- Action of a request with all required arguments, or the reason why none is reached. -/
def resolve (request : Request) : Except RequestError Action :=
  match Action.ofName? request.name with
  | none => .error (.unknownAction request.name)
  | some action =>
    match action.missing? request.arguments with
    | some missing => .error missing
    | none => .ok action

/-- Carries out a request without counting it. -/
def execute (dispatcher : Dispatcher) (request : Request) : Fresh (Response × Dispatcher) := do
  match resolve request with
  | .error e => return (.failure request.name (.request e), dispatcher)
  | .ok action =>
    let (outcome, engine) ← action.perform dispatcher.engine request.arguments
    let response := match outcome with
      | .error e => Response.failure request.name e
      | .ok output => Response.ofData request.name output.data output.summary
    return (response, { dispatcher with engine })

def dispatch (dispatcher : Dispatcher) (request : Request) : Fresh (Response × Dispatcher) := do
  let (response, dispatcher) ← dispatcher.execute request
  return (response, dispatcher.record response)

def accept (dispatcher : Dispatcher) (request : Request) : Nat × Dispatcher :=
  (dispatcher.nextTicket,
    { dispatcher with
      pending := dispatcher.pending ++ [⟨dispatcher.nextTicket, request, true⟩]
      nextTicket := dispatcher.nextTicket + 1 })

/-- Tells the caller of a request that is still awaited that it timed out. The request stays
pending. -/
def expire (dispatcher : Dispatcher) (ticket : Nat) : Option Response × Dispatcher :=
  match dispatcher.pending.find? fun entry => entry.ticket == ticket && entry.awaited with
  | none => (none, dispatcher)
  | some entry =>
    (some (.failure entry.request.name (.timeout entry.request.name)),
      { dispatcher with
        pending := dispatcher.pending.map fun other =>
          if other.ticket = ticket then { other with awaited := false } else other
        metrics := dispatcher.metrics.map fun metrics =>
          { metrics with timeouts := metrics.timeouts + 1 } })

/-- Carries out a pending request. The answer is delivered if the caller still waits. -/
def finish (dispatcher : Dispatcher) (ticket : Nat) : Fresh (Option Response × Dispatcher) := do
  match dispatcher.pending.find? (·.ticket == ticket) with
  | none => return (none, dispatcher)
  | some entry =>
    let (response, dispatcher) ← dispatcher.dispatch entry.request
    return (if entry.awaited then some response else none,
      { dispatcher with pending := dispatcher.pending.filter (·.ticket != ticket) })

def refuse (dispatcher : Dispatcher) (text : String) : Response × Dispatcher :=
  let response := Response.failure (Request.nameIn text) .unreadable
  (response, dispatcher.record response)

/-- Answers a request that finishes in time. -/
def answer (dispatcher : Dispatcher) (request : Request) : Fresh (Response × Dispatcher) := do
  let (ticket, dispatcher) := dispatcher.accept request
  let (response, dispatcher) ← dispatcher.finish ticket
  return (response.getD (.failure request.name (.timeout request.name)), dispatcher)

/-- Answers a request while the engine is held beyond the time limit, and carries it out afterwards.
A request that does not reach the engine is not held up. -/
def answerHeld (dispatcher : Dispatcher) (request : Request) : Fresh (Response × Dispatcher) := do
  match resolve request with
  | .error _ => dispatcher.answer request
  | .ok _ =>
    let (ticket, dispatcher) := dispatcher.accept request
    let (response, dispatcher) := dispatcher.expire ticket
    let (_, dispatcher) ← dispatcher.finish ticket
    return (response.getD (.failure request.name (.timeout request.name)), dispatcher)

def answerText (dispatcher : Dispatcher) (text : String) : Fresh (Response × Dispatcher) :=
  match Request.read? text with
  | some request => dispatcher.answer request
  | none => pure (dispatcher.refuse text)

def answerTextHeld (dispatcher : Dispatcher) (text : String) : Fresh (Response × Dispatcher) :=
  match Request.read? text with
  | some request => dispatcher.answerHeld request
  | none => pure (dispatcher.refuse text)

end Dispatcher
end FormulaLab
