import FormulaLab.Action.Dispatcher

/-! Requests of several callers. A request is accepted, carried out, counted and delivered one after the
other, but anything may happen to other requests in between, and the time limit of a caller may pass at
any point. -/

namespace FormulaLab

/-- The ways to send a request. -/
inductive Call where
  | unlimited (request : Request)
  | limited (request : Request)
  /-- Has a time limit, too, if it is a request at all. -/
  | text (input : String)

/-- The request of a call, unless the call is malformed. -/
def Call.request? : Call → Option Request
  | unlimited request | limited request => some request
  | text input => Request.read? input

def Call.malformed (call : Call) : Bool := call.request?.isNone

/-- A request that has been carried out. -/
structure Execution where
  ticket : Nat
  request : Request
  response : Response

def Execution.failed (execution : Execution) : Bool := !execution.response.success

/-- What the caller of a request has been told. -/
structure Delivery where
  ticket : Nat
  response : Response
  timedOut : Bool

/-- A dispatcher that several callers use, and what has come of their requests so far. -/
structure Traffic where
  dispatcher : Dispatcher
  /-- Counter of node ids. -/
  ids : Nat
  /-- Tickets of requests without a time limit. -/
  unlimited : List Nat
  /-- In the order in which the engine carried them out. -/
  executions : List Execution
  uncounted : List Execution
  deliveries : List Delivery

/-- What can happen next. -/
inductive Event where
  | call (call : Call)
  | carryOut (ticket : Nat)
  | count (ticket : Nat)
  | deliver (ticket : Nat)
  | expire (ticket : Nat)

def Event.call? : Event → Option Call
  | call sent => some sent
  | carryOut _ | count _ | deliver _ | expire _ => none

namespace Traffic

/-- Nothing has been asked of a dispatcher yet. -/
def start (dispatcher : Dispatcher) (ids : Nat) : Traffic := ⟨dispatcher, ids, [], [], [], []⟩

def Executed (s : Traffic) (ticket : Nat) : Prop := ticket ∈ s.executions.map Execution.ticket

def Uncounted (s : Traffic) (ticket : Nat) : Prop := ticket ∈ s.uncounted.map Execution.ticket

instance (s : Traffic) : DecidablePred s.Executed := fun _ => inferInstanceAs (Decidable (_ ∈ _))

instance (s : Traffic) : DecidablePred s.Uncounted := fun _ => inferInstanceAs (Decidable (_ ∈ _))

def pending? (s : Traffic) (ticket : Nat) : Option Pending :=
  s.dispatcher.pending.find? (·.ticket == ticket)

def accept (s : Traffic) (request : Request) : Traffic :=
  { s with dispatcher := (s.dispatcher.accept request).2 }

def refuse (s : Traffic) (input : String) : Traffic :=
  { s with dispatcher := (s.dispatcher.refuse input).2 }

def execute (s : Traffic) (entry : Pending) : Traffic :=
  let result := s.dispatcher.execute entry.request s.ids
  let execution := ⟨entry.ticket, entry.request, result.1.1⟩
  { s with
    dispatcher := result.1.2
    ids := result.2
    executions := s.executions ++ [execution]
    uncounted := s.uncounted ++ [execution] }

def record (s : Traffic) (execution : Execution) : Traffic :=
  { s with
    dispatcher := s.dispatcher.record execution.response
    uncounted := s.uncounted.eraseP (·.ticket == execution.ticket) }

/-- A request is no longer pending. Its caller gets the response if it still waits. -/
def close (s : Traffic) (entry : Pending) (response : Response) : Traffic :=
  { s with
    dispatcher := { s.dispatcher with
      pending := s.dispatcher.pending.filter (·.ticket != entry.ticket) }
    deliveries := s.deliveries ++ if entry.awaited then [⟨entry.ticket, response, false⟩] else [] }

def call (s : Traffic) : Call → Traffic
  | .unlimited request =>
    { s.accept request with unlimited := (s.dispatcher.accept request).1 :: s.unlimited }
  | .limited request => s.accept request
  | .text input =>
    match Request.read? input with
    | some request => s.accept request
    | none => s.refuse input

/-- The engine carries out a pending request, unless it has done so already. -/
def carryOut (s : Traffic) (ticket : Nat) : Traffic :=
  match s.pending? ticket with
  | none => s
  | some entry => if s.Executed ticket then s else s.execute entry

def count (s : Traffic) (ticket : Nat) : Traffic :=
  match s.uncounted.find? (·.ticket == ticket) with
  | none => s
  | some execution => s.record execution

/-- A request is over when it has been carried out and counted. -/
def deliver (s : Traffic) (ticket : Nat) : Traffic :=
  match s.pending? ticket, s.executions.find? (·.ticket == ticket) with
  | some entry, some execution => if s.Uncounted ticket then s else s.close entry execution.response
  | _, _ => s

def expire (s : Traffic) (ticket : Nat) : Traffic :=
  if ticket ∈ s.unlimited then s
  else
    match s.dispatcher.expire ticket with
    | (none, _) => s
    | (some response, dispatcher) =>
      { s with dispatcher, deliveries := s.deliveries ++ [⟨ticket, response, true⟩] }

def step (s : Traffic) : Event → Traffic
  | .call sent => s.call sent
  | .carryOut ticket => s.carryOut ticket
  | .count ticket => s.count ticket
  | .deliver ticket => s.deliver ticket
  | .expire ticket => s.expire ticket

def run (s : Traffic) (events : List Event) : Traffic := events.foldl step s

/-! What can have happened in a step. -/

variable {s : Traffic} {ticket : Nat} {entry : Pending}

theorem execute_frame (dispatcher : Dispatcher) (request : Request) (n : Nat) :
    (dispatcher.execute request n).1.2 =
      { dispatcher with engine := (dispatcher.execute request n).1.2.engine } := by
  unfold Dispatcher.execute
  cases Dispatcher.resolve request <;> rfl

theorem pending?_some (found : s.pending? ticket = some entry) :
    entry ∈ s.dispatcher.pending ∧ entry.ticket = ticket := by
  refine ⟨List.mem_of_find?_eq_some found, ?_⟩
  simpa using List.find?_some found

theorem carryOut_cases (s : Traffic) (ticket : Nat) : s.carryOut ticket = s ∨
    ∃ entry ∈ s.dispatcher.pending, ¬ s.Executed entry.ticket ∧ s.carryOut ticket = s.execute entry := by
  unfold carryOut
  split
  · exact .inl rfl
  next entry found =>
    obtain ⟨member, rfl⟩ := pending?_some found
    split
    · exact .inl rfl
    next waiting => exact .inr ⟨entry, member, waiting, rfl⟩

theorem count_cases (s : Traffic) (ticket : Nat) : s.count ticket = s ∨
    ∃ execution, s.uncounted.find? (·.ticket == execution.ticket) = some execution ∧
      s.count ticket = s.record execution := by
  unfold count
  split
  · exact .inl rfl
  next execution found =>
    obtain rfl : execution.ticket = ticket := by simpa using List.find?_some found
    exact .inr ⟨execution, found, rfl⟩

theorem deliver_cases (s : Traffic) (ticket : Nat) : s.deliver ticket = s ∨
    ∃ entry ∈ s.dispatcher.pending, ∃ response, s.Executed entry.ticket ∧
      s.deliver ticket = s.close entry response := by
  unfold deliver
  split
  next entry execution pending found =>
    obtain ⟨member, rfl⟩ := pending?_some pending
    split
    · exact .inl rfl
    · have executed : s.Executed entry.ticket :=
        List.mem_map.mpr ⟨execution, List.mem_of_find?_eq_some found, by simpa using List.find?_some found⟩
      exact .inr ⟨entry, member, execution.response, executed, rfl⟩
  · exact .inl rfl

/-- The caller of a request is told that its time is over. -/
def abandon (s : Traffic) (entry : Pending) : Traffic :=
  { s with
    dispatcher := { s.dispatcher with
      pending := s.dispatcher.pending.map fun other =>
        if other.ticket = entry.ticket then { other with awaited := false } else other
      metrics := s.dispatcher.metrics.map fun metrics =>
        { metrics with timeouts := metrics.timeouts + 1 } }
    deliveries := s.deliveries ++
      [⟨entry.ticket, .failure entry.request.name (.timeout entry.request.name), true⟩] }

theorem expire_cases (s : Traffic) (ticket : Nat) : s.expire ticket = s ∨
    ∃ entry ∈ s.dispatcher.pending, entry.awaited = true ∧ s.expire ticket = s.abandon entry := by
  unfold expire
  split
  · exact .inl rfl
  · rw [Dispatcher.expire]
    cases found : s.dispatcher.pending.find? fun entry => entry.ticket == ticket && entry.awaited with
    | none => exact .inl rfl
    | some entry =>
      have awaited := List.find?_some found
      simp only [Bool.and_eq_true, beq_iff_eq] at awaited
      obtain ⟨rfl, awaited⟩ := awaited
      exact .inr ⟨entry, List.mem_of_find?_eq_some found, awaited, rfl⟩

end Traffic
end FormulaLab
