import FormulaLab.Proofs.Action.Answers
import FormulaLab.Proofs.Engine.Configured
import Mathlib.Data.List.Nodup

/-! The accounts of a dispatcher that several callers use. In whatever order their requests are carried
out, counted, answered and given up, each of them is carried out once and counted once, and a timeout is
counted next to it. -/

namespace FormulaLab
namespace Traffic

/-! What is counted. -/

/-- The counters at some point. What has been carried out is counted or still to be counted, and the
malformed calls are counted next to it. -/
structure Tallied (malformed : Nat) (metrics : Metrics) (s : Traffic) : Prop where
  kept : s.dispatcher.metrics = some metrics
  actions : metrics.actions + s.uncounted.length = malformed + s.executions.length
  failures : metrics.failures + s.uncounted.countP Execution.failed =
    malformed + s.executions.countP Execution.failed
  timeouts : metrics.timeouts = s.deliveries.countP Delivery.timedOut

variable {s : Traffic} {malformed ticket : Nat} {metrics : Metrics} {request : Request}

theorem Tallied.accept (tallied : s.Tallied malformed metrics) (request : Request) :
    (s.accept request).Tallied malformed metrics :=
  ⟨tallied.kept, tallied.actions, tallied.failures, tallied.timeouts⟩

theorem Tallied.refuse (tallied : s.Tallied malformed metrics) (input : String) :
    Tallied (malformed + 1) { metrics with
      actions := metrics.actions + 1
      failures := metrics.failures + 1
      durations := metrics.durations + 1 } { s with dispatcher := (s.dispatcher.refuse input).2 } where
  kept := by
    simp only [Dispatcher.refuse, Dispatcher.record, tallied.kept]
    rfl
  actions := by
    have actions := tallied.actions
    dsimp only
    omega
  failures := by
    have failures := tallied.failures
    dsimp only
    omega
  timeouts := tallied.timeouts

theorem Tallied.execute (tallied : s.Tallied malformed metrics) (entry : Pending) :
    (s.execute entry).Tallied malformed metrics where
  kept := by
    rw [← tallied.kept, Traffic.execute, execute_frame]
  actions := by
    have actions := tallied.actions
    simp only [Traffic.execute, List.length_append, List.length_singleton]
    omega
  failures := by
    have failures := tallied.failures
    simp only [Traffic.execute, List.countP_append]
    omega
  timeouts := tallied.timeouts

theorem perm_cons_eraseP {α : Type} {p : α → Bool} {xs : List α} {x : α} (found : xs.find? p = some x) :
    xs.Perm (x :: xs.eraseP p) := by
  obtain ⟨holds, before, after, rfl, none⟩ := List.find?_eq_some_iff_append.mp found
  have erased : (before ++ x :: after).eraseP p = before ++ after := by
    rw [List.eraseP_append_right _ (by simpa using none), List.eraseP_cons_of_pos holds]
  rw [erased]
  exact List.perm_middle

theorem Tallied.record (tallied : s.Tallied malformed metrics) {execution : Execution}
    (found : s.uncounted.find? (·.ticket == execution.ticket) = some execution) :
    (s.record execution).Tallied malformed (metrics.record execution.response) := by
  obtain ⟨kept, actions, failures, timeouts⟩ := tallied
  have once := perm_cons_eraseP found
  rw [once.length_eq, List.length_cons] at actions
  rw [once.countP_eq, List.countP_cons] at failures
  refine ⟨?_, ?_, ?_, timeouts⟩
  · simp only [Traffic.record, Dispatcher.record, kept, Option.map_some]
  · simp only [Traffic.record, Metrics.record]
    omega
  · rw [Execution.failed] at failures
    simp only [Traffic.record, Metrics.record]
    cases success : execution.response.success <;> simp [success] at failures ⊢ <;> omega

theorem Tallied.close (tallied : s.Tallied malformed metrics) (entry : Pending) (response : Response) :
    (s.close entry response).Tallied malformed metrics where
  kept := tallied.kept
  actions := tallied.actions
  failures := tallied.failures
  timeouts := by
    rw [tallied.timeouts, Traffic.close, List.countP_append]
    cases entry.awaited <;> rfl

theorem Tallied.abandon (tallied : s.Tallied malformed metrics) (entry : Pending) :
    Tallied malformed { metrics with timeouts := metrics.timeouts + 1 } (s.abandon entry) where
  kept := by
    rw [Traffic.abandon, tallied.kept]
    rfl
  actions := tallied.actions
  failures := tallied.failures
  timeouts := by
    rw [tallied.timeouts, Traffic.abandon, List.countP_append]
    rfl

/-! What becomes of the requests. -/

/-- Somebody waits for the answer to the request with this ticket. -/
def Awaits (s : Traffic) (ticket : Nat) : Prop :=
  ∃ entry ∈ s.dispatcher.pending, entry.ticket = ticket ∧ entry.awaited = true

/-- The requests so far, in order of acceptance. Each is carried out at most once and as it was sent,
stays pending until then, and is answered once, by when nobody waits for it any longer. -/
structure Tracked (requests : List Request) (s : Traffic) : Prop where
  next : s.dispatcher.nextTicket = requests.length + 1
  pending : ∀ entry ∈ s.dispatcher.pending, (entry.request, entry.ticket) ∈ requests.zipIdx 1
  distinct : (s.dispatcher.pending.map Pending.ticket).Nodup
  executions : ∀ execution ∈ s.executions,
    (execution.request, execution.ticket) ∈ requests.zipIdx 1
  executedOnce : (s.executions.map Execution.ticket).Nodup
  covered : ∀ sent ∈ requests.zipIdx 1,
    s.Executed sent.2 ∨ sent.2 ∈ s.dispatcher.pending.map Pending.ticket
  answered : ∀ ticket, ticket ∈ s.deliveries.map Delivery.ticket ↔
    ticket ∈ List.range' 1 requests.length ∧ ¬ s.Awaits ticket
  answeredOnce : (s.deliveries.map Delivery.ticket).Nodup

variable {requests : List Request} {entry : Pending}

theorem ticket_mem_range {sent : Request × Nat} (member : sent ∈ requests.zipIdx 1) :
    sent.2 ∈ List.range' 1 requests.length := by
  rw [← List.zipIdx_map_snd]
  exact List.mem_map_of_mem member

theorem zipIdx_append_singleton (requests : List Request) (request : Request) :
    (requests ++ [request]).zipIdx 1 = requests.zipIdx 1 ++ [(request, requests.length + 1)] := by
  rw [List.zipIdx_append, Nat.add_comm 1]
  rfl

/-- The counters and the engine do not matter to what becomes of the requests. -/
theorem Tracked.frame {t : Traffic} (tracked : s.Tracked requests)
    (next : t.dispatcher.nextTicket = s.dispatcher.nextTicket)
    (pending : t.dispatcher.pending = s.dispatcher.pending)
    (executions : t.executions = s.executions) (deliveries : t.deliveries = s.deliveries) :
    t.Tracked requests := by
  obtain ⟨dispatcher, _, _, _, _, _⟩ := t
  obtain ⟨_, _, _, _⟩ := dispatcher
  cases next
  cases pending
  cases executions
  cases deliveries
  exact ⟨tracked.next, tracked.pending, tracked.distinct, tracked.executions, tracked.executedOnce,
    tracked.covered, tracked.answered, tracked.answeredOnce⟩

theorem Tracked.fresh (tracked : s.Tracked requests) {ticket : Nat}
    (known : ticket ∈ List.range' 1 requests.length) : ticket ≠ s.dispatcher.nextTicket := by
  have bounds := List.mem_range'_1.mp known
  have next := tracked.next
  omega

theorem Tracked.accept (tracked : s.Tracked requests) (request : Request) :
    (s.accept request).Tracked (requests ++ [request]) := by
  have sent := zipIdx_append_singleton requests request
  have next := tracked.next
  have range : List.range' 1 (requests ++ [request]).length =
      List.range' 1 requests.length ++ [s.dispatcher.nextTicket] := by
    rw [next, List.length_append, List.length_singleton, List.range'_1_concat, Nat.add_comm 1]
  have waits (ticket : Nat) : (s.accept request).Awaits ticket ↔
      s.Awaits ticket ∨ ticket = s.dispatcher.nextTicket := by
    constructor
    · rintro ⟨entry, member, rfl, awaited⟩
      rcases List.mem_append.mp member with earlier | new
      · exact .inl ⟨entry, earlier, rfl, awaited⟩
      · exact .inr (List.mem_singleton.mp new ▸ rfl)
    · rintro (⟨entry, earlier, same, awaited⟩ | rfl)
      · exact ⟨entry, List.mem_append_left _ earlier, same, awaited⟩
      · exact ⟨_, List.mem_append_right _ (List.mem_singleton_self _), rfl, rfl⟩
  constructor
  · simp [Traffic.accept, Dispatcher.accept, next]
  · intro entry member
    rw [sent, List.mem_append]
    rcases List.mem_append.mp member with earlier | new
    · exact .inl (tracked.pending entry earlier)
    · rw [List.mem_singleton.mp new, next]
      exact .inr (List.mem_singleton_self _)
  · have absent : s.dispatcher.nextTicket ∉ s.dispatcher.pending.map Pending.ticket := by
      intro member
      obtain ⟨entry, earlier, same⟩ := List.mem_map.mp member
      exact tracked.fresh (ticket_mem_range (tracked.pending entry earlier)) same
    change ((s.dispatcher.pending ++ [_]).map Pending.ticket).Nodup
    rw [List.map_append]
    exact List.nodup_append_comm.mp (List.nodup_cons.mpr ⟨absent, tracked.distinct⟩)
  · intro execution member
    rw [sent]
    exact List.mem_append_left _ (tracked.executions execution member)
  · exact tracked.executedOnce
  · intro p member
    rw [sent, List.mem_append] at member
    change s.Executed p.2 ∨ p.2 ∈ (s.dispatcher.pending ++ [_]).map Pending.ticket
    rw [List.map_append, List.mem_append, ← or_assoc]
    rcases member with earlier | new
    · exact .inl (tracked.covered p earlier)
    · rw [List.mem_singleton.mp new, next]
      exact .inr (List.mem_singleton_self _)
  · intro ticket
    have told := tracked.answered ticket
    change ticket ∈ s.deliveries.map Delivery.ticket ↔ _
    rw [waits, range, told, List.mem_append, List.mem_singleton]
    have new := @Tracked.fresh s requests tracked ticket
    tauto
  · exact tracked.answeredOnce

theorem Tracked.execute (tracked : s.Tracked requests) (pending : entry ∈ s.dispatcher.pending)
    (waiting : ¬ s.Executed entry.ticket) : (s.execute entry).Tracked requests := by
  have same : (s.execute entry).dispatcher =
      { s.dispatcher with engine := (s.execute entry).dispatcher.engine } := execute_frame ..
  have tickets : (s.execute entry).executions.map Execution.ticket =
      s.executions.map Execution.ticket ++ [entry.ticket] := by
    rw [Traffic.execute, List.map_append]
    rfl
  constructor
  · rw [same]
    exact tracked.next
  · rw [same]
    exact tracked.pending
  · rw [same]
    exact tracked.distinct
  · intro execution member
    rcases List.mem_append.mp member with earlier | new
    · exact tracked.executions execution earlier
    · rw [List.mem_singleton.mp new]
      exact tracked.pending entry pending
  · rw [tickets]
    exact List.nodup_append_comm.mp (List.nodup_cons.mpr ⟨waiting, tracked.executedOnce⟩)
  · intro sent member
    rw [Executed, tickets, same, List.mem_append]
    exact (tracked.covered sent member).imp_left .inl
  · have waits : (s.execute entry).Awaits = s.Awaits := by
      unfold Awaits
      rw [same]
    rw [waits]
    exact tracked.answered
  · exact tracked.answeredOnce

theorem Tracked.entry_unique (tracked : s.Tracked requests) {other : Pending}
    (pending : entry ∈ s.dispatcher.pending) (member : other ∈ s.dispatcher.pending)
    (same : other.ticket = entry.ticket) : other = entry :=
  List.inj_on_of_nodup_map tracked.distinct member pending same

theorem Tracked.awaits_entry (tracked : s.Tracked requests) (pending : entry ∈ s.dispatcher.pending) :
    s.Awaits entry.ticket ↔ entry.awaited = true := by
  constructor
  · rintro ⟨other, member, same, awaited⟩
    rw [← tracked.entry_unique pending member same]
    exact awaited
  · intro awaited
    exact ⟨entry, pending, rfl, awaited⟩

/-- Tickets that are answered once nobody waits for one of the pending requests any longer. -/
def answeredWith (s : Traffic) (entry : Pending) : List Nat :=
  s.deliveries.map Delivery.ticket ++ if entry.awaited then [entry.ticket] else []

theorem Tracked.mem_answeredWith (tracked : s.Tracked requests) (pending : entry ∈ s.dispatcher.pending)
    (ticket : Nat) : ticket ∈ s.answeredWith entry ↔
      ticket ∈ List.range' 1 requests.length ∧ ¬ (s.Awaits ticket ∧ ticket ≠ entry.ticket) := by
  have known := ticket_mem_range (tracked.pending entry pending)
  have waits := tracked.awaits_entry pending
  rw [answeredWith, List.mem_append, tracked.answered]
  by_cases same : ticket = entry.ticket
  · rw [same, waits]
    cases entry.awaited <;> simp [known]
  · cases entry.awaited <;> simp [same]

theorem Tracked.nodup_answeredWith (tracked : s.Tracked requests)
    (pending : entry ∈ s.dispatcher.pending) : (s.answeredWith entry).Nodup := by
  rw [answeredWith]
  split
  next awaited =>
    have new : entry.ticket ∉ s.deliveries.map Delivery.ticket := by
      intro told
      exact ((tracked.answered _).mp told).2 ((tracked.awaits_entry pending).mpr awaited)
    exact List.nodup_append_comm.mp (List.nodup_cons.mpr ⟨new, tracked.answeredOnce⟩)
  · rw [List.append_nil]
    exact tracked.answeredOnce

theorem Tracked.close (tracked : s.Tracked requests) (pending : entry ∈ s.dispatcher.pending)
    (executed : s.Executed entry.ticket) (response : Response) :
    (s.close entry response).Tracked requests := by
  have kept {other : Pending} : other ∈ (s.close entry response).dispatcher.pending ↔
      other ∈ s.dispatcher.pending ∧ other.ticket ≠ entry.ticket := by
    simp [Traffic.close]
  have tickets : (s.close entry response).deliveries.map Delivery.ticket = s.answeredWith entry := by
    rw [Traffic.close, List.map_append, answeredWith]
    cases entry.awaited <;> rfl
  have waits (ticket : Nat) : (s.close entry response).Awaits ticket ↔
      s.Awaits ticket ∧ ticket ≠ entry.ticket := by
    constructor
    · rintro ⟨other, member, rfl, awaited⟩
      exact ⟨⟨other, (kept.mp member).1, rfl, awaited⟩, (kept.mp member).2⟩
    · rintro ⟨⟨other, member, rfl, awaited⟩, distinct⟩
      exact ⟨other, kept.mpr ⟨member, distinct⟩, rfl, awaited⟩
  constructor
  · exact tracked.next
  · exact fun other member => tracked.pending other (kept.mp member).1
  · exact tracked.distinct.sublist (List.filter_sublist.map _)
  · exact tracked.executions
  · exact tracked.executedOnce
  · intro sent member
    by_cases ended : sent.2 = entry.ticket
    · rw [ended]
      exact .inl executed
    · refine (tracked.covered sent member).imp_right fun waiting => ?_
      obtain ⟨other, earlier, same⟩ := List.mem_map.mp waiting
      rw [← same]
      exact List.mem_map_of_mem (kept.mpr ⟨earlier, same ▸ ended⟩)
  · intro ticket
    rw [tickets, waits]
    exact tracked.mem_answeredWith pending ticket
  · rw [tickets]
    exact tracked.nodup_answeredWith pending

theorem Tracked.abandon (tracked : s.Tracked requests) (pending : entry ∈ s.dispatcher.pending)
    (awaited : entry.awaited = true) : (s.abandon entry).Tracked requests := by
  let givenUp (other : Pending) : Pending :=
    if other.ticket = entry.ticket then { other with awaited := false } else other
  have same (other : Pending) : (givenUp other).request = other.request ∧
      (givenUp other).ticket = other.ticket := by
    by_cases given : other.ticket = entry.ticket <;> simp [givenUp, given]
  have unawaited (other : Pending) : (givenUp other).awaited = true ↔
      other.awaited = true ∧ other.ticket ≠ entry.ticket := by
    by_cases given : other.ticket = entry.ticket <;> simp [givenUp, given]
  have tickets : (s.dispatcher.pending.map givenUp).map Pending.ticket =
      s.dispatcher.pending.map Pending.ticket := by
    rw [List.map_map]
    exact List.map_congr_left fun other _ => (same other).2
  have told : (s.abandon entry).deliveries.map Delivery.ticket = s.answeredWith entry := by
    rw [Traffic.abandon, List.map_append, answeredWith, awaited]
    rfl
  have waits (ticket : Nat) : (s.abandon entry).Awaits ticket ↔
      s.Awaits ticket ∧ ticket ≠ entry.ticket := by
    constructor
    · rintro ⟨_, member, rfl, awaited⟩
      obtain ⟨other, earlier, rfl⟩ := List.mem_map.mp member
      obtain ⟨awaited, distinct⟩ := (unawaited other).mp awaited
      change s.Awaits (givenUp other).ticket ∧ (givenUp other).ticket ≠ _
      rw [(same other).2]
      exact ⟨⟨other, earlier, rfl, awaited⟩, distinct⟩
    · rintro ⟨⟨other, member, rfl, awaited⟩, distinct⟩
      exact ⟨givenUp other, List.mem_map_of_mem member, (same other).2,
        (unawaited other).mpr ⟨awaited, distinct⟩⟩
  constructor
  · exact tracked.next
  · intro _ member
    obtain ⟨other, earlier, rfl⟩ := List.mem_map.mp member
    change ((givenUp other).request, (givenUp other).ticket) ∈ _
    rw [(same other).1, (same other).2]
    exact tracked.pending other earlier
  · change ((s.dispatcher.pending.map givenUp).map Pending.ticket).Nodup
    rw [tickets]
    exact tracked.distinct
  · exact tracked.executions
  · exact tracked.executedOnce
  · intro sent member
    change s.Executed sent.2 ∨ sent.2 ∈ (s.dispatcher.pending.map givenUp).map Pending.ticket
    rw [tickets]
    exact tracked.covered sent member
  · intro ticket
    rw [told, waits]
    exact tracked.mem_answeredWith pending ticket
  · rw [told]
    exact tracked.nodup_answeredWith pending

/-! The engine. -/

/-- Requests that are carried out one after the other on an engine, with what has become of it. -/
inductive Replay (engine : Engine Float) (ids : Nat) :
    List Execution → Engine Float → Nat → Prop where
  | none : Replay engine ids [] engine ids
  | next {log : List Execution} {dispatcher : Dispatcher} {n : Nat} (entry : Pending) :
      Replay engine ids log dispatcher.engine n →
      Replay engine ids
        (log ++ [⟨entry.ticket, entry.request, (dispatcher.execute entry.request n).1.1⟩])
        (dispatcher.execute entry.request n).1.2.engine (dispatcher.execute entry.request n).2

/-! All of it. -/

structure Accounted (engine : Engine Float) (ids : Nat) (calls : List Call) (s : Traffic) : Prop where
  tallied : ∃ metrics, s.Tallied (calls.countP Call.malformed) metrics
  tracked : s.Tracked (calls.filterMap Call.request?)
  replay : Replay engine ids s.executions s.dispatcher.engine s.ids

variable {engine : Engine Float} {ids : Nat} {calls : List Call}

theorem Accounted.start (engine : Engine Float) (ids : Nat) :
    Accounted engine ids [] (start (.new engine (some .zero)) ids) where
  tallied := ⟨.zero, rfl, rfl, rfl, rfl⟩
  tracked := by constructor <;> simp [Traffic.start, Dispatcher.new]
  replay := .none

theorem Accounted.accept (accounted : s.Accounted engine ids calls) (call : Call)
    (sent : call.request? = some request) :
    (s.accept request).Accounted engine ids (calls ++ [call]) where
  tallied := by
    have wellFormed : call.malformed = false := by simp [Call.malformed, sent]
    obtain ⟨metrics, tallied⟩ := accounted.tallied
    refine ⟨metrics, ?_⟩
    simpa [wellFormed] using tallied.accept request
  tracked := by simpa [sent] using accounted.tracked.accept request
  replay := accounted.replay

theorem Accounted.call (accounted : s.Accounted engine ids calls) (call : Call) :
    (s.call call).Accounted engine ids (calls ++ [call]) := by
  cases call with
  | unlimited request =>
    obtain ⟨⟨metrics, tallied⟩, tracked, replay⟩ :=
      accounted.accept (.unlimited request) rfl
    exact ⟨⟨metrics, tallied.kept, tallied.actions, tallied.failures, tallied.timeouts⟩,
      tracked.frame rfl rfl rfl rfl, replay⟩
  | limited request => exact accounted.accept (.limited request) rfl
  | text input =>
    cases read : Request.read? input with
    | some request =>
      rw [Traffic.call, read]
      exact accounted.accept (.text input) read
    | none =>
      rw [Traffic.call, read]
      obtain ⟨⟨metrics, tallied⟩, tracked, replay⟩ := accounted
      have malformed : (Call.text input).malformed = true := by
        rw [Call.malformed, Call.request?, read]
        rfl
      constructor
      · rw [List.countP_append, List.countP_singleton, if_pos malformed]
        exact ⟨_, tallied.refuse input⟩
      · have none : [Call.text input].filterMap Call.request? = [] := List.filterMap_cons_none read
        rw [List.filterMap_append, none, List.append_nil]
        exact tracked.frame rfl rfl rfl rfl
      · exact replay

theorem Accounted.carryOut (accounted : s.Accounted engine ids calls) (ticket : Nat) :
    (s.carryOut ticket).Accounted engine ids calls := by
  rcases carryOut_cases s ticket with same | ⟨entry, pending, waiting, next⟩
  · rw [same]
    exact accounted
  · obtain ⟨⟨metrics, tallied⟩, tracked, replay⟩ := accounted
    rw [next]
    exact ⟨⟨metrics, tallied.execute entry⟩, tracked.execute pending waiting, replay.next entry⟩

theorem Accounted.count (accounted : s.Accounted engine ids calls) (ticket : Nat) :
    (s.count ticket).Accounted engine ids calls := by
  rcases count_cases s ticket with same | ⟨execution, found, next⟩
  · rw [same]
    exact accounted
  · obtain ⟨⟨metrics, tallied⟩, tracked, replay⟩ := accounted
    rw [next]
    exact ⟨⟨_, tallied.record found⟩, tracked.frame rfl rfl rfl rfl, replay⟩

theorem Accounted.deliver (accounted : s.Accounted engine ids calls) (ticket : Nat) :
    (s.deliver ticket).Accounted engine ids calls := by
  rcases deliver_cases s ticket with same | ⟨entry, pending, response, executed, next⟩
  · rw [same]
    exact accounted
  · obtain ⟨⟨metrics, tallied⟩, tracked, replay⟩ := accounted
    rw [next]
    exact ⟨⟨metrics, tallied.close entry response⟩, tracked.close pending executed response, replay⟩

theorem Accounted.expire (accounted : s.Accounted engine ids calls) (ticket : Nat) :
    (s.expire ticket).Accounted engine ids calls := by
  rcases expire_cases s ticket with same | ⟨entry, pending, awaited, next⟩
  · rw [same]
    exact accounted
  · obtain ⟨⟨metrics, tallied⟩, tracked, replay⟩ := accounted
    rw [next]
    exact ⟨⟨_, tallied.abandon entry⟩, tracked.abandon pending awaited, replay⟩

/-- Whatever happens next, the accounts are kept. -/
theorem Accounted.step (accounted : s.Accounted engine ids calls) (event : Event) :
    (s.step event).Accounted engine ids (calls ++ event.call?.toList) := by
  cases event with
  | call sent => exact accounted.call sent
  | carryOut ticket => simpa [Event.call?, Traffic.step] using accounted.carryOut ticket
  | count ticket => simpa [Event.call?, Traffic.step] using accounted.count ticket
  | deliver ticket => simpa [Event.call?, Traffic.step] using accounted.deliver ticket
  | expire ticket => simpa [Event.call?, Traffic.step] using accounted.expire ticket

theorem Accounted.run (accounted : s.Accounted engine ids calls) (events : List Event) :
    (s.run events).Accounted engine ids (calls ++ events.filterMap Event.call?) := by
  induction events generalizing s calls with
  | nil =>
    rw [List.filterMap_nil, List.append_nil]
    exact accounted
  | cons event rest ih =>
    have sent : (event :: rest).filterMap Event.call? =
        event.call?.toList ++ rest.filterMap Event.call? := by
      cases called : event.call? <;> simp [called]
    rw [sent, ← List.append_assoc]
    exact ih (accounted.step event)

/-- No execution is in flight: all requests have been carried out and counted. -/
structure Quiet (s : Traffic) : Prop where
  executed : ∀ entry ∈ s.dispatcher.pending, s.Executed entry.ticket
  counted : s.uncounted = []

end Traffic
end FormulaLab
