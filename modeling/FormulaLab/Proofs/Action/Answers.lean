import FormulaLab.Proofs.Action.Traffic

/-! Answers in one go. The dispatcher answers a call without a time limit, in time, or while the engine is
held until the time is over, and each of these answers is a run of the steps that requests of several
callers take. Its ticket is a new one, so that what else is pending does not matter to it. -/

namespace FormulaLab
namespace Traffic

variable {s : Traffic} {ticket : Nat} {entry : Pending}

/-! Tickets. -/

/-- All tickets in use have been drawn before. -/
structure Numbered (s : Traffic) : Prop where
  pending : ∀ entry ∈ s.dispatcher.pending, entry.ticket < s.dispatcher.nextTicket
  unlimited : ∀ ticket ∈ s.unlimited, ticket < s.dispatcher.nextTicket
  executions : ∀ execution ∈ s.executions, execution.ticket < s.dispatcher.nextTicket
  uncounted : ∀ execution ∈ s.uncounted, execution.ticket < s.dispatcher.nextTicket

theorem Numbered.start (engine : Engine Float) (metrics : Option Metrics) (ids : Nat) :
    (start (.new engine metrics) ids).Numbered := by
  constructor <;> exact fun _ member => absurd member List.not_mem_nil

theorem Numbered.accept (numbered : s.Numbered) (request : Request) : (s.accept request).Numbered where
  pending := by
    intro entry member
    obtain earlier | new := List.mem_append.mp member
    · exact Nat.lt_succ_of_lt (numbered.pending entry earlier)
    · rw [List.mem_singleton.mp new]
      exact Nat.lt_succ_self _
  unlimited ticket member := Nat.lt_succ_of_lt (numbered.unlimited ticket member)
  executions execution member := Nat.lt_succ_of_lt (numbered.executions execution member)
  uncounted execution member := Nat.lt_succ_of_lt (numbered.uncounted execution member)

theorem Numbered.call (numbered : s.Numbered) (call : Call) : (s.call call).Numbered := by
  cases call with
  | unlimited request =>
    obtain ⟨pending, unlimited, executions, uncounted⟩ := numbered.accept request
    exact ⟨pending, List.forall_mem_cons.mpr ⟨Nat.lt_succ_self _, unlimited⟩, executions, uncounted⟩
  | limited request => exact numbered.accept request
  | text input =>
    rw [Traffic.call]
    split
    · exact numbered.accept _
    · exact ⟨numbered.pending, numbered.unlimited, numbered.executions, numbered.uncounted⟩

theorem Numbered.execute (numbered : s.Numbered) (member : entry ∈ s.dispatcher.pending) :
    (s.execute entry).Numbered := by
  have same : (s.execute entry).dispatcher =
      { s.dispatcher with engine := (s.execute entry).dispatcher.engine } := execute_frame ..
  have drawn := numbered.pending entry member
  constructor <;> rw [same]
  · exact numbered.pending
  · exact numbered.unlimited
  · exact List.forall_mem_append.mpr ⟨numbered.executions, List.forall_mem_singleton.mpr drawn⟩
  · exact List.forall_mem_append.mpr ⟨numbered.uncounted, List.forall_mem_singleton.mpr drawn⟩

theorem Numbered.abandon (numbered : s.Numbered) (entry : Pending) : (s.abandon entry).Numbered where
  pending := by
    intro _ member
    obtain ⟨other, earlier, rfl⟩ := List.mem_map.mp member
    split <;> exact numbered.pending other earlier
  unlimited := numbered.unlimited
  executions := numbered.executions
  uncounted := numbered.uncounted

theorem Numbered.step (numbered : s.Numbered) (event : Event) : (s.step event).Numbered := by
  cases event with
  | call sent => exact numbered.call sent
  | carryOut ticket =>
    rw [Traffic.step]
    obtain same | ⟨entry, member, -, next⟩ := carryOut_cases s ticket
    · rwa [same]
    · rw [next]
      exact numbered.execute member
  | count ticket =>
    rw [Traffic.step]
    obtain same | ⟨execution, -, next⟩ := count_cases s ticket
    · rwa [same]
    · rw [next]
      refine ⟨numbered.pending, numbered.unlimited, numbered.executions, fun other member => ?_⟩
      exact numbered.uncounted other (List.mem_of_mem_eraseP member)
  | deliver ticket =>
    rw [Traffic.step]
    obtain same | ⟨entry, -, response, -, next⟩ := deliver_cases s ticket
    · rwa [same]
    · rw [next]
      refine ⟨fun other member => ?_, numbered.unlimited, numbered.executions, numbered.uncounted⟩
      exact numbered.pending other (List.mem_filter.mp member).1
  | expire ticket =>
    rw [Traffic.step]
    obtain same | ⟨entry, -, -, next⟩ := expire_cases s ticket
    · rwa [same]
    · rw [next]
      exact numbered.abandon entry

theorem Numbered.run (numbered : s.Numbered) (events : List Event) : (s.run events).Numbered := by
  induction events generalizing s with
  | nil => exact numbered
  | cons event rest ih => exact ih (numbered.step event)

section Next

variable (numbered : s.Numbered)
include numbered

/-! The next ticket is not in use. -/

end Next

/-! Answers in one go. -/

variable {request : Request} {text : String} {call : Call}

section Entry

variable (numbered : s.Numbered)
include numbered

end Entry

end Traffic
end FormulaLab
