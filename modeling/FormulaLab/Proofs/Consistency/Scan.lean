import FormulaLab.Proofs.Consistency.Division
import FormulaLab.Proofs.Construction.Acyclicity

/-! The structural scan. It carries the ids above a node and stops at one that is among them, so it finds a
cycle exactly in formulas in which an id is repeated on a path. In the others it visits every occurrence
of every node once, in preorder, and lists the faults that the node has by itself. -/

namespace FormulaLab.Formula

variable {α : Type} {f : Formula α} {id i : String} {head : Head α} {children : List (Formula α)}
  {path other : List String}

/-! Ids that are repeated. -/

/-- A node with the id stands above another one. -/
def Repeats (f : Formula α) (id : String) : Prop :=
  ∃ g ∈ f.nodes, g.id = id ∧ ∃ child ∈ g.children, ∃ h ∈ child.nodes, h.id = id

theorem repeats_node :
    (node id head children).Repeats i ↔
      (id = i ∧ ∃ child ∈ children, ∃ h ∈ child.nodes, h.id = i) ∨
        ∃ child ∈ children, child.Repeats i :=
  exists_nodes_node

theorem idPaths_ne_nil (f : Formula α) : f.idPaths ≠ [] := by
  induction f with
  | node id head children ih =>
    rw [idPaths_node]
    split
    · exact List.cons_ne_nil _ _
    next inner =>
      obtain ⟨child, rest, rfl⟩ := List.exists_cons_of_ne_nil (mt List.isEmpty_iff.mpr inner)
      simp [ih child List.mem_cons_self]

/-- Every node lies on a path. -/
theorem exists_idPath_iff : (∃ path ∈ f.idPaths, i ∈ path) ↔ ∃ g ∈ f.nodes, g.id = i := by
  constructor
  · rintro ⟨path, along, member⟩
    exact exists_node_of_mem_idPaths along i member
  · induction f with
    | node id head children ih =>
      rw [exists_nodes_node, idPaths_node]
      rintro (here | ⟨child, member, below⟩)
      · obtain rfl : id = i := here
        split
        · exact ⟨[id], List.mem_cons_self, List.mem_cons_self⟩
        next inner =>
          obtain ⟨child, rest, rfl⟩ := List.exists_cons_of_ne_nil (mt List.isEmpty_iff.mpr inner)
          obtain ⟨path, along⟩ := List.exists_mem_of_ne_nil _ child.idPaths_ne_nil
          exact ⟨id :: path, List.mem_map_of_mem (List.mem_flatMap.mpr ⟨child, List.mem_cons_self, along⟩),
            List.mem_cons_self⟩
      · obtain ⟨path, along, onward⟩ := ih child member below
        rw [if_neg (by simp [List.ne_nil_of_mem member])]
        exact ⟨id :: path, List.mem_map_of_mem (List.mem_flatMap.mpr ⟨child, member, along⟩),
          List.mem_cons_of_mem id onward⟩

/-- An id stands above itself exactly where a path meets it twice. -/
theorem repeats_iff_duplicate : f.Repeats i ↔ ∃ path ∈ f.idPaths, List.Duplicate i path := by
  induction f with
  | node id head children ih =>
    have onward : (∃ path ∈ (node id head children).idPaths, List.Duplicate i path) ↔
        ∃ child ∈ children, ∃ path ∈ child.idPaths, List.Duplicate i (id :: path) := by
      rw [idPaths_node]
      split
      next leaf =>
        obtain rfl := List.isEmpty_iff.mp leaf
        simp
      · constructor
        · rintro ⟨_, along, twice⟩
          obtain ⟨path, below, rfl⟩ := List.mem_map.mp along
          obtain ⟨child, member, through⟩ := List.mem_flatMap.mp below
          exact ⟨child, member, path, through, twice⟩
        · rintro ⟨child, member, path, through, twice⟩
          have below : path ∈ children.flatMap idPaths := List.mem_flatMap.mpr ⟨child, member, through⟩
          exact ⟨id :: path, List.mem_map_of_mem below, twice⟩
    rw [onward, repeats_node]
    -- A path from `id` meets `i` twice if `id` is `i` and stands in the rest, or if the rest does.
    simp only [List.duplicate_cons_iff, and_or_left, exists_or]
    refine or_congr ?_ (exists_congr fun child => and_congr_right fun member => ih child member)
    rw [← exists_and_left]
    refine exists_congr fun child => ?_
    rw [← exists_idPath_iff]
    aesop

/-! Cycles. -/

section Cycles

variable [Scalar α]

theorem mem_faults_node {issue : Issue α} :
    issue ∈ (node id head children).faults path ↔
      if id ∈ path then issue = .cycle id
      else issue ∈ (node id head children).nodeFaults ∨
        ∃ child ∈ children, issue ∈ child.faults (id :: path) := by
  rw [faults, faultsAll_eq]
  by_cases seen : id ∈ path
  · rw [if_pos (List.contains_iff_mem.mpr seen), if_pos seen, List.mem_singleton]
  · rw [if_neg (mt List.contains_iff_mem.mp seen), if_neg seen, List.mem_append, List.mem_flatMap]

/-- Only an id that stands above itself is reported, or one that stands above the whole. -/
theorem repeats_of_cycle_mem_faults (reported : .cycle i ∈ f.faults path) :
    (i ∈ path ∧ ∃ g ∈ f.nodes, g.id = i) ∨ f.Repeats i := by
  induction f generalizing path with
  | node id head children ih =>
    rw [mem_faults_node] at reported
    rw [repeats_node, exists_nodes_node]
    split at reported
    next seen =>
      obtain rfl : i = id := Issue.cycle.inj reported
      exact .inl ⟨seen, .inl rfl⟩
    next unseen =>
      rcases reported with own | ⟨child, member, below⟩
      · exact absurd own (cycle_not_mem_nodeFaults _ i)
      · rcases ih child member below with ⟨above, within⟩ | repeated
        · rcases List.mem_cons.mp above with rfl | earlier
          · exact .inr (.inl ⟨rfl, child, member, within⟩)
          · exact .inl ⟨earlier, .inr ⟨child, member, within⟩⟩
        · exact .inr (.inr ⟨child, member, repeated⟩)

/-- The scan goes on to the first repetition on each path, so none is without a report. -/
theorem exists_cycle_mem_faults
    (repeated : (∃ g ∈ f.nodes, g.id ∈ path) ∨ ∃ i, f.Repeats i) : ∃ i, .cycle i ∈ f.faults path := by
  induction f generalizing path with
  | node id head children ih =>
    simp only [mem_faults_node]
    by_cases seen : id ∈ path
    · exact ⟨id, by rw [if_pos seen]⟩
    · have later : ∃ child ∈ children,
          (∃ g ∈ child.nodes, g.id ∈ id :: path) ∨ ∃ i, child.Repeats i := by
        rcases repeated with within | ⟨i, repeated⟩
        · rcases exists_nodes_node.mp within with here | ⟨child, member, g, part, above⟩
          · exact absurd here seen
          · exact ⟨child, member, .inl ⟨g, part, List.mem_cons_of_mem id above⟩⟩
        · rcases repeats_node.mp repeated with ⟨rfl, child, member, g, part, same⟩ |
            ⟨child, member, below⟩
          · exact ⟨child, member, .inl ⟨g, part, same ▸ List.mem_cons_self⟩⟩
          · exact ⟨child, member, .inr ⟨i, below⟩⟩
      obtain ⟨child, member, repeatedBelow⟩ := later
      obtain ⟨i, reported⟩ := ih child member repeatedBelow
      exact ⟨i, by rw [if_neg seen]; exact .inr ⟨child, member, reported⟩⟩

/-! The scan without cycles. -/

/-- Of the ids above a formula only those that occur in it matter. -/
theorem faults_congr (agree : ∀ g ∈ f.nodes, g.id ∈ path ↔ g.id ∈ other) :
    f.faults path = f.faults other := by
  induction f generalizing path other with
  | node id head children ih =>
    obtain ⟨root, below⟩ := forall_nodes_node.mp agree
    change id ∈ path ↔ id ∈ other at root
    have same : path.contains id = other.contains id := by
      rw [Bool.eq_iff_iff, List.contains_iff_mem, List.contains_iff_mem, root]
    have children : children.flatMap (faults (id :: path)) = children.flatMap (faults (id :: other)) := by
      refine List.flatMap_congr fun child member => ih child member fun g part => ?_
      rw [List.mem_cons, List.mem_cons, below child member g part]
    rw [faults, faults, same, faultsAll_eq, faultsAll_eq, children]

/-- Below an id that does not return, children are scanned by themselves, each time they occur. -/
theorem faults_node_of_new (unseen : id ∉ path)
    (new : ∀ child ∈ children, ∀ g ∈ child.nodes, g.id ≠ id) :
    (node id head children).faults path =
      (node id head children).nodeFaults ++ children.flatMap (faults path) := by
  rw [faults, if_neg (mt List.contains_iff_mem.mp unseen), faultsAll_eq]
  congr 1
  refine List.flatMap_congr fun child member => faults_congr fun g part => ?_
  simp [new child member g part]

/-- Where no id is repeated, every node is visited in preorder. -/
theorem faults_of_not_repeats (once : ∀ i, ¬f.Repeats i) : f.faults [] = f.nodes.flatMap nodeFaults := by
  induction f with
  | node id head children ih =>
    have new : ∀ child ∈ children, ∀ g ∈ child.nodes, g.id ≠ id := fun child member g part same =>
      once id (repeats_node.mpr (.inl ⟨rfl, child, member, g, part, same⟩))
    have below : ∀ child ∈ children, ∀ i, ¬child.Repeats i := fun child member i repeated =>
      once i (repeats_node.mpr (.inr ⟨child, member, repeated⟩))
    rw [faults_node_of_new List.not_mem_nil new, nodes_node, List.flatMap_cons, List.flatMap_assoc]
    congr 1
    exact List.flatMap_congr fun child member => ih child member (below child member)

theorem issues_ordered (once : ∀ path ∈ f.idPaths, path.Nodup) :
    f.issues = f.nodes.flatMap nodeFaults ++ (f.signImbalance?.map .signImbalance).toList := by
  rw [issues, faults_of_not_repeats]
  intro i repeated
  obtain ⟨path, along, twice⟩ := repeats_iff_duplicate.mp repeated
  exact List.nodup_iff_forall_not_duplicate.mp (once path along) i twice

/-- The imbalance of signs, which comes last, is no cycle. -/
theorem cycle_mem_issues : .cycle i ∈ f.issues ↔ .cycle i ∈ f.faults [] := by
  rw [issues, List.mem_append, or_iff_left]
  intro imbalance
  obtain ⟨ratio, -, other⟩ := List.mem_map.mp (Option.toList_map ▸ imbalance)
  cases other

end Cycles

/-! Faults of a node by itself. -/

section Faults

variable {f : Formula Float}

/-- The operator divides by a constant that is zero, of either sign. -/
def HasZeroDivisor (f : Formula Float) : Prop :=
  f.kind = .operator ∧ f.symbol = some "/" ∧
    ∃ (divisor : Formula Float) (v : Float), f.children[1]? = some divisor ∧
      divisor.kind = .constant ∧ divisor.value = some v ∧ (v = 0 ∨ v = -0)

/-- The constant has no value, or one that is not finite. -/
def LacksFiniteValue (f : Formula Float) : Prop :=
  f.kind = .constant ∧ ∀ v, f.value = some v → v.isFinite = false

/-- What a node is listed for. -/
inductive Listed (f : Formula Float) : List (Issue Float) → Prop where
  | division : f.HasZeroDivisor → Listed f [.divisionByZero f.id]
  | constant : f.LacksFiniteValue → Listed f [.nonFiniteConstant f.id]
  | sound : ¬f.HasZeroDivisor → ¬f.LacksFiniteValue → Listed f []

theorem distance_zero_iff {v : Float} : Scalar.abs (v - 0) ≤ 0 ↔ v = 0 ∨ v = -0 := by
  constructor
  · intro near
    exact Binary64.eq_zero_of_place_eq_zero
      (Binary64.beq_zero_iff.mp (Scalar.ZeroDistance.beq_zero v near)).2
  · rintro (rfl | rfl)
    · decide +kernel
    · decide +kernel

theorem isConstantNear_zero_iff :
    f.isConstantNear 0 0 = true ↔ f.kind = .constant ∧ ∃ v, f.value = some v ∧ (v = 0 ∨ v = -0) := by
  rw [isConstantNear, Bool.and_eq_true, beq_iff_eq]
  cases f.value with
  | none => simp
  | some v => simp [distance_zero_iff]

theorem dividesByZero_iff : f.dividesByZero = true ↔ f.HasZeroDivisor := by
  rw [dividesByZero, Bool.and_eq_true, isOperator_iff, HasZeroDivisor, and_assoc]
  rcases f.children with _ | ⟨_, _ | ⟨divisor, _⟩⟩
  · simp
  · simp
  · simp [isConstantNear_zero_iff]

theorem isNonFiniteConstant_iff : f.isNonFiniteConstant = true ↔ f.LacksFiniteValue := by
  rw [isNonFiniteConstant, Bool.and_eq_true, beq_iff_eq, LacksFiniteValue]
  cases f.value with
  | none => simp
  | some v => simp [Scalar.isFinite]

/-- A node is listed for one fault at most, since it is not both an operator and a constant. -/
theorem nodeFaults_listed (f : Formula Float) : f.Listed f.nodeFaults := by
  unfold nodeFaults
  by_cases division : f.dividesByZero = true
  · have zero := dividesByZero_iff.mp division
    have plain : ¬f.isNonFiniteConstant = true := fun constant =>
      Kind.noConfusion (zero.1.symm.trans (isNonFiniteConstant_iff.mp constant).1)
    rw [if_pos division, if_neg plain]
    exact .division zero
  · rw [if_neg division]
    by_cases constant : f.isNonFiniteConstant = true
    · rw [if_pos constant]
      exact .constant (isNonFiniteConstant_iff.mp constant)
    · rw [if_neg constant]
      exact .sound (mt dividesByZero_iff.mpr division) (mt isNonFiniteConstant_iff.mpr constant)

/-! The score. -/

theorem cutAtZero_quarters_eq_one {n : Nat} :
    Scalar.cutAtZero (1 - 0.25 * Scalar.ofNat n : Float) = 1 ↔ n = 0 := by
  have few : ∀ n < 4, Scalar.cutAtZero (1 - 0.25 * Scalar.ofNat n : Float) = 1 ↔ n = 0 := by
    decide +kernel
  obtain less | many := Nat.lt_or_ge n 4
  · exact few n less
  · rw [cutAtZero_quarters many]
    exact iff_of_false (by decide +kernel) (by omega)

theorem cutAtZero_quarters_eq_zero {n : Nat} :
    Scalar.cutAtZero (1 - 0.25 * Scalar.ofNat n : Float) = 0 ↔ 4 ≤ n := by
  have few : ∀ n < 4, Scalar.cutAtZero (1 - 0.25 * Scalar.ofNat n : Float) ≠ 0 := by decide +kernel
  refine ⟨fun nothing => ?_, cutAtZero_quarters⟩
  by_contra less
  exact few n (Nat.lt_of_not_le less) nothing

/-- What the structural report tells of a formula. -/
structure Scanned (f : Formula Float) : Prop where
  cycles : (∃ id, .cycle id ∈ f.structureReport.issues) ↔
    ∃ g ∈ f.nodes, ∃ child ∈ g.children, ∃ h ∈ child.nodes, h.id = g.id
  repeated : ∀ id, .cycle id ∈ f.structureReport.issues →
    ∃ path ∈ f.idPaths, List.Duplicate id path
  /-- Where no path repeats an id, one list for each node in preorder, and the imbalance of signs. -/
  ordered : (∀ path ∈ f.idPaths, path.Nodup) → ∃ (lists : List (List (Issue Float)))
    (ratio : Option Float), List.Forall₂ Listed f.nodes lists ∧
      f.structureReport.issues = lists.flatten ++ (ratio.map .signImbalance).toList
  /-- A part is scanned as often as it occurs, without regard to those beside it. -/
  shared : ∀ path, f.id ∉ path → (∀ child ∈ f.children, ∀ g ∈ child.nodes, g.id ≠ f.id) →
    f.faults path = f.nodeFaults ++ f.children.flatMap (faults path)
  full : f.structureReport.score = 1 ↔ f.structureReport.issues = []
  nothing : f.structureReport.score = 0 ↔ 4 ≤ f.structureReport.issues.length

/-- The structural scan finds the faults that exist and no others, in formulas of any shape and with any
ids. -/
theorem scan_exact (f : Formula Float) : f.Scanned where
  cycles := by
    constructor
    · rintro ⟨id, reported⟩
      rcases repeats_of_cycle_mem_faults (cycle_mem_issues.mp reported) with ⟨above, -⟩ | repeated
      · exact absurd above List.not_mem_nil
      · obtain ⟨g, part, rfl, below⟩ := repeated
        exact ⟨g, part, below⟩
    · rintro ⟨g, part, below⟩
      obtain ⟨id, reported⟩ := exists_cycle_mem_faults (.inr ⟨g.id, g, part, rfl, below⟩)
      exact ⟨id, cycle_mem_issues.mpr reported⟩
  repeated := by
    intro id reported
    rcases repeats_of_cycle_mem_faults (cycle_mem_issues.mp reported) with ⟨above, -⟩ | repeated
    · exact absurd above List.not_mem_nil
    · exact repeats_iff_duplicate.mp repeated
  ordered once := by
    refine ⟨f.nodes.map nodeFaults, f.signImbalance?, ?_, ?_⟩
    · rw [List.forall₂_map_right_iff, List.forall₂_same]
      exact fun g _ => g.nodeFaults_listed
    · rw [← List.flatMap_def]
      exact issues_ordered once
  shared path unseen new := by
    cases f with
    | node id head children => exact faults_node_of_new unseen new
  full := cutAtZero_quarters_eq_one.trans List.length_eq_zero_iff
  nothing := cutAtZero_quarters_eq_zero

/-- One by minus zero, which is found twice in a sum with itself; in a sine under the same id it makes a
cycle. -/
theorem scan_exact_quotient :
    let quotient : Formula Float := node "quotient" ⟨.operator, none, some "/", none⟩
      [node "one" ⟨.constant, some 1, none, none⟩ [],
        node "zero" ⟨.constant, some (-0), none, none⟩ []]
    let sum := node "sum" ⟨.operator, none, some "+", none⟩ [quotient, quotient]
    let sine := node "quotient" ⟨.function, none, some "sin", none⟩ [quotient]
    ((∀ path ∈ sum.idPaths, path.Nodup) ∧ ∃ (lists : List (List (Issue Float)))
      (ratio : Option Float), List.Forall₂ Listed sum.nodes lists ∧
        sum.structureReport.issues = lists.flatten ++ (ratio.map .signImbalance).toList) ∧
    sum.faults ["root"] = quotient.faults ["root"] ++ quotient.faults ["root"] ∧
    (sum.structureReport.issues.length = 2 ∧ sum.structureReport.score ≠ 1 ∧
      sum.structureReport.score ≠ 0) ∧
    ∃ id, .cycle id ∈ sine.structureReport.issues := by
  intro quotient sum sine
  have once : ∀ path ∈ sum.idPaths, path.Nodup := by decide
  have two : sum.structureReport.issues.length = 2 := by decide +kernel
  have new : ∀ child ∈ sum.children, ∀ g ∈ child.nodes, g.id ≠ sum.id := by decide
  have apart : sum.faults ["root"] = quotient.faults ["root"] ++ (quotient.faults ["root"] ++ []) :=
    (scan_exact sum).shared ["root"] (by decide) new
  rw [List.append_nil] at apart
  have notFull : sum.structureReport.score ≠ 1 := fun full => by
    rw [(scan_exact sum).full.mp full] at two
    contradiction
  have notNothing : sum.structureReport.score ≠ 0 := fun nothing =>
    absurd (two ▸ (scan_exact sum).nothing.mp nothing) (by decide)
  have cycle := (scan_exact sine).cycles.mpr
    ⟨sine, sine.mem_nodes_self, quotient, List.mem_cons_self, quotient, quotient.mem_nodes_self, rfl⟩
  exact ⟨⟨once, (scan_exact sum).ordered once⟩, apart, ⟨two, notFull, notNothing⟩, cycle⟩

end Faults

end FormulaLab.Formula
