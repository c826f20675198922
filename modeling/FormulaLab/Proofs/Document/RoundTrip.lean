import FormulaLab.Document.Formula
import FormulaLab.Proofs.Formula.Nodes
import FormulaLab.Proofs.Scalar.Equality

/-! Documents of formulas read back. The writer leaves out what a node does not have and the reader takes
what is left out as absent, so that a formula of any shape comes back as it was. Only a number that is not
finite has no form in a document, and a formula with such a number comes back as another one or not at
all. -/

namespace FormulaLab

/-- The numbers that a node carries by itself are finite. -/
structure Head.Finite (head : Head Float) : Prop where
  value : ∀ v ∈ head.value, v.isFinite
  companions : ∀ pair ∈ head.companions, pair.positive.isFinite ∧ pair.negative.isFinite

namespace Json

@[simp] theorem float?_ofFloat (x : Float) :
    (ofFloat x).float? = if x.isFinite then some x else none := by
  unfold ofFloat
  split <;> rfl

theorem depth_le_of_mem_items {item : Json} {items : List Json} (member : item ∈ items) :
    item.depth ≤ depthOfItems items := by
  induction items with
  | nil => contradiction
  | cons first rest ih =>
    rw [depthOfItems]
    rcases List.mem_cons.mp member with rfl | later
    · exact Nat.le_max_left _ _
    · exact Nat.le_trans (ih later) (Nat.le_max_right _ _)

theorem depth_le_of_mem_members {name : String} {json : Json} {members : Members}
    (member : (name, json) ∈ members) : json.depth ≤ depthOfMembers members := by
  induction members with
  | nil => contradiction
  | cons first rest ih =>
    obtain ⟨other, value⟩ := first
    rw [depthOfMembers]
    rcases List.mem_cons.mp member with same | later
    · cases same
      exact Nat.le_max_left _ _
    · exact Nat.le_trans (ih later) (Nat.le_max_right _ _)

end Json

namespace Companions

theorem ofJson?_toJson (pair : Companions Float) :
    ofJson? pair.toJson =
      if pair.positive.isFinite ∧ pair.negative.isFinite then some pair else none := by
  by_cases positive : pair.positive.isFinite <;> by_cases negative : pair.negative.isFinite <;>
    simp [ofJson?, toJson, List.lookup, positive, negative]

theorem toJson_ne_null (pair : Companions Float) : pair.toJson ≠ .null := nofun

end Companions

theorem Kind.ofJson?_name (kind : Kind) : Kind.ofJson? (.str kind.name) = some kind := by
  cases kind <;> rfl

namespace Formula

variable {f : Formula Float} {budget : Nat}

def AllFinite (f : Formula Float) : Prop := ∀ g ∈ f.nodes, g.head.Finite

theorem allFinite_node {id : String} {head : Head Float} {children : List (Formula Float)} :
    (node id head children).AllFinite ↔ head.Finite ∧ ∀ child ∈ children, child.AllFinite :=
  forall_nodes_node

theorem toJson_node (id : String) (head : Head Float) (children : List (Formula Float)) :
    toJson (node id head children) =
      .obj (nodeMembers (node id head children) (children.map toJson)) := fold_node ..

/-! Single fields. -/

theorem optional?_value (value : Option Float) :
    optional? Json.float? (value.map Json.ofFloat) = some (value.filter Float.isFinite) := by
  cases value with
  | none => rfl
  | some v =>
    rw [Option.map_some, Json.ofFloat, Option.filter_some]
    split <;> rfl

theorem optional?_text (text : Option String) :
    optional? Json.text? (text.map Json.str) = some text := by
  cases text <;> rfl

theorem optional?_companions (companions : Option (Companions Float)) :
    optional? Companions.ofJson? (companions.map Companions.toJson) =
      if ∀ pair ∈ companions, pair.positive.isFinite ∧ pair.negative.isFinite then some companions
      else none := by
  cases companions with
  | none => simp [optional?]
  | some pair => simp [optional?, Companions.toJson_ne_null, Companions.ofJson?_toJson]

/-- A field of a node is found under its name, and is absent where the node has nothing for it. -/
theorem nodeFields?_nodeMembers (id : String) (head : Head Float) (below : List (Formula Float))
    (children : List Json) : nodeFields? (.obj (nodeMembers (node id head below) children)) =
      some [some (.str id), some (.str head.kind.name), head.value.map .ofFloat, head.symbol.map .str,
        if children.isEmpty then none else some (.arr children),
        head.companions.map Companions.toJson] := by
  obtain ⟨kind, value, symbol, companions⟩ := head
  cases value <;> cases symbol <;> cases companions <;> cases children <;>
    simp [nodeFields?, nodeMembers, Formula.id, Formula.kind, Formula.value, Formula.symbol,
      Formula.companions, Formula.head, List.lookup]

/-- What a node reads back as. Its value is lost where it is not finite, and it is refused where one of
its companions is not. -/
theorem readWithin?_toJson (budget : Nat) (id : String) (head : Head Float)
    (children : List (Formula Float)) :
    readWithin? (budget + 1) (toJson (node id head children)) =
      if ∀ pair ∈ head.companions, pair.positive.isFinite ∧ pair.negative.isFinite then
        ((children.map toJson).mapM (readWithin? budget)).map
          (node id { head with value := head.value.filter Float.isFinite })
      else none := by
  rw [toJson_node, readWithin?]
  simp only [nodeFields?_nodeMembers, bind, Option.bind_some, optional?_value, optional?_text,
    optional?_companions, Kind.ofJson?_name, Json.text?]
  by_cases finite : ∀ pair ∈ head.companions, pair.positive.isFinite ∧ pair.negative.isFinite
  · rw [if_pos finite, if_pos finite, Option.bind_some, Option.map_eq_bind]
    cases children <;> rfl
  · rw [if_neg finite, if_neg finite, Option.bind_none]

theorem mapM_map_eq_some_iff {β γ : Type} {write : β → γ} {read : γ → Option β} {xs : List β} :
    (xs.map write).mapM read = some xs ↔ ∀ x ∈ xs, read (write x) = some x := by
  induction xs with
  | nil => simp
  | cons x rest ih =>
    simp only [List.map_cons, List.mapM_cons, bind, Option.bind_eq_some_iff, pure, Option.some.injEq,
      List.cons.injEq, List.forall_mem_cons, ← ih]
    constructor
    · rintro ⟨y, first, ys, others, rfl, rfl⟩
      exact ⟨first, others⟩
    · rintro ⟨first, others⟩
      exact ⟨x, first, rest, others, rfl, rfl⟩

/-- The documents of the children are nested less deeply than that of the node. -/
theorem depth_toJson_child (id : String) (head : Head Float) {children : List (Formula Float)}
    {child : Formula Float} (member : child ∈ children) :
    child.toJson.depth < (toJson (node id head children)).depth := by
  have items : child.toJson ∈ children.map toJson := List.mem_map_of_mem member
  have some : (children.map toJson).isEmpty = false := by
    rw [List.isEmpty_eq_false_iff]
    exact List.ne_nil_of_mem items
  have listed : ("children", Json.arr (children.map toJson)) ∈
      nodeMembers (node id head children) (children.map toJson) := by
    simp [nodeMembers, some]
  have below := Json.depth_le_of_mem_members listed
  have inside := Json.depth_le_of_mem_items items
  rw [toJson_node, Json.depth]
  rw [Json.depth] at below
  omega

theorem readWithin?_toJson_iff (enough : f.toJson.depth < budget) :
    readWithin? budget f.toJson = some f ↔ f.AllFinite := by
  induction f generalizing budget with
  | node id head children ih =>
    obtain ⟨budget, rfl⟩ := Nat.exists_eq_add_one_of_ne_zero (Nat.ne_zero_of_lt enough)
    have below : (children.map toJson).mapM (readWithin? budget) = some children ↔
        ∀ child ∈ children, child.AllFinite := by
      rw [mapM_map_eq_some_iff]
      refine forall₂_congr fun child member => ih child member ?_
      have shallower := depth_toJson_child id head member
      omega
    rw [readWithin?_toJson, allFinite_node, ← below]
    constructor
    · intro read
      split at read
      next finite =>
        obtain ⟨others, items, same⟩ := Option.map_eq_some_iff.mp read
        rw [node.injEq, Head.mk.injEq] at same
        obtain ⟨-, ⟨-, value, -⟩, rfl⟩ := same
        refine ⟨⟨fun v given => ?_, finite⟩, items⟩
        rw [given] at value
        exact (Option.filter_eq_some_iff.mp value).2
      · contradiction
    · rintro ⟨⟨value, companions⟩, items⟩
      have kept : head.value.filter Float.isFinite = head.value := by
        cases given : head.value with
        | none => rfl
        | some v => rw [Option.filter_some, if_pos (value v given)]
      rw [if_pos companions, items, kept]
      rfl

/-! Equality of numbers is that of finite ones. -/

theorem beqAll_self {fs : List (Formula Float)} (each : ∀ f ∈ fs, f.beq f = true) :
    beqAll fs fs = true := by
  induction fs with
  | nil => rfl
  | cons f rest ih =>
    rw [List.forall_mem_cons] at each
    rw [beqAll, each.1, ih each.2]
    rfl

theorem beq_self_of_finite {x : Float} (finite : x.isFinite) : (x == x) = true :=
  let number := Binary64.isNumber_of_isFinite finite
  Binary64.beq_iff.mpr ⟨number, number, rfl⟩

theorem AllFinite.beq_self (finite : f.AllFinite) : (f == f) = true := by
  change f.beq f = true
  induction f with
  | node id head children ih =>
    obtain ⟨⟨value, companions⟩, below⟩ := allFinite_node.mp finite
    obtain ⟨kind, number, symbol, pair⟩ := head
    have numbers : (number == number) = true := by
      cases number with
      | none => rfl
      | some x => exact beq_self_of_finite (value x rfl)
    rw [beq, beqAll_self fun child member => ih child member (below child member)]
    cases pair with
    | none => simp [numbers]
    | some pair =>
      obtain ⟨positive, negative⟩ := companions pair rfl
      simp [numbers, beq_self_of_finite positive, beq_self_of_finite negative]

/-- The document of a formula is lossless exactly where all numbers in the formula are finite. Of any
shape, with any ids and symbols and whatever its nodes lack, the formula is read back as it was, and it
is equal to itself number by number. -/
theorem ofJson?_toJson_iff (f : Formula Float) :
    ofJson? f.toJson = some f ∧ (f == f) = true ↔ f.AllFinite := by
  rw [ofJson?, readWithin?_toJson_iff (Nat.lt_succ_self _)]
  constructor
  · rintro ⟨finite, -⟩
    exact finite
  · intro finite
    exact ⟨finite, finite.beq_self⟩

end Formula
end FormulaLab
