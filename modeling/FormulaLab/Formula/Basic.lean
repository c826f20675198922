import FormulaLab.Scalar.Basic

/-! Formula trees. A node has an id, a head that says what it is, and children in order. The
constructors fix the arity of each kind and draw a new id; trees read from documents may have any
shape. Nodes are never changed: rebuilding makes a new node with the old head. -/

namespace FormulaLab

/-- What a node stands for. -/
inductive Kind where
  | constant
  | var
  | operator
  | function
  | dual
  deriving DecidableEq, Repr

namespace Kind

def name : Kind → String
  | constant => "constant"
  | var => "variable"
  | operator => "operator"
  | function => "function"
  | dual => "dual"

def ofName? : String → Option Kind
  | "constant" => some constant
  | "variable" => some var
  | "operator" => some operator
  | "function" => some function
  | "dual" => some dual
  | _ => none

end Kind

/-- Values carried beside the two formulas of a dual node. -/
structure Companions (α : Type) where
  positive : α
  negative : α

/-- The pair `(+|v|, -|v|)`. -/
def Companions.symmetric {α : Type} [Scalar α] (v : α) : Companions α :=
  ⟨Scalar.abs v, -Scalar.abs v⟩

/-- All that a node says apart from its id and its children. -/
structure Head (α : Type) where
  kind : Kind
  value : Option α
  symbol : Option String
  companions : Option (Companions α)

inductive Formula (α : Type) where
  | node (id : String) (head : Head α) (children : List (Formula α))

/-- A computation that draws node ids from a counter. -/
abbrev Fresh := StateM Nat

/-- The id with number `n`: thirty-two hexadecimal digits in the grouping of a time-ordered unique
id, the last group counting up. Distinct numbers have distinct ids. -/
def nodeId (n : Nat) : String :=
  let digits := Nat.toDigits 16 n
  "00000000-0000-7000-8000-" ++ String.ofList (List.replicate (12 - digits.length) '0' ++ digits)

namespace Formula

variable {α β : Type}

def id : Formula α → String
  | node id _ _ => id

def head : Formula α → Head α
  | node _ head _ => head

def children : Formula α → List (Formula α)
  | node _ _ children => children

def kind (f : Formula α) : Kind := f.head.kind

def value (f : Formula α) : Option α := f.head.value

def symbol (f : Formula α) : Option String := f.head.symbol

def companions (f : Formula α) : Option (Companions α) := f.head.companions

/-! Constructors. -/

def build (head : Head α) (children : List (Formula α)) : Fresh (Formula α) :=
  fun n => (node (nodeId n) head children, n + 1)

def constant (v : α) : Fresh (Formula α) := build ⟨.constant, some v, none, none⟩ []

def labeledConstant (v : α) (label : String) : Fresh (Formula α) :=
  build ⟨.constant, some v, some label, none⟩ []

def var (name : String) : Fresh (Formula α) := build ⟨.var, none, some name, none⟩ []

def unary (op : String) (operand : Formula α) : Fresh (Formula α) :=
  build ⟨.operator, none, some op, none⟩ [operand]

def binary (op : String) (left right : Formula α) : Fresh (Formula α) :=
  build ⟨.operator, none, some op, none⟩ [left, right]

def function (name : String) (argument : Formula α) : Fresh (Formula α) :=
  build ⟨.function, none, some name, none⟩ [argument]

def dual (positive negative : Formula α) (companions : Companions α) : Fresh (Formula α) :=
  build ⟨.dual, none, some "dual", some companions⟩ [positive, negative]

def withId (f : Formula α) (id : String) : Formula α := node id f.head f.children

/-- A new node with the same head over other children. -/
def rebuild (f : Formula α) (children : List (Formula α)) : Fresh (Formula α) :=
  build f.head children

/-! Recursion. -/

mutual

/-- Value of a tree from the values of its parts: `step` sees the node and the results of its
children in order. -/
def fold (step : Formula α → List β → β) : Formula α → β
  | node id head children => step (node id head children) (foldAll step children)

def foldAll (step : Formula α → List β → β) : List (Formula α) → List β
  | [] => []
  | child :: rest => child.fold step :: foldAll step rest

end

theorem foldAll_eq_map (step : Formula α → List β → β) (fs : List (Formula α)) :
    foldAll step fs = fs.map (fold step) := by
  induction fs with
  | nil => rfl
  | cons f fs ih => simp [foldAll, ih]

theorem fold_node (step : Formula α → List β → β) (id : String) (head : Head α)
    (children : List (Formula α)) :
    fold step (node id head children) = step (node id head children) (children.map (fold step)) := by
  rw [fold, foldAll_eq_map]

/-- A property holds of every formula if it passes from the children of a node to the node. -/
@[induction_eliminator]
theorem induction {motive : Formula α → Prop}
    (node : ∀ id head children, (∀ child ∈ children, motive child) →
      motive (node id head children)) (f : Formula α) : motive f :=
  f.rec (motive_1 := motive) (motive_2 := fun children => ∀ child ∈ children, motive child)
    (fun id head children ih => node id head children ih)
    (fun _ member => absurd member (List.not_mem_nil))
    (fun _ _ first rest child member => by
      cases member with
      | head => exact first
      | tail _ member => exact rest child member)

/-! Tests and counts. -/

def isLeaf (f : Formula α) : Bool := f.children.isEmpty

/-- Whether the node is an operator with the given symbol. -/
def isOperator (f : Formula α) (op : String) : Bool :=
  f.kind == .operator && f.symbol == some op

/-- Whether the node is a constant within `tolerance` of `target`. -/
def isConstantNear [Scalar α] (f : Formula α) (target tolerance : α) : Bool :=
  f.kind == .constant &&
    match f.value with
    | some v => decide (Scalar.abs (v - target) ≤ tolerance)
    | none => false

def nodeCount : Formula α → Nat := fold fun _ counts => counts.foldr (· + ·) 1

def constants : Formula α → List (Formula α) :=
  fold fun f below => (if f.kind = .constant then [f] else []) ++ below.flatten

def variableNames : Formula α → List String :=
  fold fun f below => (if f.kind = .var then f.symbol.toList else []) ++ below.flatten

mutual

/-- Equality of ids, heads and children, numbers compared as numbers. -/
def beq [Scalar α] : Formula α → Formula α → Bool
  | node id head children, node id' head' children' =>
    id == id' && head.kind == head'.kind && head.value == head'.value && head.symbol == head'.symbol
      && (match head.companions, head'.companions with
        | some c, some c' => c.positive == c'.positive && c.negative == c'.negative
        | none, none => true
        | _, _ => false)
      && beqAll children children'

def beqAll [Scalar α] : List (Formula α) → List (Formula α) → Bool
  | [], [] => true
  | f :: fs, g :: gs => f.beq g && beqAll fs gs
  | _, _ => false

end

instance [Scalar α] : BEq (Formula α) := ⟨beq⟩

end Formula
end FormulaLab
