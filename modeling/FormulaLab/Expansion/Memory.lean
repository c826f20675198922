import FormulaLab.Expansion.Basic

/-! Expansions with a memory. A computed expansion is kept under its origin and depth; origins that
are equal as numbers share an entry, and so do all origins that are not numbers. A request beyond the
greatest depth is refused before the memory is touched. -/

namespace FormulaLab

/-- The settings and the expansions computed so far, oldest first. -/
structure Expander (α : Type) where
  settings : NumericSettings α
  memory : List (Expansion α)

namespace Expander

variable {α : Type} [Scalar α]

def new (settings : NumericSettings α) : Expander α := ⟨settings, []⟩

/-- Whether two origins share a memory entry. -/
def sameOrigin (a b : α) : Bool := a == b || (Scalar.isNaN a && Scalar.isNaN b)

def remembered? (expander : Expander α) (origin : α) (depth : Nat) : Option (Expansion α) :=
  expander.memory.find? fun kept => sameOrigin kept.origin origin && kept.depth == depth

/-- Expansion of an origin, taken from the memory where it is known. -/
def extend (expander : Expander α) (origin : α) (depth : Nat) :
    Except RangeError (Expansion α) × Expander α :=
  if expander.settings.maxDepth < depth then
    (.error (.depthExceeded depth expander.settings.maxDepth), expander)
  else
    match expander.remembered? origin depth with
    | some known => (.ok known, expander)
    | none =>
      let fresh := Expansion.compute expander.settings.precision origin depth
      (.ok fresh, { expander with memory := expander.memory ++ [fresh] })

/-- `count` levels from `depth` on, each with the first term of the level below it as origin. -/
def climb : (count depth : Nat) → (origin : α) → Expander α →
    Except RangeError (List (Expansion α)) × Expander α
  | 0, _, _, expander => (.ok [], expander)
  | count + 1, depth, origin, expander =>
    match expander.extend origin depth with
    | (.error e, expander) => (.error e, expander)
    | (.ok level, expander) =>
      match climb count (depth + 1) (level.terms.headD 0) expander with
      | (.error e, expander) => (.error e, expander)
      | (.ok levels, expander) => (.ok (level :: levels), expander)

/-- Expansions at the depths from one to `depth`, each seeded by the one before. -/
def extendRecursive (expander : Expander α) (origin : α) (depth : Nat) :
    Except RangeError (List (Expansion α)) × Expander α :=
  if expander.settings.maxDepth < depth then
    (.error (.depthExceeded depth expander.settings.maxDepth), expander)
  else climb depth 1 origin expander

/-- Expansions of several origins at one depth, up to the first refusal. -/
def extendAll (depth : Nat) : List α → Expander α →
    Except RangeError (List (Expansion α)) × Expander α
  | [], expander => (.ok [], expander)
  | origin :: rest, expander =>
    match expander.extend origin depth with
    | (.error e, expander) => (.error e, expander)
    | (.ok first, expander) =>
      match extendAll depth rest expander with
      | (.error e, expander) => (.error e, expander)
      | (.ok others, expander) => (.ok (first :: others), expander)

def size (expander : Expander α) : Nat := expander.memory.length

def clear (expander : Expander α) : Expander α := { expander with memory := [] }

end Expander
end FormulaLab
