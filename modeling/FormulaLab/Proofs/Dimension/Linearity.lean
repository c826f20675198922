import FormulaLab.Dimension.Mapping
import FormulaLab.Proofs.Scalar.Exact

/-! Maps between dimensions are linear. Without rounding, every component of an image is a linear
function of the components, so a map that separates vectors cannot lower the dimension, and one that
reaches all vectors cannot raise it. -/

namespace FormulaLab.Dimension

variable {source target n : Nat}

/-- A linear function of the components of the vectors of one dimension. -/
def Linear (source : Nat) (f : List ℝ → ℝ) : Prop :=
  ∃ g : (Fin source → ℝ) →ₗ[ℝ] ℝ, ∀ x, f (List.ofFn x) = g x

namespace Linear

variable {f g : List ℝ → ℝ}

theorem congr (same : ∀ v, v.length = source → f v = g v) (linear : Linear source g) :
    Linear source f := by
  obtain ⟨map, equal⟩ := linear
  exact ⟨map, fun x => (same _ List.length_ofFn).trans (equal x)⟩

theorem zero : Linear source fun _ => 0 := ⟨0, fun _ => rfl⟩

theorem component (i : Nat) : Linear source fun v => v.getD i 0 := by
  by_cases inside : i < source
  · refine ⟨LinearMap.proj ⟨i, inside⟩, fun x => ?_⟩
    dsimp only
    rw [List.getD_eq_getElem _ _ (by rwa [List.length_ofFn]), List.getElem_ofFn]
    rfl
  · refine ⟨0, fun x => ?_⟩
    exact List.getD_eq_default _ _ (by rw [List.length_ofFn]; omega)

theorem mul_const (linear : Linear source f) (c : ℝ) : Linear source fun v => f v * c := by
  obtain ⟨map, equal⟩ := linear
  refine ⟨c • map, fun x => ?_⟩
  dsimp only
  rw [equal, LinearMap.smul_apply, smul_eq_mul, mul_comm]

theorem sum {f : Nat → List ℝ → ℝ} (linear : ∀ i, Linear source (f i)) (n : Nat) :
    Linear source fun v => ∑ i ∈ Finset.range n, f i v := by
  choose maps equal using linear
  refine ⟨∑ i ∈ Finset.range n, maps i, fun x => ?_⟩
  rw [LinearMap.sum_apply]
  exact Finset.sum_congr rfl fun i _ => equal i x

end Linear

/-- Every component of the image is a linear function. -/
def LinearMapping (source : Nat) (f : List ℝ → List ℝ) : Prop :=
  ∀ j, Linear source fun v => (f v).getD j 0

theorem exists_ofFn {v : List ℝ} (size : v.length = source) :
    ∃ x : Fin source → ℝ, List.ofFn x = v := by
  subst size
  exact ⟨v.get, List.ofFn_get v⟩

theorem eq_of_getD {v w : List ℝ} (size : v.length = w.length)
    (same : ∀ j < v.length, v.getD j 0 = w.getD j 0) : v = w := by
  refine List.ext_getElem size fun j inV inW => ?_
  have equal := same j inV
  rwa [List.getD_eq_getElem _ _ inV, List.getD_eq_getElem _ _ inW] at equal

namespace LinearMapping

variable {f : List ℝ → List ℝ}

/-- The mapping on functions in place of lists. -/
theorem exists_linearMap (linear : LinearMapping source f) (target : Nat) :
    ∃ g : (Fin source → ℝ) →ₗ[ℝ] Fin target → ℝ, ∀ x j, g x j = (f (List.ofFn x)).getD j 0 := by
  choose maps equal using linear
  exact ⟨LinearMap.pi fun j => maps j, fun x j => (equal j x).symm⟩

theorem le_of_injOn (linear : LinearMapping source f)
    (sized : ∀ v, v.length = source → (f v).length = target)
    (injective : Set.InjOn f {v | v.length = source}) : source ≤ target := by
  obtain ⟨g, equal⟩ := linear.exists_linearMap target
  have separates : Function.Injective g := by
    intro x y same
    apply List.ofFn_injective
    refine injective List.length_ofFn List.length_ofFn ?_
    have sizeX := sized _ (List.length_ofFn (f := x))
    have sizeY := sized _ (List.length_ofFn (f := y))
    refine eq_of_getD (sizeX.trans sizeY.symm) fun j inside => ?_
    have component := congrFun same ⟨j, sizeX ▸ inside⟩
    rwa [equal, equal] at component
  have rank := LinearMap.finrank_le_finrank_of_injective separates
  rwa [Module.finrank_fin_fun, Module.finrank_fin_fun] at rank

theorem le_of_surjOn (linear : LinearMapping source f)
    (surjective : Set.SurjOn f {v | v.length = source} {w | w.length = target}) :
    target ≤ source := by
  obtain ⟨g, equal⟩ := linear.exists_linearMap target
  have reaches : Function.Surjective g := by
    intro y
    obtain ⟨v, size, image⟩ := surjective (List.length_ofFn (f := y))
    obtain ⟨x, rfl⟩ := exists_ofFn size
    refine ⟨x, funext fun j => ?_⟩
    rw [equal, image, List.getD_eq_getElem _ _ (by rw [List.length_ofFn]; exact j.isLt),
      List.getElem_ofFn]
  have rank := LinearMap.finrank_le_finrank_of_surjective reaches
  rwa [Module.finrank_fin_fun, Module.finrank_fin_fun] at rank

theorem congr {g : List ℝ → List ℝ} (linear : LinearMapping source g)
    (same : ∀ v, v.length = source → f v = g v) : LinearMapping source f :=
  fun j => (linear j).congr fun v size => by rw [same v size]

theorem of_components (target : Nat) {g : Nat → List ℝ → ℝ}
    (components : ∀ v, v.length = source → f v = (List.range target).map fun j => g j v)
    (linear : ∀ j, Linear source (g j)) : LinearMapping source f := by
  intro j
  by_cases inside : j < target
  · refine (linear j).congr fun v size => ?_
    rw [components v size, List.getD_eq_getElem _ _ (by simpa using inside), List.getElem_map,
      List.getElem_range]
  · refine Linear.zero.congr fun v size => ?_
    rw [components v size]
    exact List.getD_eq_default _ _ (by simpa using inside)

theorem of_zeros (target : Nat) (zeros : ∀ v, v.length = source → f v = List.replicate target 0) :
    LinearMapping source f := by
  refine of_components target (fun v size => ?_) fun _ => Linear.zero
  rw [zeros v size, List.map_const', List.length_range]

end LinearMapping

/-! The maps of both families. -/

theorem literal_zero : (@OfNat.ofNat ℝ 0 (Scalar.literal 0)) = 0 := Nat.cast_zero

theorem resample_linear (source target : Nat) : LinearMapping source (resample · target) := by
  obtain rfl | some := Nat.eq_zero_or_pos source
  · refine .of_zeros target fun v size => ?_
    rw [resample, if_pos (List.eq_nil_of_length_eq_zero size), literal_zero]
  · refine .of_components target (fun v size => ?_) fun j =>
      Linear.component (j * source / target)
    rw [resample, if_neg (List.ne_nil_of_length_pos (size ▸ some)), size, literal_zero]

theorem sum_take_drop (v : List ℝ) (start n : Nat) :
    ((v.drop start).take n).sum = ∑ i ∈ Finset.range n, v.getD (start + i) 0 := by
  induction n with
  | zero => rfl
  | succ n ih =>
    rw [List.take_add_one, List.sum_append, ih, Finset.sum_range_succ, List.getElem?_drop,
      List.getD_eq_getElem?_getD]
    cases v[start + n]? <;> simp

theorem blockMeans_linear (source target : Nat) : LinearMapping source (blockMeans · target) := by
  let start := blockStart (α := ℝ) source target
  let length k := blockEnd ℝ source target k - start k
  refine .of_components target (fun v size => ?_) fun k =>
    (Linear.sum (fun i => Linear.component (start k + i)) (length k)).mul_const
      ((min (length k) (source - start k) : Nat) : ℝ)⁻¹
  refine List.map_congr_left fun k _ => ?_
  dsimp only
  rw [Scalar.sum_real, block, sum_take_drop, List.length_take, List.length_drop, size,
    ← div_eq_mul_inv]
  rfl

theorem raise_linear (source target : Nat) : LinearMapping source (raise · target) := by
  intro j
  by_cases own : j < source
  · refine (Linear.component j).congr fun v size => ?_
    exact List.getD_append _ _ _ _ (size ▸ own)
  by_cases added : j < target
  · refine (((Linear.component (j % source)).mul_const
      (Scalar.cos (Scalar.ofNat j * Scalar.halfTurn / Scalar.fullTurn))).mul_const
        Scalar.golden).congr fun v size => ?_
    dsimp only
    rw [raise, List.getD_append_right _ _ _ _ (by omega),
      List.getD_eq_getElem _ _ (by rw [List.length_map, List.length_range]; omega),
      List.getElem_map, List.getElem_range, Nat.add_sub_of_le (by omega), addedComponent, size,
      literal_zero]
  · refine Linear.zero.congr fun v size => List.getD_eq_default _ _ ?_
    dsimp only
    rw [raise, List.length_append, List.length_map, List.length_range]
    omega

end FormulaLab.Dimension
