import FormulaLab.Proofs.Scalar.Unpacked

/-! Words of binary64 and the numbers they encode. A number is known by its sign and its magnitude
bits, which count the magnitudes from zero to infinity. -/

namespace FormulaLab.Binary64

open Float.Model Float.Model.UnpackedFloat

/-- Magnitude bits of infinity; larger ones are not numbers. -/
def infiniteWord : Nat := 2047 * 2 ^ 52

/-- The number has this sign and these magnitude bits. -/
inductive Encodes : UnpackedFloat → Sign → Nat → Prop where
  | zero (s : Sign) : Encodes (.zero s) s 0
  | finite (s : Sign) {m k : Nat} (nonzero : 0 < m) : m < 2 ^ 53 → (2 ^ 52 ≤ m ∨ k = 0) →
      k ≤ 2045 → Encodes (.finite s m ((k : Int) - 1074) nonzero) s (k * 2 ^ 52 + m)
  | infinity (s : Sign) : Encodes (.infinity s) s infiniteWord

theorem Encodes.of_eq {s : Sign} {m k w : Nat} {e : Int} {nonzero : 0 < m} (short : m < 2 ^ 53)
    (full : 2 ^ 52 ≤ m ∨ k = 0) (bounded : k ≤ 2045) (exponent : e = (k : Int) - 1074)
    (word : w = k * 2 ^ 52 + m) : Encodes (.finite s m e nonzero) s w := by
  subst exponent word
  exact .finite s nonzero short full bounded

def signOf (b : BitVec 64) : Sign := if b.toNat < 2 ^ 63 then .positive else .negative

def magnitudeOf (b : BitVec 64) : Nat := b.toNat % 2 ^ 63

theorem unpackMantissa_toNat (b : BitVec 64) :
    (@unpackMantissa .binary64 b).toNat = magnitudeOf b % 2 ^ 52 := by
  simp [unpackMantissa, magnitudeOf]

theorem unpackExponent_toNat (b : BitVec 64) :
    (@unpackExponent .binary64 b).toNat = magnitudeOf b / 2 ^ 52 := by
  simp [unpackExponent, magnitudeOf, BitVec.extractLsb, Nat.shiftRight_eq_div_pow]
  omega

theorem ofBitVec_unpackSign (b : BitVec 64) : Sign.ofBitVec (@unpackSign .binary64 b) = signOf b := by
  have size : b.toNat < 2 ^ 64 := b.isLt
  have bit : (@unpackSign .binary64 b).toNat = b.toNat / 2 ^ 63 := by
    simp [unpackSign, BitVec.extractLsb, Nat.shiftRight_eq_div_pow]
    omega
  unfold Sign.ofBitVec signOf
  by_cases positive : b.toNat < 2 ^ 63
  · have zero : @unpackSign .binary64 b = 0#1 := BitVec.eq_of_toNat_eq (by simp [bit]; omega)
    rw [if_pos zero, if_pos positive]
  · have one : @unpackSign .binary64 b ≠ 0#1 := by
      rw [ne_eq, ← BitVec.toNat_inj, bit]
      simp
      omega
    rw [if_neg one, if_neg positive]

theorem magnitudeOf_lt (b : BitVec 64) : magnitudeOf b < 2 ^ 63 := Nat.mod_lt _ (by decide)

/-- A word whose magnitude bits do not pass infinity encodes the number of these bits. -/
theorem unpack_encodes {b : BitVec 64} (number : magnitudeOf b ≤ infiniteWord) :
    Encodes (UnpackedFloat.unpack .binary64 b) (signOf b) (magnitudeOf b) := by
  have fraction := unpackMantissa_toNat b
  have exponent := unpackExponent_toNat b
  have parts := Nat.div_add_mod (magnitudeOf b) (2 ^ 52)
  rw [UnpackedFloat.unpack, ofBitVec_unpackSign]
  unfold infiniteWord at number
  split
  next largest =>
    rw [largest] at exponent
    have infinite : magnitudeOf b = infiniteWord := by
      simp at exponent
      unfold infiniteWord
      omega
    have none : @unpackMantissa .binary64 b = 0#52 :=
      BitVec.eq_of_toNat_eq (by rw [fraction, infinite]; rfl)
    rw [if_pos none, infinite]
    exact .infinity _
  next notLargest =>
    have below : magnitudeOf b / 2 ^ 52 ≠ 2047 := by
      rw [← exponent]
      exact fun same => notLargest (BitVec.eq_of_toNat_eq (by simp [same]))
    split
    next smallest =>
      rw [smallest] at exponent
      simp at exponent
      split
      next none =>
        rw [none] at fraction
        have zero : magnitudeOf b = 0 := by
          simp at fraction
          omega
        rw [zero]
        exact .zero _
      next some =>
        have exponent : ((@unpackExponent .binary64 b).toNat : Int) -
            (Format.binary64.exponentBias + Format.binary64.mantissaBitsWithoutImplicit) + 1 =
              ((0 : Nat) : Int) - 1074 := by
          rw [smallest]
          rfl
        refine Encodes.of_eq ?_ (.inr rfl) (by decide) exponent ?_
        · omega
        · omega
    next normal =>
      have above : magnitudeOf b / 2 ^ 52 ≠ 0 := by
        rw [← exponent]
        exact fun same => normal (BitVec.eq_of_toNat_eq (by simp [same]))
      have bias : ((@unpackExponent .binary64 b).toNat : Int) -
          (Format.binary64.exponentBias + Format.binary64.mantissaBitsWithoutImplicit) =
            ((magnitudeOf b / 2 ^ 52 - 1 : Nat) : Int) - 1074 := by
        have constants : (Format.binary64.exponentBias : Int) +
          Format.binary64.mantissaBitsWithoutImplicit = 1075 := rfl
        omega
      have significand : (1#1 ++ @unpackMantissa .binary64 b).toNat =
          2 ^ 52 + magnitudeOf b % 2 ^ 52 := by
        rw [BitVec.toNat_append, ← Nat.shiftLeft_add_eq_or_of_lt (BitVec.isLt _), fraction]
        rfl
      refine Encodes.of_eq ?_ (.inl ?_) ?_ bias ?_
      · omega
      · omega
      · omega
      · omega

theorem unpack_eq_notANumber {b : BitVec 64} (above : infiniteWord < magnitudeOf b) :
    UnpackedFloat.unpack .binary64 b = .notANumber := by
  have fraction := unpackMantissa_toNat b
  have exponent := unpackExponent_toNat b
  have size := magnitudeOf_lt b
  unfold infiniteWord at above
  have largest : @unpackExponent .binary64 b = -1#11 :=
    BitVec.eq_of_toNat_eq (by rw [exponent]; simp; omega)
  have some : @unpackMantissa .binary64 b ≠ 0#52 := by
    intro none
    rw [none] at fraction
    simp at fraction
    omega
  rw [UnpackedFloat.unpack, if_pos largest, if_neg some]

section Packing

variable (s : Sign) (e : BitVec 11) (f : BitVec 52)

theorem packComponents_toNat :
    (packComponents .binary64 s e f).toNat =
      s.toBitVec.toNat * 2 ^ 63 + (e.toNat * 2 ^ 52 + f.toNat) := by
  simp only [packComponents, BitVec.toNat_append]
  rw [← Nat.shiftLeft_add_eq_or_of_lt e.isLt, ← Nat.shiftLeft_add_eq_or_of_lt f.isLt]
  simp only [Nat.shiftLeft_eq]
  omega

theorem magnitudeOf_packComponents :
    magnitudeOf (packComponents .binary64 s e f) = e.toNat * 2 ^ 52 + f.toNat := by
  have exponent : e.toNat < 2 ^ 11 := e.isLt
  have fraction : f.toNat < 2 ^ 52 := f.isLt
  rw [magnitudeOf, packComponents_toNat]
  omega

theorem signOf_packComponents : signOf (packComponents .binary64 s e f) = s := by
  have exponent : e.toNat < 2 ^ 11 := e.isLt
  have fraction : f.toNat < 2 ^ 52 := f.isLt
  rw [signOf, packComponents_toNat]
  cases s with
  | positive => exact if_pos (by simp [Sign.toBitVec]; omega)
  | negative => exact if_neg (by simp [Sign.toBitVec])

end Packing

/-- Packing keeps sign and magnitude bits, up to infinity. -/
theorem pack_finite (s : Sign) {m k : Nat} (nonzero : 0 < m) (short : m < 2 ^ 53)
    (full : 2 ^ 52 ≤ m ∨ k = 0) :
    let packed := UnpackedFloat.pack .binary64 (.finite s m ((k : Int) - 1074) nonzero)
    signOf packed = s ∧ magnitudeOf packed = min (k * 2 ^ 52 + m) infiniteWord := by
  have biased : ((k : Int) - 1074 + Format.binary64.exponentBias +
      Format.binary64.mantissaBitsWithoutImplicit).toNat = k + 1 := by
    have constants : (Format.binary64.exponentBias : Int) +
      Format.binary64.mantissaBitsWithoutImplicit = 1075 := rfl
    omega
  have digits : Format.binary64.mantissaBits = 53 := rfl
  unfold infiniteWord
  rw [UnpackedFloat.pack]
  dsimp only
  rw [biased, digits]
  split
  next overflow =>
    rw [packedInfinity, signOf_packComponents, magnitudeOf_packComponents]
    refine ⟨rfl, ?_⟩
    have large : 2046 ≤ k := by omega
    rw [Nat.min_eq_right (by omega)]
    rfl
  next inRange =>
    have bounded : k ≤ 2045 := by omega
    split
    next normal =>
      have lower : 2 ^ 52 ≤ m := (Nat.log2_eq_iff (Nat.ne_of_gt nonzero)).mp (by omega) |>.1
      rw [signOf_packComponents, magnitudeOf_packComponents]
      refine ⟨rfl, ?_⟩
      simp only [BitVec.toNat_ofNat]
      omega
    next subnormal =>
      have upper : m < 2 ^ 52 := Nat.lt_of_not_le fun lower => subnormal <| by
        rw [(Nat.log2_eq_iff (Nat.ne_of_gt nonzero)).mpr ⟨lower, short⟩]
      rw [signOf_packComponents, magnitudeOf_packComponents]
      refine ⟨rfl, ?_⟩
      simp only [BitVec.toNat_ofNat]
      omega

/-- Packing and unpacking keep sign and magnitude bits, up to infinity. -/
theorem unpack_pack_finite (s : Sign) {m k : Nat} (nonzero : 0 < m) (short : m < 2 ^ 53)
    (full : 2 ^ 52 ≤ m ∨ k = 0) :
    Encodes (UnpackedFloat.unpack .binary64
      (UnpackedFloat.pack .binary64 (.finite s m ((k : Int) - 1074) nonzero))) s
      (min (k * 2 ^ 52 + m) infiniteWord) := by
  obtain ⟨sign, magnitude⟩ := pack_finite s nonzero short full
  have encodes := unpack_encodes (magnitude ▸ Nat.min_le_right _ _)
  rwa [sign, magnitude] at encodes

theorem Encodes.unpack_pack {u : UnpackedFloat} {s : Sign} {w : Nat} (encodes : Encodes u s w) :
    Encodes (UnpackedFloat.unpack .binary64 (UnpackedFloat.pack .binary64 u)) s w := by
  cases encodes with
  | zero => cases s <;> exact .zero _
  | infinity => cases s <;> exact .infinity _
  | finite _ nonzero short full bounded =>
    have packed := unpack_pack_finite s nonzero short full
    rwa [Nat.min_eq_left (by unfold infiniteWord; omega)] at packed

theorem Encodes.unique {u : UnpackedFloat} {s t : Sign} {w x : Nat} (first : Encodes u s w)
    (second : Encodes u t x) : s = t ∧ w = x := by
  cases first with
  | zero => cases second with | zero => exact ⟨rfl, rfl⟩
  | infinity => cases second with | infinity => exact ⟨rfl, rfl⟩
  | finite =>
    generalize same : (_ : Int) - 1074 = e at second
    cases second with
    | finite => exact ⟨rfl, by omega⟩

theorem Encodes.isFinite_iff {u : UnpackedFloat} {s : Sign} {w : Nat} (encodes : Encodes u s w) :
    u.isFinite = true ↔ w < infiniteWord := by
  cases encodes with
  | zero => exact ⟨fun _ => by decide, fun _ => rfl⟩
  | infinity => exact ⟨fun impossible => absurd impossible Bool.false_ne_true,
      fun less => absurd less (Nat.lt_irrefl _)⟩
  | finite _ nonzero short full bounded =>
    exact ⟨fun _ => by unfold infiniteWord; omega, fun _ => rfl⟩

theorem Encodes.neg {u : UnpackedFloat} {s : Sign} {w : Nat} (encodes : Encodes u s w) :
    Encodes u.neg (-s) w := by
  cases encodes with
  | zero => exact .zero _
  | infinity => exact .infinity _
  | finite _ nonzero short full bounded => exact .finite _ nonzero short full bounded

theorem Encodes.abs {u : UnpackedFloat} {s : Sign} {w : Nat} (encodes : Encodes u s w) :
    Encodes u.abs .positive w := by
  cases encodes with
  | zero => exact .zero _
  | infinity => exact .infinity _
  | finite _ nonzero short full bounded => exact .finite _ nonzero short full bounded

end FormulaLab.Binary64
