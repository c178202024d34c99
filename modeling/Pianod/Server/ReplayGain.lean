import Mathlib.Tactic.Common
import Mathlib.Data.Int.Order.Lemmas
import Mathlib.Tactic.Linarith
import Mathlib.Tactic.Ring

/-!
# Volume scaling

The player multiplies every sample by a scale in hundredths.  A sample is signed and the scale is
not, so the product is taken modulo `2^32` before it is compared with the sample range.
-/

namespace Pianod

/-- The scale that leaves samples alone. -/
def rgScaleFactor : Int := 100

/-- Scale a sample, clipping it to its range. The comparisons and the division are in double
precision, which is exact on the 32-bit product. -/
def applyReplayGain (value : Int16) (scale : UInt32) : Int16 :=
  let tmpReplayBuf := (value.toInt32.toUInt32 * scale).toInt32.toInt
  if tmpReplayBuf > Int16.maxValue.toInt * rgScaleFactor then Int16.maxValue
  else if tmpReplayBuf < Int16.minValue.toInt * rgScaleFactor then Int16.minValue
  else Int16.ofInt (tmpReplayBuf.tdiv rgScaleFactor)

/-- A whole number limited to the sample range. -/
def clipped (level : Int) : Int := max (-32768) (min 32767 level)

/-- The product of a sample and a scale in hundredths, truncated and clipped. -/
def saturated (value : Int16) (scale : UInt32) : Int :=
  clipped ((value.toInt * scale.toNat).tdiv 100)

/-! ## The clipping -/

theorem tdiv_hundred_mono {low high : Int} (ordered : low ≤ high) :
    low.tdiv 100 ≤ high.tdiv 100 :=
  Int.tdiv_le_tdiv (by decide) ordered

private theorem clipped_mono {low high : Int} (ordered : low ≤ high) :
    clipped low ≤ clipped high := by
  unfold clipped
  omega

private theorem clipped_tdiv_eq_max_iff (product : Int) :
    clipped (product.tdiv 100) = 32767 ↔ 3276700 ≤ product := by
  constructor
  · intro top
    by_contra below
    have bound : product.tdiv 100 ≤ (3276699 : Int).tdiv 100 := tdiv_hundred_mono (by omega)
    have value : (3276699 : Int).tdiv 100 = 32766 := by decide
    unfold clipped at top
    omega
  · intro above
    have bound : (3276700 : Int).tdiv 100 ≤ product.tdiv 100 := tdiv_hundred_mono above
    have value : (3276700 : Int).tdiv 100 = 32767 := by decide
    unfold clipped
    omega

theorem clipped_tdiv_eq_min_iff (product : Int) :
    clipped (product.tdiv 100) = -32768 ↔ product ≤ -3276800 := by
  constructor
  · intro bottom
    by_contra above
    have bound : (-3276799 : Int).tdiv 100 ≤ product.tdiv 100 := tdiv_hundred_mono (by omega)
    have value : (-3276799 : Int).tdiv 100 = -32767 := by decide
    unfold clipped at bottom
    omega
  · intro below
    have bound : product.tdiv 100 ≤ (-3276800 : Int).tdiv 100 := tdiv_hundred_mono below
    have value : (-3276800 : Int).tdiv 100 = -32768 := by decide
    unfold clipped
    omega

private theorem clipped_tdiv_nonneg {product : Int} (nonneg : 0 ≤ product) :
    0 ≤ clipped (product.tdiv 100) := by
  have bound : (0 : Int).tdiv 100 ≤ product.tdiv 100 := tdiv_hundred_mono nonneg
  rw [Int.zero_tdiv] at bound
  unfold clipped
  omega

/-! ## The product -/

private theorem tmpReplayBuf_toInt (value : Int16) (scale : UInt32) :
    (value.toInt32.toUInt32 * scale).toInt32.toInt =
      (value.toInt * scale.toNat).bmod (2 ^ 32) := by
  have reduced : scale.toInt32.toInt = (scale.toNat : Int).bmod (2 ^ 32) :=
    BitVec.toInt_eq_toNat_bmod scale.toBitVec
  rw [UInt32.toInt32_mul, Int32.toInt_mul, Int32.toInt32_toUInt32, Int16.toInt_toInt32, reduced,
    Int.mul_bmod_bmod]

theorem applyReplayGain_toInt (value : Int16) (scale : UInt32) :
    (applyReplayGain value scale).toInt =
      clipped (((value.toInt * scale.toNat).bmod (2 ^ 32)).tdiv 100) := by
  unfold applyReplayGain rgScaleFactor
  simp only [tmpReplayBuf_toInt]
  generalize (value.toInt * scale.toNat).bmod (2 ^ 32) = product
  split
  case isTrue above =>
    have top : 3276700 < product := above
    rw [(clipped_tdiv_eq_max_iff product).mpr top.le]
    rfl
  case isFalse notAbove =>
    have below : product ≤ 3276700 := not_lt.mp notAbove
    split
    case isTrue less =>
      have bottom : product < -3276800 := less
      rw [(clipped_tdiv_eq_min_iff product).mpr bottom.le]
      rfl
    case isFalse notLess =>
      have above : -3276800 ≤ product := not_lt.mp notLess
      have high : product.tdiv 100 ≤ (3276700 : Int).tdiv 100 := tdiv_hundred_mono below
      have low : (-3276800 : Int).tdiv 100 ≤ product.tdiv 100 := tdiv_hundred_mono above
      have ends : (3276700 : Int).tdiv 100 = 32767 ∧ (-3276800 : Int).tdiv 100 = -32768 := by
        decide
      rw [Int16.toInt_ofInt_of_le (by omega) (by omega)]
      unfold clipped
      omega

private theorem bmod_eq_self {product : Int} (low : -2 ^ 31 ≤ product) (high : product < 2 ^ 31) :
    product.bmod (2 ^ 32) = product :=
  Int.bmod_eq_of_le (by omega) (by omega)

private theorem product_fits {scale : UInt32} (small : scale ≤ 65536) (value : Int16) :
    -2 ^ 31 ≤ value.toInt * scale.toNat ∧ value.toInt * scale.toNat < 2 ^ 31 := by
  have limit : (scale.toNat : Int) ≤ 65536 := by exact_mod_cast UInt32.le_iff_toNat_le.mp small
  have low : -32768 ≤ value.toInt := Int16.le_toInt value
  have high : value.toInt ≤ 32767 := Int16.toInt_le value
  constructor <;> nlinarith

/-- For every larger scale there is a sample whose product wraps to the other sign. -/
theorem exists_wrapping {scale : UInt32} (large : 65536 < scale) :
    ∃ value : Int16, value.toInt * scale.toNat < -2 ^ 31 ∧
      0 ≤ (value.toInt * scale.toNat).bmod (2 ^ 32) := by
  have bound : scale.toNat < 2 ^ 32 := scale.toNat_lt
  have above : 65536 < scale.toNat := UInt32.lt_iff_toNat_lt.mp large
  generalize scale.toNat = count at bound above ⊢
  obtain ⟨quotient, reached, passed⟩ :
      ∃ quotient, quotient * count ≤ 2 ^ 31 ∧ 2 ^ 31 < quotient * count + count :=
    ⟨2 ^ 31 / count, Nat.div_mul_le_self _ _, Nat.lt_div_mul_add (by omega)⟩
  have quotient_le : quotient ≤ 32767 := by nlinarith
  have limit : quotient * count + count ≤ 2 ^ 32 := by
    rcases Nat.eq_zero_or_pos quotient with rfl | positive
    · omega
    · have : count ≤ quotient * count := Nat.le_mul_of_pos_left count positive
      omega
  have value_eq : (Int16.ofInt (-(quotient : Int) - 1)).toInt = -(quotient : Int) - 1 :=
    Int16.toInt_ofInt_of_le (by omega) (by omega)
  have product : (-(quotient : Int) - 1) * count = -((quotient * count + count : Nat) : Int) := by
    push_cast
    ring
  refine ⟨Int16.ofInt (-(quotient : Int) - 1), ?_, ?_⟩
  · rw [value_eq, product]
    omega
  · rw [value_eq, product, Int.bmod_def]
    omega

/-! ## When samples saturate -/

theorem applyReplayGain_of_fits {scale : UInt32} (small : scale ≤ 65536) (value : Int16) :
    (applyReplayGain value scale).toInt = saturated value scale := by
  obtain ⟨low, high⟩ := product_fits small value
  rw [applyReplayGain_toInt, bmod_eq_self low high, saturated]

private theorem saturated_mono (scale : UInt32) {left right : Int16} (ordered : left ≤ right) :
    saturated left scale ≤ saturated right scale := by
  apply clipped_mono
  apply tdiv_hundred_mono
  exact Int.mul_le_mul_of_nonneg_right (Int16.le_iff_toInt_le.mp ordered) (by omega)

private theorem applyReplayGain_mono {scale : UInt32} (small : scale ≤ 65536) {left right : Int16}
    (ordered : left ≤ right) : applyReplayGain left scale ≤ applyReplayGain right scale := by
  rw [Int16.le_iff_toInt_le, applyReplayGain_of_fits small, applyReplayGain_of_fits small]
  exact saturated_mono scale ordered

/-- Scaling saturates, for all samples, exactly at the scales up to `65536`. -/
theorem applyReplayGain_saturates_iff (scale : UInt32) :
    ((∀ value, (applyReplayGain value scale).toInt = saturated value scale) ∧
      ∀ left right, left ≤ right → applyReplayGain left scale ≤ applyReplayGain right scale) ↔
    scale ≤ 65536 := by
  constructor
  · rintro ⟨saturates, -⟩
    by_contra notSmall
    obtain ⟨value, below, nonneg⟩ := exists_wrapping (UInt32.not_le.mp notSmall)
    have bottom : saturated value scale = -32768 :=
      (clipped_tdiv_eq_min_iff _).mpr (by omega)
    have nonneg' : 0 ≤ (applyReplayGain value scale).toInt := by
      rw [applyReplayGain_toInt]
      exact clipped_tdiv_nonneg nonneg
    rw [saturates value, bottom] at nonneg'
    omega
  · intro small
    exact ⟨applyReplayGain_of_fits small, fun _ _ => applyReplayGain_mono small⟩

/-- At the highest volume neighbouring samples are sent to opposite ends of the range. -/
theorem applyReplayGain_loudest :
    applyReplayGain 214 10000000 = 32767 ∧ applyReplayGain 215 10000000 = -32768 ∧
      saturated 215 10000000 = 32767 := by
  decide

end Pianod
