import Mathlib.Data.Int.Order.Lemmas
import Mathlib.Tactic.Common
import Pianod.Foundation.FallibleRun

/-!
# Machine integers

The result of an operation on `int` has to fit, or the program has no defined behaviour any more.  A
number of another type that is converted to `int` keeps its remainder instead, and a negative number
that is converted to `size_t` becomes a huge one.
-/

namespace Foundation

namespace MachineInt

/-- The numbers of the type `int`. -/
def Fits (value : Int) : Prop := -2 ^ 31 ≤ value ∧ value < 2 ^ 31

-- Deciding with integers would unfold the limits one by one for a number that is not known.
instance : DecidablePred Fits := fun value =>
  decidable_of_iff (value.toNat < 2 ^ 31 ∧ (-value).toNat ≤ 2 ^ 31) (by rw [Fits]; omega)

/-- The result of an operation on `int`. -/
def result (value : Int) : Except Fault Int :=
  if Fits value then .ok value else .error .signedOverflow

/-- The result of an operation on `int` that counts. -/
def counted (value : Nat) : Except Fault Nat :=
  if value < 2 ^ 31 then .ok value else .error .signedOverflow

/-- Convert a number to `int`. -/
def ofLong (value : Int) : Int := (BitVec.ofInt 32 value).toInt

/-- Convert a number to `size_t`. -/
def toSize (value : Int) : Nat := (value % 2 ^ 64).toNat

variable {value : Int}

theorem result_of_fits (fits : Fits value) : result value = .ok value := if_pos fits

theorem result_of_overflow (overflow : ¬Fits value) : result value = .error .signedOverflow :=
  if_neg overflow

/-- An operation that succeeds has a result that fits. -/
theorem result_ok_iff {same : Int} : result value = .ok same ↔ Fits value ∧ same = value := by
  rw [result]
  split
  · rename_i fits
    exact ⟨fun ok => ⟨fits, (Except.ok.inj ok).symm⟩, fun ⟨_, equal⟩ => by rw [equal]⟩
  · rename_i overflow
    exact ⟨nofun, fun ⟨fits, _⟩ => absurd fits overflow⟩

/-- What is added to a sum overflows just when it overflows the whole sum. -/
theorem result_add (lower : -2 ^ 31 ≤ value) (more : Nat) :
    (result value >>= fun sum => result (sum + more)) = result (value + more) := by
  by_cases upper : value < 2 ^ 31
  · rw [result_of_fits ⟨lower, upper⟩]
    rfl
  · rw [result_of_overflow fun fits => upper fits.2,
      result_of_overflow fun fits => upper (by have := fits.2; omega)]
    rfl

theorem counted_of_lt {count : Nat} (small : count < 2 ^ 31) : counted count = .ok count :=
  if_pos small

theorem counted_of_le {count : Nat} (large : 2 ^ 31 ≤ count) :
    counted count = .error .signedOverflow :=
  if_neg (Nat.not_lt_of_le large)

theorem ofLong_bmod (value : Int) : ofLong value = value.bmod (2 ^ 32) :=
  BitVec.toInt_ofInt value

theorem ofLong_eq (fits : Fits value) : ofLong value = value := by
  obtain ⟨lower, upper⟩ := fits
  rw [ofLong_bmod]
  exact Int.bmod_eq_of_le (by omega) (by omega)

theorem ofLong_fits (value : Int) : Fits (ofLong value) := by
  rw [ofLong_bmod, Fits]
  simp only [Int.bmod]
  split_ifs <;> omega

/-- Numbers with the same remainder become the same number. -/
theorem ofLong_congr {other : Int} (same : value % 2 ^ 32 = other % 2 ^ 32) :
    ofLong value = ofLong other := by
  simp only [ofLong_bmod, Int.bmod, Nat.cast_ofNat, Nat.cast_pow, same]

/-- Lengths that are added to a converted number are added to the number. -/
theorem ofLong_toSize_add (value : Int) (more : Nat) :
    ofLong ((toSize (ofLong value) : Int) + more) = ofLong (value + more) := by
  refine ofLong_congr ?_
  have natural : (toSize (ofLong value) : Int) = ofLong value % 2 ^ 64 :=
    Int.toNat_of_nonneg (by omega)
  have kept : ofLong value % 2 ^ 32 = value % 2 ^ 32 := by
    rw [ofLong_bmod]
    exact Int.bmod_emod
  rw [natural]
  omega

theorem toSize_of_nonneg (natural : 0 ≤ value) (small : value < 2 ^ 64) :
    (toSize value : Int) = value := by
  rw [toSize, Int.emod_eq_of_lt natural small]
  exact Int.toNat_of_nonneg natural

theorem toSize_of_neg (negative : value < 0) (fits : Fits value) : 2 ^ 63 ≤ toSize value := by
  have lower := fits.1
  rw [toSize]
  omega

end MachineInt

end Foundation
