import Mathlib.Tactic.Common

/-!
# Polynomial division in a shift register

A register of `w + 1` bits divides a stream of bits by a polynomial over the field of two elements:
every bit is shifted in from the right, and the divisor is subtracted whenever the leading bit is
set.
-/

namespace Foundation.DivisionRegister

variable {w : Nat}

/-- Shift one bit into the register and reduce it. -/
def feed (divisor register : BitVec (w + 1)) (bit : Bool) : BitVec (w + 1) :=
  if (register.shiftConcat bit).msb then register.shiftConcat bit ^^^ divisor
  else register.shiftConcat bit

/-- Shift a stream of bits into the register. -/
def feedAll (divisor register : BitVec (w + 1)) (bits : List Bool) : BitVec (w + 1) :=
  bits.foldl (feed divisor) register

/-- The lowest bits of a register, most significant first. -/
def lowBits (register : BitVec (w + 1)) (count : Nat) : List Bool :=
  (List.range count).reverse.map register.getLsbD

@[simp] theorem feedAll_nil (divisor register : BitVec (w + 1)) :
    feedAll divisor register [] = register := rfl

@[simp] theorem feedAll_cons (divisor register : BitVec (w + 1)) (bit : Bool) (bits : List Bool) :
    feedAll divisor register (bit :: bits) = feedAll divisor (feed divisor register bit) bits := rfl

theorem feedAll_append (divisor register : BitVec (w + 1)) (left right : List Bool) :
    feedAll divisor register (left ++ right) =
    feedAll divisor (feedAll divisor register left) right :=
  List.foldl_append

theorem lowBits_succ (register : BitVec (w + 1)) (count : Nat) :
    lowBits register (count + 1) = register.getLsbD count :: lowBits register count := by
  simp [lowBits, List.range_succ]

@[simp] theorem length_lowBits (register : BitVec (w + 1)) (count : Nat) :
    (lowBits register count).length = count := by
  simp [lowBits]

/-! ## Linearity -/

theorem shiftConcat_xor (left right : BitVec (w + 1)) (bit other : Bool) :
    (left ^^^ right).shiftConcat (bit ^^ other) =
      left.shiftConcat bit ^^^ right.shiftConcat other := by
  apply BitVec.eq_of_getLsbD_eq
  intro i hi
  cases i with
  | zero => simp
  | succ i => simp [hi]

theorem feed_xor (divisor left right : BitVec (w + 1)) (bit other : Bool) :
    feed divisor (left ^^^ right) (bit ^^ other) =
      feed divisor left bit ^^^ feed divisor right other := by
  unfold feed
  rw [shiftConcat_xor, BitVec.msb_xor]
  generalize left.shiftConcat bit = x
  generalize right.shiftConcat other = y
  cases x.msb <;> cases y.msb
  · simp
  · simp [BitVec.xor_assoc]
  · simp only [Bool.xor_false, if_true, Bool.false_eq_true, if_false]
    ac_rfl
  · calc
      x ^^^ y = x ^^^ y ^^^ (divisor ^^^ divisor) := by simp
      _ = x ^^^ divisor ^^^ (y ^^^ divisor) := by ac_rfl

theorem feedAll_xor (divisor left right : BitVec (w + 1)) (bits others : List Bool)
    (lengths : bits.length = others.length) :
    feedAll divisor (left ^^^ right) (List.zipWith xor bits others) =
      feedAll divisor left bits ^^^ feedAll divisor right others := by
  induction bits generalizing left right others with
  | nil =>
      obtain rfl := List.length_eq_zero_iff.mp lengths.symm
      rfl
  | cons bit bits induction =>
      cases others with
      | nil => simp at lengths
      | cons other others =>
          simp only [List.zipWith_cons_cons, feedAll_cons, feed_xor]
          exact induction _ _ _ (by simpa using lengths)

/-! ## The reduced register -/

theorem msb_feed {divisor : BitVec (w + 1)} (monic : divisor.msb) (register : BitVec (w + 1))
    (bit : Bool) : (feed divisor register bit).msb = false := by
  unfold feed
  split <;> simp_all

theorem msb_feedAll {divisor register : BitVec (w + 1)} (monic : divisor.msb)
    (reduced : register.msb = false) (bits : List Bool) :
    (feedAll divisor register bits).msb = false := by
  induction bits generalizing register with
  | nil => exact reduced
  | cons bit bits induction => exact induction (msb_feed monic register bit)

/-- A reduced number whose bits are shifted in behind its own leading bits is restored. -/
theorem feedAll_lowBits_of_shifted (divisor : BitVec (w + 1)) {number : BitVec (w + 1)}
    (reduced : number.msb = false) (count : Nat) :
    feedAll divisor (number >>> count) (lowBits number count) = number := by
  induction count with
  | zero => simp [lowBits]
  | succ count induction =>
      have shifted : (number >>> (count + 1)).shiftConcat (number.getLsbD count) =
          number >>> count := by
        simpa using (@BitVec.shiftRight_sub_one_eq_shiftConcat _ (count + 1) number
          count.succ_pos).symm
      have msb_shifted : (number >>> count).msb = false := by
        rw [BitVec.msb_ushiftRight]
        simp [reduced]
      have fed : feed divisor (number >>> (count + 1)) (number.getLsbD count) =
          number >>> count := by
        simp [feed, shifted, msb_shifted]
      rw [lowBits_succ, feedAll_cons, fed, induction]

/-- The bits of a reduced number are shifted into an empty register without reduction. -/
theorem feedAll_zero_lowBits (divisor : BitVec (w + 1)) {number : BitVec (w + 1)}
    (reduced : number.msb = false) : feedAll divisor 0#(w + 1) (lowBits number w) = number := by
  have emptied : number >>> w = 0#(w + 1) := by
    apply BitVec.eq_of_getLsbD_eq
    intro i _
    have top : number.getLsbD w = false := by simpa [BitVec.msb_eq_getLsbD_last] using reduced
    cases i with
    | zero => simpa using top
    | succ i =>
        rw [BitVec.getLsbD_ushiftRight, BitVec.getLsbD_of_ge _ _ (by omega)]
        exact BitVec.getLsbD_zero.symm
  rw [← emptied]
  exact feedAll_lowBits_of_shifted divisor reduced w

/-- The remainder left by `w` zero bits, shifted in instead of them, leaves no remainder. -/
theorem feedAll_remainder {divisor register : BitVec (w + 1)} (monic : divisor.msb)
    (reduced : register.msb = false) :
    feedAll divisor register (lowBits (feedAll divisor register (lowBits 0#(w + 1) w)) w) =
      0#(w + 1) := by
  set remainder := feedAll divisor register (lowBits 0#(w + 1) w) with remainder_def
  have remainder_reduced : remainder.msb = false := msb_feedAll monic reduced _
  have zeros : List.zipWith xor (lowBits 0#(w + 1) w) (lowBits remainder w) =
      lowBits remainder w := by
    refine List.ext_getElem (by simp) fun i _ _ => ?_
    simp [lowBits]
  calc
    feedAll divisor register (lowBits remainder w)
        = feedAll divisor (register ^^^ 0#(w + 1))
            (List.zipWith xor (lowBits 0#(w + 1) w) (lowBits remainder w)) := by
          rw [zeros, BitVec.xor_zero]
    _ = feedAll divisor register (lowBits 0#(w + 1) w) ^^^
          feedAll divisor 0#(w + 1) (lowBits remainder w) :=
          feedAll_xor divisor register 0 _ _ (by simp)
    _ = remainder ^^^ remainder := by
          rw [← remainder_def, feedAll_zero_lowBits divisor remainder_reduced]
    _ = 0#(w + 1) := BitVec.xor_self

end Foundation.DivisionRegister
