import Mathlib.Data.Nat.Digits.Lemmas
import Pianod.Foundation.Text

/-!
# Reading integers

The C library's `strtol` reads an integer at the start of a text, in base ten or in the base that
its prefix announces, and tells where it stopped.  Every integer in range can be spelled so that it
is read back either way, and so that it is read back only where a prefix is understood.
-/

namespace Foundation

/-- The radix handed to `strtol`: ten, or zero for the base that the prefix announces. -/
inductive Radix where
  | decimal
  | detect
deriving DecidableEq, Repr

/-- The value of a letter or digit as a digit of a large base. -/
def digitValue (byte : UInt8) : Option Nat :=
  if 48 ≤ byte ∧ byte ≤ 57 then some (byte.toNat - 48)
  else if 97 ≤ byte ∧ byte ≤ 122 then some (byte.toNat - 87)
  else if 65 ≤ byte ∧ byte ≤ 90 then some (byte.toNat - 55)
  else none

/-- The value of a digit of a base. -/
def digitIn (base : Nat) (byte : UInt8) : Option Nat :=
  match digitValue byte with
  | none => none
  | some digit => if digit < base then some digit else none

/-- The digits at the start of a text, and what follows them. -/
def takeDigits (base : Nat) : Text → List Nat × Text
  | [] => ([], [])
  | byte :: text =>
      match digitIn base byte with
      | none => ([], byte :: text)
      | some digit => (digit :: (takeDigits base text).1, (takeDigits base text).2)

/-- The base in which a number is read, and where its digits start. -/
def announcedBase : Radix → Text → Nat × Text
  | .decimal, text => (10, text)
  | .detect, 48 :: mark :: digit :: text =>
      if (mark = 120 ∨ mark = 88) ∧ (digitIn 16 digit).isSome then (16, digit :: text)
      else (8, 48 :: mark :: digit :: text)
  | .detect, 48 :: text => (8, 48 :: text)
  | .detect, text => (10, text)

/-- Whether a number is negative, and what follows its sign. -/
def takeSign : Text → Bool × Text
  | 45 :: text => (true, text)
  | 43 :: text => (false, text)
  | text => (false, text)

def longMin : Int := -9223372036854775808
def longMax : Int := 9223372036854775807

/-- A value that does not fit is read as the nearest one that does. -/
def saturate (value : Int) : Int := max longMin (min longMax value)

/-- The number that digits spell. -/
def ofDigits (base : Nat) (digits : List Nat) : Nat :=
  digits.foldl (fun value digit => value * base + digit) 0

/-- The C library's `strtol`, returning the number and what follows it. -/
def strtol (text : Text) (radix : Radix) : Int × Text :=
  let (negative, unsigned) := takeSign (text.dropWhile isspace)
  let (base, number) := announcedBase radix unsigned
  match takeDigits base number with
  | ([], _) => (0, text)
  | (digits, rest) =>
      let magnitude : Int := ofDigits base digits
      (saturate (if negative then -magnitude else magnitude), rest)

/-! ## Spelling integers -/

def digitByte (digit : Nat) : UInt8 := UInt8.ofNat (if digit < 10 then 48 + digit else 87 + digit)

/-- The digits of a number, the leading one not zero unless it is the only one. -/
def leadingDigits (base number : Nat) : List Nat :=
  if number = 0 then [0] else (Nat.digits base number).reverse

/-- The usual spelling of a number. -/
def numeral (base number : Nat) : Text := (leadingDigits base number).map digitByte

/-- The spelling of an integer in base ten. -/
def decimalText (number : Int) : Text :=
  (if number < 0 then [45] else []) ++ numeral 10 number.natAbs

/-- The spelling of an integer in base sixteen, with a prefix that says so. -/
def hexText (number : Int) : Text :=
  (if number < 0 then [45] else []) ++ 48 :: 120 :: numeral 16 number.natAbs

theorem digitIn_digitByte {base digit : Nat} (small : base ≤ 16) (bound : digit < base) :
    digitIn base (digitByte digit) = some digit := by
  have known : ∀ digit < 16, digitValue (digitByte digit) = some digit := by decide
  rw [digitIn, known digit (bound.trans_le small)]
  exact if_pos bound

theorem takeDigits_map {base : Nat} {digits : List Nat} (small : base ≤ 16)
    (bound : ∀ digit ∈ digits, digit < base) :
    takeDigits base (digits.map digitByte) = (digits, []) := by
  induction digits with
  | nil => rfl
  | cons digit digits ih =>
      have first := digitIn_digitByte small (bound digit List.mem_cons_self)
      have later := ih fun other member => bound other (List.mem_cons_of_mem _ member)
      rw [List.map_cons, takeDigits, first]
      simp only
      rw [later]

theorem leadingDigits_lt {base number digit : Nat} (large : 1 < base)
    (member : digit ∈ leadingDigits base number) : digit < base := by
  rw [leadingDigits] at member
  split at member
  · rw [List.mem_singleton.mp member]
    exact Nat.zero_lt_of_lt large
  · exact Nat.digits_lt_base large (List.mem_reverse.mp member)

/-- The leading digits are not missing, and only zero starts with a zero. -/
theorem leadingDigits_cons (base number : Nat) :
    ∃ digit digits, leadingDigits base number = digit :: digits ∧
      (digit = 0 → number = 0 ∧ digits = []) := by
  rw [leadingDigits]
  split
  · rename_i zero
    exact ⟨0, [], rfl, fun _ => ⟨zero, rfl⟩⟩
  · rename_i positive
    have present := Nat.digits_ne_nil_iff_ne_zero (b := base).mpr positive
    refine ⟨(Nat.digits base number).getLast present, (Nat.digits base number).dropLast.reverse,
      ?_, fun zero => absurd zero (Nat.getLast_digit_ne_zero base positive)⟩
    conv_lhs => rw [← List.dropLast_append_getLast present]
    rw [List.reverse_append]
    rfl

theorem ofDigits_leadingDigits (base number : Nat) :
    ofDigits base (leadingDigits base number) = number := by
  rw [leadingDigits, ofDigits]
  split
  · rename_i zero
    rw [zero]
    exact Nat.zero_mul base
  · rw [List.foldl_reverse]
    have value := Nat.ofDigits_digits base number
    rw [Nat.ofDigits_eq_foldr] at value
    refine Eq.trans ?_ value
    congr 1
    funext digit value
    simp [Nat.mul_comm, Nat.add_comm]

theorem takeDigits_numeral {base : Nat} (large : 1 < base) (small : base ≤ 16) (number : Nat) :
    takeDigits base (numeral base number) = (leadingDigits base number, []) :=
  takeDigits_map small fun _ => leadingDigits_lt large

/-- A sign before a digit is taken off. -/
theorem takeSign_signed {number : Int} {byte : UInt8} (lower : 48 ≤ byte)
    (text : Text) :
    takeSign (((if number < 0 then [45] else []) ++ byte :: text).dropWhile isspace) =
      (decide (number < 0), byte :: text) := by
  have solid : isspace byte = false := by
    have past : ¬byte ≤ 13 := fun below =>
      absurd (UInt8.le_trans lower below) (by decide : ¬(48 : UInt8) ≤ 13)
    have other : byte ≠ 32 := by
      rintro rfl
      exact absurd lower (by decide)
    simp [isspace, past, other]
  split
  · rename_i negative
    rw [decide_eq_true negative]
    rfl
  · rename_i positive
    rw [decide_eq_false positive, List.nil_append,
      List.dropWhile_cons_of_neg (by rw [solid]; decide)]
    rw [takeSign]
    · intro rest same
      obtain ⟨rfl, -⟩ := List.cons.inj same
      exact absurd lower (by decide)
    · intro rest same
      obtain ⟨rfl, -⟩ := List.cons.inj same
      exact absurd lower (by decide)

theorem saturate_of_mem {value : Int} (lower : longMin ≤ value) (upper : value ≤ longMax) :
    saturate value = value := by
  rw [saturate, min_eq_right upper, max_eq_right lower]

/-- Sign and magnitude make up an integer. -/
theorem signed_natAbs (number : Int) :
    (if decide (number < 0) = true then -(number.natAbs : Int) else number.natAbs) = number := by
  split
  · rename_i negative
    have below := of_decide_eq_true negative
    omega
  · rename_i positive
    have above : ¬number < 0 := fun below => positive (decide_eq_true below)
    omega

theorem digitByte_bound {digit : Nat} (bound : digit < 10) : 48 ≤ digitByte digit := by
  have known : ∀ digit < 10, 48 ≤ digitByte digit := by decide
  exact known digit bound

theorem digitByte_ne_zero {digit : Nat} (bound : digit < 10) (positive : digit ≠ 0) :
    digitByte digit ≠ 48 := by
  have known : ∀ digit < 10, digit ≠ 0 → digitByte digit ≠ 48 := by decide
  exact known digit bound positive

/-- Without a leading zero, no prefix is found. -/
theorem announcedBase_detect {byte : UInt8} (other : byte ≠ 48) (text : Text) :
    announcedBase .detect (byte :: text) = (10, byte :: text) := by
  rw [announcedBase]
  · intro mark digit rest same
    exact other (List.cons.inj same).1
  · intro rest same
    exact other (List.cons.inj same).1

/-- An integer spelled in base ten is read back whether or not prefixes count. -/
theorem strtol_decimalText {number : Int} (lower : longMin ≤ number) (upper : number ≤ longMax)
    (radix : Radix) : strtol (decimalText number) radix = (number, []) := by
  obtain ⟨digit, digits, spelled, zero_only⟩ := leadingDigits_cons 10 number.natAbs
  have bound : digit < 10 :=
    leadingDigits_lt (by decide) (spelled ▸ List.mem_cons_self)
  have numeral_eq : numeral 10 number.natAbs = digitByte digit :: digits.map digitByte := by
    rw [numeral, spelled, List.map_cons]
  have sign := @takeSign_signed number _ (digitByte_bound bound) (digits.map digitByte)
  have announced : ∃ base, announcedBase radix (numeral 10 number.natAbs) =
        (base, numeral 10 number.natAbs) ∧
      takeDigits base (numeral 10 number.natAbs) = (leadingDigits 10 number.natAbs, []) ∧
      ofDigits base (leadingDigits 10 number.natAbs) = number.natAbs := by
    have usual := takeDigits_numeral (by decide : 1 < 10) (by decide) number.natAbs
    cases radix with
    | decimal => exact ⟨10, rfl, usual, ofDigits_leadingDigits 10 _⟩
    | detect =>
        by_cases zero : digit = 0
        · rw [(zero_only zero).1]
          exact ⟨8, rfl, rfl, rfl⟩
        · refine ⟨10, ?_, usual, ofDigits_leadingDigits 10 _⟩
          rw [numeral_eq]
          exact announcedBase_detect (digitByte_ne_zero bound zero) _
  obtain ⟨base, base_eq, taken, value⟩ := announced
  rw [strtol, decimalText, numeral_eq, sign, ← numeral_eq]
  simp only [base_eq, taken, spelled]
  rw [← spelled, value, signed_natAbs, saturate_of_mem lower upper]

/-- An integer spelled in base sixteen is read back where prefixes count. -/
theorem strtol_hexText {number : Int} (lower : longMin ≤ number) (upper : number ≤ longMax) :
    strtol (hexText number) .detect = (number, []) := by
  obtain ⟨digit, digits, spelled, -⟩ := leadingDigits_cons 16 number.natAbs
  have bound : digit < 16 := leadingDigits_lt (by decide) (spelled ▸ List.mem_cons_self)
  have numeral_eq : numeral 16 number.natAbs = digitByte digit :: digits.map digitByte := by
    rw [numeral, spelled, List.map_cons]
  have sign := @takeSign_signed number 48 (UInt8.le_refl _) (120 :: numeral 16 number.natAbs)
  have announced : announcedBase .detect (48 :: 120 :: numeral 16 number.natAbs) =
      (16, numeral 16 number.natAbs) := by
    rw [numeral_eq, announcedBase, if_pos]
    rw [digitIn_digitByte (le_refl _) bound]
    exact ⟨.inl rfl, rfl⟩
  have taken := takeDigits_numeral (by decide : 1 < 16) (le_refl _) number.natAbs
  rw [strtol, hexText, sign]
  simp only [announced, taken, spelled]
  rw [← spelled, ofDigits_leadingDigits, signed_natAbs, saturate_of_mem lower upper]

/-- In base ten, the spelling in base sixteen is not a number up to its end. -/
theorem strtol_hexText_decimal (number : Int) : (strtol (hexText number) .decimal).2 ≠ [] := by
  have sign := @takeSign_signed number 48 (UInt8.le_refl _) (120 :: numeral 16 number.natAbs)
  have stops : takeDigits 10 (48 :: 120 :: numeral 16 number.natAbs) =
      ([0], 120 :: numeral 16 number.natAbs) := rfl
  rw [strtol, hexText, sign]
  simp only [announcedBase, stops]
  exact List.cons_ne_nil _ _

end Foundation
