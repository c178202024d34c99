import Pianod.Foundation.Strtol

/-!
# Decimal numbers

A decimal number is an optional minus sign and one or more digits.  The C library's `strtol` reads
every such number, within the limits of its type, but also numbers behind whitespace or a plus sign,
and the empty text as zero.
-/

namespace Foundation

/-- The number that digits spell in base ten. -/
def decimalValue (digits : Text) : Nat :=
  digits.foldl (fun value digit => value * 10 + (digit.toNat - 48)) 0

/-- The number that a text spells without a sign. -/
def unsignedNumber (text : Text) : Option Nat :=
  if text ≠ [] ∧ text.all isdigit = true then some (decimalValue text) else none

/-- The number that a text spells. -/
def numberOf : Text → Option Int
  | 45 :: text => (unsignedNumber text).map fun magnitude : Nat => -(magnitude : Int)
  | text => (unsignedNumber text).map fun magnitude : Nat => (magnitude : Int)

/-- A text without whitespace in front of it, and without a plus sign before its first digit. -/
def skipLead (text : Text) : Text :=
  match text.dropWhile isspace with
  | 43 :: digit :: rest => if isdigit digit then digit :: rest else 43 :: digit :: rest
  | rest => rest

/-! ## Digits -/

theorem digitIn_ten (byte : UInt8) :
    digitIn 10 byte = if isdigit byte then some (byte.toNat - 48) else none := by
  have lower : 48 ≤ byte ↔ 48 ≤ byte.toNat := UInt8.le_iff_toNat_le
  have upper : byte ≤ 57 ↔ byte.toNat ≤ 57 := UInt8.le_iff_toNat_le
  rw [digitIn, digitValue, isdigit]
  by_cases digit : 48 ≤ byte ∧ byte ≤ 57
  · have small : byte.toNat - 48 < 10 := by
      have bound := upper.mp digit.2
      omega
    simp [digit, small]
  · have not_digit : (decide (48 ≤ byte) && decide (byte ≤ 57)) = false := by
      simpa using fun least => UInt8.not_le.mp fun most => digit ⟨least, most⟩
    rw [if_neg digit, not_digit, if_neg Bool.false_ne_true]
    by_cases letter : 97 ≤ byte ∧ byte ≤ 122
    · have bound : 97 ≤ byte.toNat := UInt8.le_iff_toNat_le.mp letter.1
      rw [if_pos letter]
      exact if_neg (by omega)
    · rw [if_neg letter]
      by_cases capital : 65 ≤ byte ∧ byte ≤ 90
      · have bound : 65 ≤ byte.toNat := UInt8.le_iff_toNat_le.mp capital.1
        rw [if_pos capital]
        exact if_neg (by omega)
      · rw [if_neg capital]

/-- The digits at the start of a text are its digits. -/
theorem takeDigits_ten (text : Text) :
    takeDigits 10 text =
      ((text.takeWhile isdigit).map fun digit => digit.toNat - 48, text.dropWhile isdigit) := by
  induction text with
  | nil => rfl
  | cons byte text ih =>
      rw [takeDigits, digitIn_ten]
      cases digit : isdigit byte with
      | true => simp [ih, digit]
      | false => simp [digit]

theorem ofDigits_ten (digits : Text) :
    ofDigits 10 (digits.map fun digit => digit.toNat - 48) = decimalValue digits := by
  rw [ofDigits, List.foldl_map, decimalValue]

/-- Digits alone are read as the number that they spell. -/
theorem takeDigits_of_unsignedNumber {text : Text} {magnitude : Nat}
    (spells : unsignedNumber text = some magnitude) :
    ∃ digit digits, takeDigits 10 text = (digit :: digits, []) ∧
      ofDigits 10 (digit :: digits) = magnitude := by
  rw [unsignedNumber] at spells
  split at spells
  · rename_i whole
    obtain ⟨some, all⟩ := whole
    obtain ⟨byte, text, rfl⟩ := List.exists_cons_of_ne_nil some
    have digits := List.all_eq_true.mp all
    refine ⟨byte.toNat - 48, text.map fun digit => digit.toNat - 48, ?_, ?_⟩
    · rw [takeDigits_ten, List.takeWhile_eq_self_iff.mpr digits,
        List.dropWhile_eq_nil_iff.mpr digits]
      rfl
    · rw [← Option.some.inj spells, ← ofDigits_ten]
      rfl
  · cases spells

theorem unsignedNumber_of_takeDigits {text : Text} {digit : Nat} {digits : List Nat}
    (taken : takeDigits 10 text = (digit :: digits, [])) :
    ∃ magnitude, unsignedNumber text = some magnitude := by
  rw [takeDigits_ten] at taken
  obtain ⟨front, rest⟩ := Prod.mk.inj taken
  have all : text.all isdigit = true := List.all_eq_true.mpr (List.dropWhile_eq_nil_iff.mp rest)
  have some : text ≠ [] := by
    rintro rfl
    cases front
  exact ⟨_, if_pos ⟨some, all⟩⟩

/-! ## Reading a number -/

/-- Taking off the sign is what a number's spelling does, once its lead is skipped. -/
theorem numberOf_skipLead {text unsigned : Text} {negative : Bool}
    (sign : takeSign (text.dropWhile isspace) = (negative, unsigned)) :
    numberOf (skipLead text) = (unsignedNumber unsigned).map fun magnitude : Nat =>
      if negative then -(magnitude : Int) else (magnitude : Int) := by
  rw [skipLead]
  generalize text.dropWhile isspace = front at sign
  by_cases minus : ∃ rest, front = 45 :: rest
  · obtain ⟨rest, rfl⟩ := minus
    obtain ⟨rfl, rfl⟩ := Prod.mk.inj sign
    rfl
  have positive : ∀ rest, front ≠ 45 :: rest := fun rest same => minus ⟨rest, same⟩
  by_cases plus : ∃ rest, front = 43 :: rest
  · obtain ⟨rest, rfl⟩ := plus
    obtain ⟨rfl, rfl⟩ := Prod.mk.inj sign
    cases rest with
    | nil => rfl
    | cons byte rest =>
        cases digit : isdigit byte with
        | true =>
            simp only [digit, if_true]
            rw [numberOf]
            · rfl
            · intro other same
              rw [(List.cons.inj same).1] at digit
              cases digit
        | false =>
            have none : unsignedNumber (byte :: rest) = none :=
              if_neg fun whole => by simp [digit] at whole
            simp only [digit, Bool.false_eq_true, if_false, none]
            rfl
  · have signless : takeSign front = (false, front) := by
      rw [takeSign]
      · exact positive
      · exact fun rest same => plus ⟨rest, same⟩
    rw [signless] at sign
    obtain ⟨rfl, rfl⟩ := Prod.mk.inj sign
    split
    · exact absurd ⟨_, rfl⟩ plus
    · rw [numberOf]
      · rfl
      · exact positive

/-- A number is read up to its end, and as the nearest one in the limits. -/
theorem strtol_of_numberOf {text : Text} {number : Int}
    (spells : numberOf (skipLead text) = some number) :
    strtol text .decimal = (saturate number, []) := by
  cases sign : takeSign (text.dropWhile isspace) with
  | mk negative unsigned =>
      rw [numberOf_skipLead sign] at spells
      obtain ⟨magnitude, digits, rfl⟩ := Option.map_eq_some_iff.mp spells
      obtain ⟨digit, digits, taken, value⟩ := takeDigits_of_unsignedNumber digits
      rw [strtol, sign]
      simp only [announcedBase, taken, value]

/-- Only numbers are read up to their end, and the empty text. -/
theorem numberOf_of_strtol {text : Text} (whole : (strtol text .decimal).2 = []) :
    text = [] ∨ ∃ number, numberOf (skipLead text) = some number := by
  cases sign : takeSign (text.dropWhile isspace) with
  | mk negative unsigned =>
      rw [strtol, sign] at whole
      simp only [announcedBase] at whole
      rw [numberOf_skipLead sign]
      cases taken : takeDigits 10 unsigned with
      | mk digits rest =>
          rw [taken] at whole
          cases digits with
          | nil => exact .inl whole
          | cons digit digits =>
              have ends : rest = [] := whole
              rw [ends] at taken
              obtain ⟨magnitude, spells⟩ := unsignedNumber_of_takeDigits taken
              exact .inr ⟨_, by rw [spells]; rfl⟩

/-- What spells a number has no lead. -/
theorem skipLead_of_numberOf {text : Text} {number : Int} (spells : numberOf text = some number) :
    skipLead text = text := by
  have first : ∀ byte rest, text = byte :: rest → byte = 45 ∨ isdigit byte = true := by
    rintro byte rest rfl
    by_cases minus : byte = 45
    · exact .inl minus
    · rw [numberOf] at spells
      · obtain ⟨magnitude, digits, -⟩ := Option.map_eq_some_iff.mp spells
        rw [unsignedNumber] at digits
        split at digits
        · rename_i whole
          exact .inr (List.all_eq_true.mp whole.2 byte List.mem_cons_self)
        · cases digits
      · exact fun other same => minus (List.cons.inj same).1
  cases text with
  | nil => rfl
  | cons byte rest =>
      have dark : isspace byte = false ∧ byte ≠ 43 := by
        rcases first byte rest rfl with rfl | digit
        · decide
        · exact ⟨isspace_of_isdigit digit, fun same => by rw [same] at digit; cases digit⟩
      rw [skipLead, List.dropWhile_cons_of_neg (by rw [dark.1]; exact Bool.false_ne_true)]
      split
      · rename_i same
        exact absurd (List.cons.inj same).1 dark.2
      · rfl

theorem takeDigits_append {digits : List Nat} (bound : ∀ digit ∈ digits, digit < 10) {rest : Text}
    (ends : rest.head?.any isdigit = false) :
    takeDigits 10 (digits.map digitByte ++ rest) = (digits, rest) := by
  induction digits with
  | nil =>
      cases rest with
      | nil => rfl
      | cons byte rest =>
          have other : isdigit byte = false := ends
          rw [List.map_nil, List.nil_append, takeDigits, digitIn_ten, other]
          rfl
  | cons digit digits ih =>
      have first := digitIn_digitByte (by decide : 10 ≤ 16) (bound digit List.mem_cons_self)
      have later := ih fun other member => bound other (List.mem_cons_of_mem _ member)
      rw [List.map_cons, List.cons_append, takeDigits, first]
      simp only
      rw [later]

/-- A number followed by something else is read up to there. -/
theorem strtol_decimalText_append (number : Int) {rest : Text}
    (ends : rest.head?.any isdigit = false) :
    strtol (decimalText number ++ rest) .decimal = (saturate number, rest) := by
  obtain ⟨digit, digits, spelled, -⟩ := leadingDigits_cons 10 number.natAbs
  have bound : ∀ digit ∈ leadingDigits 10 number.natAbs, digit < 10 := fun _ =>
    leadingDigits_lt (by decide)
  have numeral_eq : numeral 10 number.natAbs = digitByte digit :: digits.map digitByte := by
    rw [numeral, spelled, List.map_cons]
  have lower : 48 ≤ digitByte digit := digitByte_bound (bound digit (spelled ▸ List.mem_cons_self))
  have sign := @takeSign_signed number _ lower (digits.map digitByte ++ rest)
  have taken := takeDigits_append bound ends
  rw [spelled] at taken
  rw [strtol, decimalText, List.append_assoc, numeral_eq, List.cons_append, sign]
  simp only [announcedBase]
  rw [← List.cons_append, ← List.map_cons, taken]
  simp only
  rw [← spelled, ofDigits_leadingDigits, signed_natAbs]

end Foundation
