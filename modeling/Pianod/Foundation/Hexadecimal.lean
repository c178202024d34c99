import Pianod.Foundation.Strtol

/-!
# Hexadecimal digits of bytes

A byte is printed as two hexadecimal digits, and two such digits spell a byte.  What is printed of a
byte that was spelled are its digits in lower case.
-/

namespace Foundation

/-- The two digits of a byte. -/
def byteDigits (byte : UInt8) : Text :=
  [digitByte (byte.toNat / 16), digitByte (byte.toNat % 16)]

/-- The byte that the values of two digits spell. -/
def spelledByte (high low : Nat) : UInt8 := UInt8.ofNat (high * 16 + low)

/-- The value of a hexadecimal digit. -/
def nibble (digit : UInt8) : Nat := (digitIn 16 digit).getD 0

/-- The bytes that pairs of digits spell. -/
def spelledBytes : Text → List UInt8
  | high :: low :: text => spelledByte (nibble high) (nibble low) :: spelledBytes text
  | _ => []

/-- A text without a pair of bytes has one byte at most. -/
theorem nil_or_singleton {text : Text}
    (short : ∀ high low rest, text = high :: low :: rest → False) :
    text = [] ∨ ∃ last, text = [last] := by
  rcases text with - | ⟨high, - | ⟨low, rest⟩⟩
  · exact .inl rfl
  · exact .inr ⟨high, rfl⟩
  · exact (short high low rest rfl).elim

/-- A text of hexadecimal digits only. -/
def HexDigits (text : Text) : Prop := ∀ byte ∈ text, (digitIn 16 byte).isSome = true

/-- Which bytes are hexadecimal digits. -/
theorem isSome_digitIn_sixteen {byte : UInt8} : (digitIn 16 byte).isSome = true ↔
    48 ≤ byte ∧ byte ≤ 57 ∨ 97 ≤ byte ∧ byte ≤ 102 ∨ 65 ≤ byte ∧ byte ≤ 70 := by
  simp only [digitIn, digitValue, UInt8.le_iff_toNat_le, UInt8.reduceToNat]
  by_cases digit : 48 ≤ byte.toNat ∧ byte.toNat ≤ 57
  · have small : byte.toNat - 48 < 16 := by omega
    simp [digit, small]
  rw [if_neg digit]
  by_cases letter : 97 ≤ byte.toNat ∧ byte.toNat ≤ 122
  · rw [if_pos letter]
    simp only [Option.isSome_ite]
    omega
  rw [if_neg letter]
  by_cases capital : 65 ≤ byte.toNat ∧ byte.toNat ≤ 90
  · rw [if_pos capital]
    simp only [Option.isSome_ite]
    omega
  · rw [if_neg capital]
    simp only [Option.isSome_none, Bool.false_eq_true, false_iff]
    omega

/-- A digit's value is spelled by the digit in lower case. -/
theorem digitByte_of_digitIn {byte : UInt8} {digit : Nat} (reads : digitIn 16 byte = some digit) :
    digit < 16 ∧ digitByte digit = Text.toLower byte := by
  have bound := byte.toNat_lt
  rw [digitIn] at reads
  cases value : digitValue byte with
  | none => simp [value] at reads
  | some read =>
      simp only [value, Option.ite_none_right_eq_some, Option.some.injEq] at reads
      obtain ⟨small, rfl⟩ := reads
      refine ⟨small, ?_⟩
      rw [digitByte, Text.toLower, ← UInt8.toNat_inj]
      rw [digitValue] at value
      simp only [UInt8.le_iff_toNat_le, UInt8.reduceToNat] at value ⊢
      split at value
      · obtain rfl := Option.some.inj value
        rw [if_pos (by omega), if_neg (by omega), UInt8.toNat_ofNat']
        omega
      split at value
      · obtain rfl := Option.some.inj value
        rw [if_neg (by omega), if_neg (by omega), UInt8.toNat_ofNat']
        omega
      split at value
      · obtain rfl := Option.some.inj value
        rw [if_neg (by omega), if_pos (by omega), UInt8.toNat_ofNat', UInt8.toNat_add]
        simp only [UInt8.reduceToNat]
        omega
      · cases value

/-- The digits of a spelled byte are the ones that spelled it. -/
theorem byteDigits_spelledByte {high low : Nat} (upper : high < 16) (lower : low < 16) :
    byteDigits (spelledByte high low) = [digitByte high, digitByte low] := by
  have value : (spelledByte high low).toNat = high * 16 + low := by
    rw [spelledByte, UInt8.toNat_ofNat']
    omega
  rw [byteDigits, value, show (high * 16 + low) / 16 = high by omega,
    show (high * 16 + low) % 16 = low by omega]

theorem digitByte_nibble {byte : UInt8} (digit : (digitIn 16 byte).isSome = true) :
    nibble byte < 16 ∧ digitByte (nibble byte) = Text.toLower byte := by
  obtain ⟨value, reads⟩ := Option.isSome_iff_exists.mp digit
  rw [nibble, reads]
  exact digitByte_of_digitIn reads

theorem nibble_digitByte {digit : Nat} (small : digit < 16) : nibble (digitByte digit) = digit := by
  rw [nibble, digitIn_digitByte (Nat.le_refl 16) small]
  rfl

/-- Printing what pairs of digits spell turns the digits to lower case. -/
theorem digits_spelledBytes {text : Text} (digits : HexDigits text) (even : text.length % 2 = 0) :
    (spelledBytes text).flatMap byteDigits = Text.foldCase text := by
  induction text using spelledBytes.induct with
  | case1 high low text ih =>
      obtain ⟨large, first⟩ := digitByte_nibble (digits high List.mem_cons_self)
      obtain ⟨small, second⟩ := digitByte_nibble (digits low (by simp))
      have rest := ih (fun byte member => digits byte (by simp [member])) (by
        simp only [List.length_cons] at even
        omega)
      rw [spelledBytes, List.flatMap_cons, byteDigits_spelledByte large small, first, second, rest]
      rfl
  | case2 text short =>
      rcases nil_or_singleton short with rfl | ⟨last, rfl⟩
      · rfl
      · cases even

/-! ## Printed bytes -/

/-- A byte is printed as two digits. -/
theorem length_digits (code : Text) : (code.flatMap byteDigits).length = 2 * code.length := by
  induction code with
  | nil => rfl
  | cons byte code induction =>
      rw [List.flatMap_cons, List.length_append, induction, List.length_cons, byteDigits]
      change 2 + _ = _
      omega

theorem digits_hexDigits (code : Text) : HexDigits (code.flatMap byteDigits) := by
  intro letter member
  obtain ⟨byte, -, written⟩ := List.mem_flatMap.mp member
  have bound := byte.toNat_lt
  rcases List.mem_cons.mp written with rfl | rest
  · rw [digitIn_digitByte (Nat.le_refl 16) (by omega)]
    rfl
  · rw [List.mem_singleton.mp rest, digitIn_digitByte (Nat.le_refl 16) (by omega)]
    rfl

end Foundation
