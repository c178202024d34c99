import Pianod.Foundation.Text

/-!
# Base64

Groups of three bytes are written as four letters of an alphabet of 64; a last group that is not
full is padded.
-/

namespace Foundation

def base64Alphabet : Text :=
  ascii "ABCDEFGHIJKLMNOPQRSTUVWXYZabcdefghijklmnopqrstuvwxyz0123456789+/"

/-- The byte that fills up a last group. -/
def base64Pad : UInt8 := 61

/-- The place of a letter in the alphabet. -/
def base64Value (letter : UInt8) : Option Nat := base64Alphabet.findIdx? (· == letter)

/-- The letter at a place of the alphabet. -/
def base64Letter (place : Nat) : UInt8 := base64Alphabet.getD place 0

/-- Three bytes from four places. -/
def base64Bytes (first second third fourth : Nat) : List UInt8 :=
  [UInt8.ofNat (first * 4 + second / 16), UInt8.ofNat (second % 16 * 16 + third / 4),
    UInt8.ofNat (third % 4 * 64 + fourth)]

/-- What a text in Base64 stands for. -/
def base64Decode : Text → Option (List UInt8)
  | [] => some []
  | a :: b :: c :: d :: rest =>
      if d = base64Pad ∧ rest = [] then
        if c = base64Pad then
          match base64Value a, base64Value b with
          | some first, some second =>
              if second % 16 = 0 then some ((base64Bytes first second 0 0).take 1) else none
          | _, _ => none
        else
          match base64Value a, base64Value b, base64Value c with
          | some first, some second, some third =>
              if third % 4 = 0 then some ((base64Bytes first second third 0).take 2) else none
          | _, _, _ => none
      else
        match base64Value a, base64Value b, base64Value c, base64Value d with
        | some first, some second, some third, some fourth =>
            (base64Decode rest).map (base64Bytes first second third fourth ++ ·)
        | _, _, _, _ => none
  | _ => none

set_option maxRecDepth 8000 in
/-- A letter is found at its own place, and none of them is the padding. -/
theorem base64Value_letter {place : Nat} (inside : place < 64) :
    base64Value (base64Letter place) = some place ∧ base64Letter place ≠ base64Pad := by
  have known : ∀ place < 64, base64Value (base64Letter place) = some place ∧
      base64Letter place ≠ base64Pad := by decide
  exact known place inside

section Groups

variable {first second third fourth : Nat}

/-- A full group is decoded before what follows it. -/
theorem base64Decode_group (a : first < 64) (b : second < 64) (c : third < 64) (d : fourth < 64)
    (rest : Text) :
    base64Decode (base64Letter first :: base64Letter second :: base64Letter third ::
        base64Letter fourth :: rest) =
      (base64Decode rest).map (base64Bytes first second third fourth ++ ·) := by
  rw [base64Decode, if_neg fun padded => (base64Value_letter d).2 padded.1,
    (base64Value_letter a).1,
    (base64Value_letter b).1, (base64Value_letter c).1, (base64Value_letter d).1]

/-- A last group of two bytes. -/
theorem base64Decode_two (a : first < 64) (b : second < 64) (c : third < 64)
    (zero : third % 4 = 0) :
    base64Decode [base64Letter first, base64Letter second, base64Letter third, base64Pad] =
      some ((base64Bytes first second third 0).take 2) := by
  rw [base64Decode, if_pos ⟨rfl, rfl⟩, if_neg (base64Value_letter c).2, (base64Value_letter a).1,
    (base64Value_letter b).1, (base64Value_letter c).1]
  exact if_pos zero

/-- A last group of one byte. -/
theorem base64Decode_one (a : first < 64) (b : second < 64) (zero : second % 16 = 0) :
    base64Decode [base64Letter first, base64Letter second, base64Pad, base64Pad] =
      some ((base64Bytes first second 0 0).take 1) := by
  rw [base64Decode, if_pos ⟨rfl, rfl⟩, if_pos rfl, (base64Value_letter a).1,
    (base64Value_letter b).1]
  exact if_pos zero

/-- The six bits of each letter put three bytes together again. -/
theorem base64Bytes_split (first second third : UInt8) :
    base64Bytes (first.toNat / 4) (first.toNat % 4 * 16 + second.toNat / 16)
      (second.toNat % 16 * 4 + third.toNat / 64) (third.toNat % 64) = [first, second, third] := by
  have one := first.toNat_lt
  have two := second.toNat_lt
  have three := third.toNat_lt
  have first_eq : first.toNat / 4 * 4 + (first.toNat % 4 * 16 + second.toNat / 16) / 16 =
      first.toNat := by omega
  have second_eq : (first.toNat % 4 * 16 + second.toNat / 16) % 16 * 16 +
      (second.toNat % 16 * 4 + third.toNat / 64) / 4 = second.toNat := by omega
  have third_eq : (second.toNat % 16 * 4 + third.toNat / 64) % 4 * 64 + third.toNat % 64 =
      third.toNat := by omega
  rw [base64Bytes, first_eq, second_eq, third_eq, UInt8.ofNat_toNat, UInt8.ofNat_toNat,
    UInt8.ofNat_toNat]

end Groups

/-! ## Six bits of bytes -/

section Letters

variable (first second third : UInt8)

theorem toNat_first : ((first >>> 2) &&& 0x3f).toNat = first.toNat / 4 := by
  have bound := first.toNat_lt
  rw [UInt8.toNat_and, UInt8.toNat_shiftRight]
  change first.toNat >>> 2 &&& (2 ^ 6 - 1) = _
  rw [Nat.and_two_pow_sub_one_eq_mod, Nat.shiftRight_eq_div_pow]
  omega

theorem toNat_low_two : ((first &&& 0x3) <<< 4).toNat = first.toNat % 4 * 16 := by
  rw [UInt8.toNat_shiftLeft, UInt8.toNat_and]
  change (first.toNat &&& (2 ^ 2 - 1)) <<< 4 % 2 ^ 8 = _
  rw [Nat.and_two_pow_sub_one_eq_mod, Nat.shiftLeft_eq]
  omega

theorem toNat_low_four : ((second &&& 0xf) <<< 2).toNat = second.toNat % 16 * 4 := by
  rw [UInt8.toNat_shiftLeft, UInt8.toNat_and]
  change (second.toNat &&& (2 ^ 4 - 1)) <<< 2 % 2 ^ 8 = _
  rw [Nat.and_two_pow_sub_one_eq_mod, Nat.shiftLeft_eq]
  omega

theorem toNat_second : (((first &&& 0x3) <<< 4) ||| ((second >>> 4) &&& 0xf)).toNat =
    first.toNat % 4 * 16 + second.toNat / 16 := by
  have bound := second.toNat_lt
  have high : ((second >>> 4) &&& 0xf).toNat = second.toNat / 16 := by
    rw [UInt8.toNat_and, UInt8.toNat_shiftRight]
    change second.toNat >>> 4 &&& (2 ^ 4 - 1) = _
    rw [Nat.and_two_pow_sub_one_eq_mod, Nat.shiftRight_eq_div_pow]
    omega
  rw [UInt8.toNat_or, toNat_low_two, high]
  have disjoint := Nat.shiftLeft_add_eq_or_of_lt (show second.toNat / 16 < 2 ^ 4 by omega)
    (first.toNat % 4)
  rw [Nat.shiftLeft_eq] at disjoint
  exact disjoint.symm

theorem toNat_third : (((second &&& 0xf) <<< 2) ||| ((third >>> 6) &&& 0x3)).toNat =
    second.toNat % 16 * 4 + third.toNat / 64 := by
  have bound := third.toNat_lt
  have high : ((third >>> 6) &&& 0x3).toNat = third.toNat / 64 := by
    rw [UInt8.toNat_and, UInt8.toNat_shiftRight]
    change third.toNat >>> 6 &&& (2 ^ 2 - 1) = _
    rw [Nat.and_two_pow_sub_one_eq_mod, Nat.shiftRight_eq_div_pow]
    omega
  rw [UInt8.toNat_or, toNat_low_four, high]
  have disjoint := Nat.shiftLeft_add_eq_or_of_lt (show third.toNat / 64 < 2 ^ 2 by omega)
    (second.toNat % 16)
  rw [Nat.shiftLeft_eq] at disjoint
  exact disjoint.symm

theorem toNat_fourth : (third &&& 0x3f).toNat = third.toNat % 64 := by
  rw [UInt8.toNat_and]
  change third.toNat &&& (2 ^ 6 - 1) = _
  exact Nat.and_two_pow_sub_one_eq_mod _ 6

end Letters

/-! ## Bytes -/

section Bytes

variable (first second third : UInt8)

/-- Three bytes are written as a full group. -/
theorem base64Decode_bytes (rest : Text) :
    base64Decode (base64Letter (first.toNat / 4) ::
        base64Letter (first.toNat % 4 * 16 + second.toNat / 16) ::
        base64Letter (second.toNat % 16 * 4 + third.toNat / 64) ::
        base64Letter (third.toNat % 64) :: rest) =
      (base64Decode rest).map ([first, second, third] ++ ·) := by
  have one := first.toNat_lt
  have two := second.toNat_lt
  have three := third.toNat_lt
  rw [base64Decode_group (by omega) (by omega) (by omega) (by omega), base64Bytes_split]

/-- Two bytes are written as a group with one padding. -/
theorem base64Decode_bytes_two :
    base64Decode [base64Letter (first.toNat / 4),
        base64Letter (first.toNat % 4 * 16 + second.toNat / 16),
        base64Letter (second.toNat % 16 * 4), base64Pad] = some [first, second] := by
  have one := first.toNat_lt
  have two := second.toNat_lt
  have bytes := base64Bytes_split first second 0
  simp only [show (0 : UInt8).toNat = 0 from rfl, Nat.zero_div, Nat.zero_mod, Nat.add_zero] at bytes
  rw [base64Decode_two (by omega) (by omega) (by omega) (by omega), bytes]
  rfl

/-- A byte is written as a group with two paddings. -/
theorem base64Decode_bytes_one :
    base64Decode [base64Letter (first.toNat / 4), base64Letter (first.toNat % 4 * 16), base64Pad,
        base64Pad] = some [first] := by
  have one := first.toNat_lt
  have bytes := base64Bytes_split first 0 0
  simp only [show (0 : UInt8).toNat = 0 from rfl, Nat.zero_div, Nat.zero_mod, Nat.zero_mul,
    Nat.add_zero] at bytes
  rw [base64Decode_one (by omega) (by omega) (by omega), bytes]
  rfl

end Bytes

end Foundation
