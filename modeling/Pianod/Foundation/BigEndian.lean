import Mathlib.Tactic.Ring
import Pianod.Foundation.Text

/-!
# Numbers in network byte order

A word of a given width is written as its base-256 digits, the most significant first.  Reading
the digits back gives the number modulo the capacity of the word.
-/

namespace Foundation

/-- The digits of a number in network byte order. -/
def bigEndian : Nat → Nat → Text
  | 0, _ => []
  | width + 1, number => UInt8.ofNat (number / 256 ^ width) :: bigEndian width number

/-- The number with the given digits. -/
def ofBigEndian : Text → Nat
  | [] => 0
  | digit :: digits => digit.toNat * 256 ^ digits.length + ofBigEndian digits

@[simp]
theorem length_bigEndian (width number : Nat) : (bigEndian width number).length = width := by
  induction width with
  | zero => rfl
  | succ width ih => simp [bigEndian, ih]

/-- Reading a word back gives the number modulo the word's capacity. -/
theorem ofBigEndian_bigEndian (width number : Nat) :
    ofBigEndian (bigEndian width number) = number % 256 ^ width := by
  induction width with
  | zero => simp [bigEndian, ofBigEndian, Nat.mod_one]
  | succ width ih =>
      have digit : (UInt8.ofNat (number / 256 ^ width)).toNat = number / 256 ^ width % 256 := by
        simp
      rw [bigEndian, ofBigEndian, length_bigEndian, ih, digit, pow_succ, Nat.mod_mul]
      ring

/-- A wide word is a word of its high digits followed by one of its low digits. -/
theorem bigEndian_add (high low number : Nat) :
    bigEndian (high + low) number = bigEndian high (number / 256 ^ low) ++
    bigEndian low number := by
  induction high with
  | zero => simp [bigEndian]
  | succ high ih =>
      rw [Nat.succ_add, bigEndian, bigEndian, ih, List.cons_append, Nat.div_div_eq_div_mul,
        ← pow_add, Nat.add_comm low high]

end Foundation
