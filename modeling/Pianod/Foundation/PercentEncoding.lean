import Pianod.Foundation.Text

/-!
# Percent-encoding

A text is percent-encoded by writing some of its bytes, among them every percent sign, as a percent
sign and two hexadecimal digits of either case.
-/

namespace Foundation

/-- The byte that starts an escape. -/
def percent : UInt8 := 37

/-- The value of a hexadecimal digit. -/
def hexValue (digit : UInt8) : Option UInt8 :=
  if 48 ≤ digit ∧ digit ≤ 57 then some (digit - 48)
  else if 97 ≤ digit ∧ digit ≤ 102 then some (digit - 87)
  else if 65 ≤ digit ∧ digit ≤ 70 then some (digit - 55)
  else none

/-- A code stands for a text. -/
inductive PercentEncodes : Text → Text → Prop where
  | nil : PercentEncodes [] []
  | bare {byte : UInt8} {text code : Text} (plain : byte ≠ percent)
      (rest : PercentEncodes text code) : PercentEncodes (byte :: text) (byte :: code)
  | escaped {high low left right : UInt8} {text code : Text} (first : hexValue high = some left)
      (second : hexValue low = some right) (rest : PercentEncodes text code) :
      PercentEncodes ((left * 16 + right) :: text) (percent :: high :: low :: code)

/-- A code has an escape that is not followed by two digits, or that stands for a control
character. -/
inductive PercentMalformed : Text → Prop where
  | cut {code : Text} (bad : ∀ high low rest, code = high :: low :: rest →
      hexValue high = none ∨ hexValue low = none) : PercentMalformed (percent :: code)
  | control {high low left right : UInt8} {code : Text} (first : hexValue high = some left)
      (second : hexValue low = some right) (under : left * 16 + right < 32) :
      PercentMalformed (percent :: high :: low :: code)
  | bare {byte : UInt8} {code : Text} (plain : byte ≠ percent) (rest : PercentMalformed code) :
      PercentMalformed (byte :: code)
  | escaped {high low left right : UInt8} {code : Text} (first : hexValue high = some left)
      (second : hexValue low = some right) (rest : PercentMalformed code) :
      PercentMalformed (percent :: high :: low :: code)

variable {text code : Text}

namespace PercentEncodes

/-- A code without escapes stands for itself. -/
theorem eq_of_not_mem (encodes : PercentEncodes text code) (plain : percent ∉ code) :
    text = code := by
  induction encodes with
  | nil => rfl
  | bare _ _ ih => rw [ih fun later => plain (List.mem_cons_of_mem _ later)]
  | escaped => exact absurd List.mem_cons_self plain

theorem length_le (encodes : PercentEncodes text code) : text.length ≤ code.length := by
  induction encodes with
  | nil => exact Nat.le_refl 0
  | bare _ _ ih => exact Nat.succ_le_succ ih
  | escaped _ _ _ ih => exact Nat.succ_le_succ (ih.trans (Nat.le_add_right _ 2))

/-- Every escape makes a code longer. -/
theorem length_lt_of_mem (encodes : PercentEncodes text code) (escape : percent ∈ code) :
    text.length < code.length := by
  induction encodes with
  | nil => cases escape
  | bare plain _ ih =>
      rcases List.mem_cons.mp escape with rfl | later
      · exact absurd rfl plain
      · exact Nat.succ_lt_succ (ih later)
  | escaped _ _ rest _ =>
      exact Nat.succ_lt_succ (Nat.lt_succ_of_le (rest.length_le.trans (Nat.le_succ _)))

/-- A byte that cannot be part of an escape stands for itself. -/
theorem mem_of_mem {byte : UInt8} (encodes : PercentEncodes text code)
    (other : byte ≠ percent ∧ hexValue byte = none) (member : byte ∈ code) : byte ∈ text := by
  induction encodes with
  | nil => exact member
  | bare _ _ ih =>
      rcases List.mem_cons.mp member with rfl | later
      · exact List.mem_cons_self
      · exact List.mem_cons_of_mem _ (ih later)
  | escaped first second _ ih =>
      obtain ⟨escape, digit⟩ := other
      rcases List.mem_cons.mp member with rfl | later
      · exact absurd rfl escape
      rcases List.mem_cons.mp later with rfl | later
      · exact absurd first (digit ▸ nofun)
      rcases List.mem_cons.mp later with rfl | later
      · exact absurd second (digit ▸ nofun)
      · exact List.mem_cons_of_mem _ (ih later)

/-- A code stands for one text only. -/
theorem unique {other : Text} (encodes : PercentEncodes text code)
    (also : PercentEncodes other code) : text = other := by
  induction encodes generalizing other with
  | nil =>
      cases also
      rfl
  | bare plain rest ih =>
      cases also with
      | bare _ later => rw [ih later]
      | escaped => exact absurd rfl plain
  | escaped first second rest ih =>
      cases also with
      | bare plain => exact absurd rfl plain
      | escaped high low later =>
          rw [first, Option.some.injEq] at high
          rw [second, Option.some.injEq] at low
          rw [high, low, ih later]

end PercentEncodes

theorem PercentMalformed.mem (malformed : PercentMalformed code) : percent ∈ code := by
  induction malformed with
  | cut | control | escaped => exact List.mem_cons_self
  | bare _ _ ih => exact List.mem_cons_of_mem _ ih

end Foundation
