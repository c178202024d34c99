import Pianod.Foundation.Text

/-!
# Buffers

C code that works in place has a buffer and places in it.  A string starts at a place and ends
before the next NUL.
-/

namespace Foundation

namespace Buffer

/-- The byte at a place. -/
def byteAt (buffer : Text) (place : Nat) : UInt8 := buffer[place]?.getD 0

/-- The string that starts at a place. -/
def stringAt (buffer : Text) (place : Nat) : Text := Text.cString (buffer.drop place)

/-- The first place from a given one on whose byte lacks a property. -/
def skipWhile (holds : UInt8 → Bool) (buffer : Text) (place : Nat) : Nat :=
  place + ((buffer.drop place).takeWhile holds).length

/-- The C library's `memmove` within a buffer. -/
def memmove (buffer : Text) (dest src count : Nat) : Text :=
  buffer.take dest ++ (buffer.drop src).take count ++ buffer.drop (dest + count)

variable {front back run rest : Text} {byte : UInt8}

@[simp]
theorem byteAt_length (front back : Text) (byte : UInt8) :
    byteAt (front ++ byte :: back) front.length = byte := by
  simp [byteAt]

theorem byteAt_of_drop {buffer : Text} {place : Nat} (left : buffer.drop place = byte :: back) :
    byteAt buffer place = byte := by
  have here := @List.getElem?_drop _ buffer place 0
  rw [left, List.getElem?_cons_zero, Nat.add_zero] at here
  rw [byteAt, ← here]
  rfl

@[simp]
theorem set_length (front back : Text) (old new : UInt8) :
    (front ++ old :: back).set front.length new = front ++ new :: back := by
  simp

/-- A string is what stands before the next NUL. -/
theorem stringAt_length (free : Text.NulFree run) (front rest : Text) :
    stringAt (front ++ run ++ 0 :: rest) front.length = run := by
  have none : ∀ byte ∈ run, decide (byte ≠ 0) = true := fun byte member =>
    decide_eq_true (free byte member)
  rw [stringAt, List.append_assoc, List.drop_left, Text.cString, List.takeWhile_append_of_pos none,
    List.takeWhile_cons, if_neg (by decide), List.append_nil]

/-- A buffer's string ends where a NUL is put. -/
theorem length_stringAt_set {buffer : Text} {place : Nat} (inside : place < buffer.length) :
    (stringAt (buffer.set place 0) 0).length ≤ place := by
  have split : buffer.set place 0 = buffer.take place ++ 0 :: buffer.drop (place + 1) :=
    List.set_eq_take_append_cons_drop.trans (if_pos inside)
  have short : (Text.cString (buffer.take place ++ 0 :: buffer.drop (place + 1))).length ≤
      (buffer.take place).length := by
    generalize buffer.take place = front
    induction front with
    | nil => exact Nat.le_refl 0
    | cons byte front ih =>
        rw [Text.cString, List.cons_append, List.takeWhile_cons]
        split
        · exact Nat.succ_le_succ ih
        · exact Nat.zero_le _
  rw [stringAt, List.drop_zero, split]
  exact short.trans (List.length_take_le _ _)

/-- A string that ends within the front of a buffer stays when the rest is changed. -/
theorem stringAt_append {place : Nat} (ends : 0 ∈ front.drop place) (back : Text) :
    stringAt (front ++ back) place = stringAt front place := by
  have within : place ≤ front.length := by
    by_contra beyond
    rw [List.drop_eq_nil_of_le (by omega)] at ends
    cases ends
  rw [stringAt, stringAt, List.drop_append_of_le_length within]
  generalize front.drop place = string at ends
  induction string with
  | nil => cases ends
  | cons byte string ih =>
      rw [Text.cString, Text.cString, List.cons_append, List.takeWhile_cons, List.takeWhile_cons]
      split
      · rename_i other
        have later : 0 ∈ string := by
          rcases List.mem_cons.mp ends with rfl | later
          · exact absurd rfl (of_decide_eq_true other)
          · exact later
        exact congrArg (byte :: ·) (ih later)
      · rfl

/-- Skipping goes over a run and stops at the byte after it. -/
theorem skipWhile_length {holds : UInt8 → Bool} (all : ∀ byte ∈ run, holds byte = true)
    (stops : holds byte = false) (front rest : Text) :
    skipWhile holds (front ++ run ++ byte :: rest) front.length = (front ++ run).length := by
  rw [skipWhile, List.append_assoc, List.drop_left, List.takeWhile_append_of_pos all,
    List.takeWhile_cons_of_neg (by rw [stops]; exact Bool.false_ne_true), List.append_nil,
    List.length_append]

/-- A byte that stops the skipping may be added at the end. -/
theorem takeWhile_concat {holds : UInt8 → Bool} (stops : holds byte = false) (text : Text) :
    (text ++ [byte]).takeWhile holds = text.takeWhile holds := by
  induction text with
  | nil => exact List.takeWhile_cons_of_neg (by rw [stops]; exact Bool.false_ne_true)
  | cons first text ih => rw [List.cons_append, List.takeWhile_cons, List.takeWhile_cons, ih]

/-- Moving within a buffer keeps its size. -/
theorem length_memmove {buffer : Text} {dest src count : Nat} (source : src + count ≤ buffer.length)
    (target : dest ≤ src) : (memmove buffer dest src count).length = buffer.length := by
  simp only [memmove, List.length_append, List.length_take, List.length_drop]
  omega

/-- Shift the text of a buffer down by one byte; the last byte shifted is still there. -/
theorem memmove_shift (lead byte : UInt8) (run rest : Text) :
    memmove (lead :: run ++ byte :: rest) 0 1 (run.length + 1) = run ++ byte :: byte :: rest := by
  have front : (run ++ byte :: rest).take (run.length + 1) = run ++ [byte] := by
    rw [List.take_append, List.take_of_length_le (Nat.le_succ _), Nat.add_sub_cancel_left]
    rfl
  have back : (run ++ byte :: rest).drop run.length = byte :: rest := List.drop_left
  simp [memmove, front, back]

end Buffer

end Foundation
