import Pianod.Foundation.MachineInt
import Pianod.Foundation.Text

/-!
# Strings in allocated blocks

A block of memory has a size, and a string in it ends with the first NUL.  The string functions of
the C library do not know the size; where they would leave the block, the program is undefined.
-/

namespace Foundation

open FallibleRun

namespace StringBlock

/-- Allocate a block. What it contains is arbitrary, and none is larger than half of all memory. -/
def malloc (content : Nat → UInt8) (size : Nat) : Option Text :=
  if size < 2 ^ 63 then some ((List.range size).map content) else none

/-- Write bytes from a place on. -/
def write (block : Text) (place : Nat) (bytes : Text) : Except Fault Text :=
  if place + bytes.length ≤ block.length then
    .ok (block.take place ++ bytes ++ block.drop (place + bytes.length))
  else .error .outOfBounds

/-- The byte at an index. -/
def byteAt (block : Text) (index : Int) : Except Fault UInt8 :=
  if index < 0 then .error .outOfBounds
  else match block[index.toNat]? with
    | none => .error .outOfBounds
    | some byte => .ok byte

/-- Write a byte at an index. -/
def setByte (block : Text) (index : Int) (byte : UInt8) : Except Fault Text :=
  if index < 0 then .error .outOfBounds else write block index.toNat [byte]

/-- The C library's `strlen`. -/
def strlen (block : Text) : Except Fault Nat :=
  if 0 ∈ block then .ok block.cString.length else .error .outOfBounds

/-- The C library's `strcpy`. -/
def strcpy (block text : Text) : Except Fault Text := write block 0 (text ++ [0])

/-- The C library's `strcat`. -/
def strcat (block text : Text) : Except Fault Text := do
  let place ← strlen block
  write block place (text ++ [0])

/-- A string and its terminator are at the start of a block of some size. -/
structure Holds (block : Text) (size : Nat) (text : Text) : Prop where
  size : block.length = size
  free : Text.NulFree text
  ends : ∃ rest, block = text ++ 0 :: rest

variable {block text front back rest : Text} {size total : Nat}

theorem length_of_malloc {content : Nat → UInt8} (granted : malloc content size = some block) :
    block.length = size := by
  rw [malloc, Option.ite_none_right_eq_some] at granted
  rw [← Option.some.inj granted.2, List.length_map, List.length_range]

/-- A string fits in its block with the terminator. -/
theorem Holds.length_lt (holds : Holds block size text) : text.length < size := by
  obtain ⟨rest, parts⟩ := holds.ends
  rw [← holds.size, parts, List.length_append, List.length_cons]
  omega

theorem strlen_eq (holds : Holds block size text) : strlen block = .ok text.length := by
  obtain ⟨rest, parts⟩ := holds.ends
  have ends : block.cString = text := by
    rw [parts, Text.cString,
      List.takeWhile_append_of_pos fun byte member => decide_eq_true (holds.free byte member),
      List.takeWhile_cons_of_neg (by decide), List.append_nil]
  rw [strlen, if_pos (by rw [parts]; simp), ends]

theorem setByte_natCast (block : Text) (place : Nat) (byte : UInt8) :
    setByte block place byte = write block place [byte] := by
  rw [setByte, if_neg (by omega), Int.toNat_natCast]

/-- What is written after the front of a block is there, or there is no room for the total. -/
theorem write_outcome (written : block = front ++ rest) (sized : block.length = size)
    (enough : front.length + back.length ≤ total + 1) :
    Outcome (fun after => after.length = size ∧ ∃ rest, after = front ++ back ++ rest)
      (fun _ => size ≤ total) (write block front.length back) := by
  rw [write]
  split
  · rename_i inside
    refine ⟨?_, block.drop (front.length + back.length), ?_⟩
    · simp only [List.length_append, List.length_take, List.length_drop]
      omega
    · rw [written, List.take_left]
  · rename_i beyond
    rw [outcome_error]
    omega

/-- A string that is written after the front of a block continues it. -/
theorem write_string_outcome (written : block = front ++ rest) (sized : block.length = size)
    (free : Text.NulFree (front ++ back)) (enough : front.length + back.length ≤ total) :
    Outcome (Holds · size (front ++ back)) (fun _ => size ≤ total)
      (write block front.length (back ++ [0])) := by
  have room : front.length + (back ++ [0]).length ≤ total + 1 := by
    rw [List.length_append, List.length_singleton]
    omega
  refine (write_outcome written sized room).imp fun after known => ?_
  obtain ⟨same, rest, parts⟩ := known
  exact ⟨same, free, rest, by rw [parts]; simp⟩

/-- A byte takes the place of the terminator, and a terminator is put after it. -/
theorem extend_outcome (holds : Holds block size text) {byte : UInt8} (other : byte ≠ 0)
    (enough : text.length + 1 ≤ total) :
    Outcome (Holds · size (text ++ [byte])) (fun _ => size ≤ total)
      (write block text.length [byte] >>= fun after => write after (text.length + 1) [0]) := by
  obtain ⟨rest, parts⟩ := holds.ends
  have room : text.length + [byte].length ≤ total + 1 := Nat.le_succ_of_le enough
  refine (write_outcome parts holds.size room).bind fun after known => ?_
  obtain ⟨same, rest, written⟩ := known
  have whole : Text.NulFree (text ++ [byte]) :=
    holds.free.append fun last member => List.mem_singleton.mp member ▸ other
  have ended := @write_string_outcome after (text ++ [byte]) [] rest size total written same
    (by rwa [List.append_nil]) (by simpa using enough)
  rw [List.length_append, List.append_nil] at ended
  exact ended

/-- A string is copied to a block, or there is no room for it. -/
theorem strcpy_outcome (sized : block.length = size) (free : Text.NulFree text)
    (enough : text.length ≤ total) :
    Outcome (Holds · size text) (fun _ => size ≤ total) (strcpy block text) :=
  @write_string_outcome block [] text block size total rfl sized free (by simpa using enough)

/-- A string is appended, or there is no room for the total. -/
theorem strcat_outcome (holds : Holds block size front) (free : Text.NulFree back)
    (enough : front.length + back.length ≤ total) :
    Outcome (Holds · size (front ++ back)) (fun _ => size ≤ total) (strcat block back) := by
  obtain ⟨rest, written⟩ := holds.ends
  rw [strcat, strlen_eq holds]
  exact write_string_outcome written holds.size (holds.free.append free) enough

end StringBlock

end Foundation
