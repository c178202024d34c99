import Mathlib.Data.List.Induction

/-!
# Buffered output

What is put into a stream waits in its buffer until some of it is transferred to the file.  A
transfer may fail, which the stream remembers; the last one is made when the stream is closed.
-/

namespace Foundation

/-- What happens to the buffer when an item is put. -/
inductive Transfer where
  | keep
  | flush (count : Nat)
  | fail (count : Nat)
deriving DecidableEq, Repr

/-- A stream that is written: what has reached the file, what waits, and the error indicator. -/
structure BufferedFile (α : Type*) where
  written : List α
  buffered : List α
  failed : Bool
deriving DecidableEq, Repr

namespace BufferedFile

variable {α : Type*}

/-- The stream of an empty file. -/
def opened : BufferedFile α := ⟨[], [], false⟩

/-- Put one item.  A transfer that fails may have written a part of the buffer and loses
the rest. -/
def put (file : BufferedFile α) (item : α) : Transfer → BufferedFile α
  | .keep => { file with buffered := file.buffered ++ [item] }
  | .flush count => { file with
      written := file.written ++ (file.buffered ++ [item]).take count
      buffered := (file.buffered ++ [item]).drop count }
  | .fail count => ⟨file.written ++ (file.buffered ++ [item]).take count, [], true⟩

/-- Put items into an empty file, with the transfer made at each place. -/
def putAll (transfers : Nat → Transfer) (items : List α) : BufferedFile α :=
  items.zipIdx.foldl (fun file place => file.put place.1 (transfers place.2)) opened

/-- What the file holds once the stream is closed; the count is what a failing transfer writes. -/
def close (file : BufferedFile α) : Option Nat → List α
  | none => file.written ++ file.buffered
  | some count => file.written ++ file.buffered.take count

theorem putAll_concat (transfers : Nat → Transfer) (items : List α) (item : α) :
    putAll transfers (items ++ [item]) = (putAll transfers items).put item
      (transfers items.length) := by
  rw [putAll, List.zipIdx_append, List.foldl_append]
  simp [putAll]

/-- Without transfers everything stays in the buffer. -/
theorem putAll_keep (items : List α) : putAll (fun _ => .keep) items = ⟨[], items, false⟩ := by
  induction items using List.reverseRecOn with
  | nil => rfl
  | append_singleton items item ih => rw [putAll_concat, ih, put]

/-- A stream without an error has put aside or written everything. -/
theorem written_append_buffered {transfers : Nat → Transfer} {items : List α}
    (sound : (putAll transfers items).failed = false) :
    (putAll transfers items).written ++ (putAll transfers items).buffered = items := by
  induction items using List.reverseRecOn with
  | nil => rfl
  | append_singleton items item ih =>
      rw [putAll_concat] at sound ⊢
      cases transfer : transfers items.length with
      | keep =>
          rw [transfer] at sound
          rw [put, ← List.append_assoc, ih sound]
      | flush count =>
          rw [transfer] at sound
          rw [put, List.append_assoc, List.take_append_drop, ← List.append_assoc, ih sound]
      | fail count =>
          rw [transfer] at sound
          cases sound

/-- A stream without an error that is closed without losing an item leaves the file complete. -/
theorem close_eq_iff {transfers : Nat → Transfer} {items : List α} {last : Option Nat}
    (sound : (putAll transfers items).failed = false) :
    (putAll transfers items).close last = items ↔
      ∀ count ∈ last, (putAll transfers items).buffered.length ≤ count := by
  have whole := written_append_buffered sound
  cases last with
  | none => exact ⟨fun _ count member => (nomatch member), fun _ => whole⟩
  | some count =>
      rw [close]
      constructor
      · rintro same _ ⟨⟩
        have equal := List.append_cancel_left (same.trans whole.symm)
        have length := congrArg List.length equal
        rw [List.length_take] at length
        omega
      · intro enough
        rw [List.take_of_length_le (enough count rfl), whole]

end BufferedFile

end Foundation
