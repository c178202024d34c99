import Mathlib.Tactic.Common

/-!
# Frames of known sizes

A stream is cut into frames whose sizes are known beforehand.  A frame is taken when all of its
bytes have arrived, so the frames do not depend on where the stream was interrupted.
-/

namespace Foundation

variable {α : Type*}

/-- The frames that are complete, the sizes of the others, and the bytes that have arrived
of them. -/
structure Framed (α : Type*) where
  frames : List (List α)
  sizes : List Nat
  rest : List α

def framed : List Nat → List α → Framed α
  | [], stream => ⟨[], [], stream⟩
  | size :: sizes, stream =>
      if stream.length < size then ⟨[], size :: sizes, stream⟩
      else
        let later := framed sizes (stream.drop size)
        ⟨stream.take size :: later.frames, later.sizes, later.rest⟩

@[simp]
theorem framed_nil (stream : List α) : framed [] stream = ⟨[], [], stream⟩ := rfl

theorem framed_of_lt {size : Nat} {sizes : List Nat} {stream : List α}
    (short : stream.length < size) :
    framed (size :: sizes) stream = ⟨[], size :: sizes, stream⟩ := if_pos short

theorem framed_of_le {size : Nat} {sizes : List Nat} {stream : List α}
    (whole : size ≤ stream.length) :
    framed (size :: sizes) stream = ⟨stream.take size :: (framed sizes (stream.drop size)).frames,
      (framed sizes (stream.drop size)).sizes, (framed sizes (stream.drop size)).rest⟩ :=
  if_neg (Nat.not_lt.mpr whole)

/-- What follows an interruption completes the frame that was interrupted, and then further ones. -/
theorem framed_append (sizes : List Nat) (front back : List α) :
    framed sizes (front ++ back) =
      let before := framed sizes front
      let after := framed before.sizes (before.rest ++ back)
      ⟨before.frames ++ after.frames, after.sizes, after.rest⟩ := by
  induction sizes generalizing front with
  | nil => rfl
  | cons size sizes induction =>
      by_cases short : front.length < size
      · rw [framed_of_lt short]
        rfl
      · have whole := Nat.not_lt.mp short
        have longer : size ≤ (front ++ back).length := by
          rw [List.length_append]
          omega
        rw [framed_of_le whole, framed_of_le longer, List.take_append_of_le_length whole,
          List.drop_append_of_le_length whole, induction]
        rfl

/-- The bytes that are left do not make up the next frame. -/
theorem length_rest_lt {sizes later : List Nat} {stream : List α} {size : Nat}
    (more : (framed sizes stream).sizes = size :: later) :
    (framed sizes stream).rest.length < size := by
  induction sizes generalizing stream with
  | nil => cases more
  | cons first sizes induction =>
      by_cases short : stream.length < first
      · rw [framed_of_lt short] at more ⊢
        cases more
        exact short
      · rw [framed_of_le (Nat.not_lt.mp short)] at more ⊢
        exact induction more

/-- The sizes that are left are the last ones. -/
theorem sizes_suffix (sizes : List Nat) (stream : List α) :
    (framed sizes stream).sizes <:+ sizes := by
  induction sizes generalizing stream with
  | nil => exact List.suffix_refl []
  | cons size sizes induction =>
      by_cases short : stream.length < size
      · exact ⟨[], congrArg Framed.sizes (framed_of_lt short)⟩
      · rw [framed_of_le (Nat.not_lt.mp short)]
        exact (induction _).trans (List.suffix_cons size sizes)

/-- Each size is left or has a frame. -/
theorem length_frames (sizes : List Nat) (stream : List α) :
    (framed sizes stream).frames.length + (framed sizes stream).sizes.length = sizes.length := by
  induction sizes generalizing stream with
  | nil => rfl
  | cons size sizes induction =>
      by_cases short : stream.length < size
      · rw [framed_of_lt short]
        exact Nat.zero_add _
      · rw [framed_of_le (Nat.not_lt.mp short)]
        have later := induction (stream.drop size)
        dsimp only
        rw [List.length_cons, List.length_cons]
        omega

/-- The frames that were taken are those of the first sizes. -/
theorem drop_length_frames (sizes : List Nat) (stream : List α) :
    sizes.drop (framed sizes stream).frames.length = (framed sizes stream).sizes := by
  obtain ⟨taken, whole⟩ := sizes_suffix sizes stream
  have total := length_frames sizes stream
  have count : (framed sizes stream).frames.length = taken.length := by
    have parts := congrArg List.length whole
    rw [List.length_append] at parts
    omega
  rw [count]
  conv_lhs => rw [← whole]
  exact List.drop_left

end Foundation
