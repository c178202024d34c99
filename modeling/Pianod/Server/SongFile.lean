import Pianod.Foundation.BigEndian
import Pianod.Foundation.Framing

/-!
# Files of songs

What a file says about its song: the set-up for the decoder, a table with the sizes of the frames,
and the frames.  Each part stands behind the first place of a pattern that follows the part before
it.
-/

namespace Foundation

variable {α : Type*} [BEq α]

/-- A sequence from the first place on at which a pattern stands. -/
def seek (pattern : List α) : List α → Option (List α)
  | [] => none
  | symbol :: rest =>
      if pattern.isPrefixOf (symbol :: rest) then some (symbol :: rest) else seek pattern rest

theorem seek_of_isPrefixOf {pattern text : List α} {symbol : α}
    (here : pattern.isPrefixOf (symbol :: text) = true) :
    seek pattern (symbol :: text) = some (symbol :: text) := if_pos here

theorem seek_cons {pattern text : List α} {symbol : α}
    (missing : ¬pattern.isPrefixOf (symbol :: text) = true) :
    seek pattern (symbol :: text) = seek pattern text := if_neg missing

/-- Whether a pattern stands at a place is known when as many symbols are there. -/
theorem isPrefixOf_append_of_le [LawfulBEq α] {pattern front : List α}
    (enough : pattern.length ≤ front.length) (back : List α) :
    pattern.isPrefixOf (front ++ back) = pattern.isPrefixOf front := by
  rw [Bool.eq_iff_iff, List.isPrefixOf_iff_prefix, List.isPrefixOf_iff_prefix]
  refine ⟨fun whole => ?_, fun part => part.trans (List.prefix_append _ _)⟩
  exact List.prefix_of_prefix_length_le whole (List.prefix_append _ _) enough

end Foundation

namespace Pianod

open Foundation

/-- A song: what the decoder is set up with, the sizes of the frames, and the bytes that
these cut. -/
structure SongFile where
  setup : Text
  sizes : List Nat
  data : Text
deriving DecidableEq

namespace SongFile

/-- The frames that are complete. -/
def frames (song : SongFile) : List Text := (framed song.sizes song.data).frames

def readData (setup : Text) (sizes : List Nat) (text : Text) : Option SongFile :=
  (seek (ascii "mdat") text).map fun atom => ⟨setup, sizes, atom.drop 4⟩

/-- Read so many sizes behind others, each of four bytes in network byte order. -/
def readSizes (setup : Text) : Nat → List Nat → Text → Option SongFile
  | 0, sizes, text => readData setup sizes text
  | count + 1, sizes, a :: b :: c :: d :: rest =>
      readSizes setup count (sizes ++ [ofBigEndian [a, b, c, d]]) rest
  | _ + 1, _, _ => none

/-- The number of the sizes; a number of zero does not count. -/
def readNumber (setup : Text) : Text → Option SongFile
  | a :: b :: c :: d :: rest =>
      if ofBigEndian [a, b, c, d] = 0 then readNumber setup rest
      else readSizes setup (ofBigEndian [a, b, c, d]) [] rest
  | _ => none

/-- The table starts behind the version and four further bytes. -/
def readTable (setup text : Text) : Option SongFile :=
  (seek (ascii "stsz") text).bind fun atom => readNumber setup (atom.drop 12)

/-- The set-up are five bytes, behind a tag with its length. -/
def readSetup (text : Text) : Option SongFile :=
  (seek [5, 128, 128, 128] text).bind fun tag =>
    readTable ((tag.drop 5).take 5) (tag.drop 10)

/-- What a file says. -/
def read (file : Text) : Option SongFile :=
  (seek (ascii "esds") file).bind fun atom => readSetup (atom.drop 4)

end SongFile

end Pianod
