import Pianod.Foundation.HttpStream
import Pianod.Foundation.Strtol

/-!
# Bodies in chunks

A body whose length is not known in advance is sent in chunks.  Each chunk starts with a line that
spells its size in hexadecimal digits; a chunk of size zero ends the body.
-/

namespace Foundation

/-- A chunk, and the digits that spell its size. -/
structure Chunk where
  /-- The digits of the size, as they are written. -/
  digits : List Nat
  /-- The data of the chunk. -/
  data : Text
  digit : ∀ digit ∈ digits, digit < 16
  /-- The digits stand for the size. -/
  size : ofDigits 16 digits = data.length
  /-- The empty chunk ends the body. -/
  nonempty : data ≠ []

namespace Chunk

/-- A chunk whose size is spelled as usual. -/
def usual (data : Text) (nonempty : data ≠ []) : Chunk where
  digits := leadingDigits 16 data.length
  data := data
  digit := fun _ => leadingDigits_lt (by decide)
  size := ofDigits_leadingDigits 16 data.length
  nonempty := nonempty

/-- The bytes of a chunk. -/
def encode (chunk : Chunk) : Text :=
  chunk.digits.map digitByte ++ HttpResponse.crlf ++ chunk.data ++ HttpResponse.crlf

end Chunk

/-- The data of all chunks. -/
def chunkData (chunks : List Chunk) : Text := chunks.flatMap Chunk.data

/-- The bytes of a body up to the line of its last chunk. -/
def encodeChunks (chunks : List Chunk) : Text :=
  chunks.flatMap Chunk.encode ++ 48 :: HttpResponse.crlf

end Foundation
