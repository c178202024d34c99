import Pianod.Foundation.BigEndian
import Pianod.Foundation.MerkleDamgard

/-!
# The Secure Hash Standard

SHA-1 as its standard defines it: the message is padded to a multiple of 64 bytes and absorbed by 80
rounds for each block.
-/

namespace Foundation.SecureHash

/-- Five words of a state. -/
structure Words where
  A : UInt32
  B : UInt32
  C : UInt32
  D : UInt32
  E : UInt32
deriving DecidableEq, Repr

def initial : Words := ⟨0x67452301, 0xEFCDAB89, 0x98BADCFE, 0x10325476, 0xC3D2E1F0⟩

/-- The circular left shift. -/
def rotate (word : UInt32) (bits : ℕ) : UInt32 := ⟨word.toBitVec.rotateLeft bits⟩

/-- The function of a round. -/
def f (t : ℕ) (B C D : UInt32) : UInt32 :=
  if t < 20 then (B &&& C) ||| (~~~B &&& D)
  else if t < 40 then B ^^^ C ^^^ D
  else if t < 60 then (B &&& C) ||| (B &&& D) ||| (C &&& D)
  else B ^^^ C ^^^ D

/-- The constant of a round. -/
def K (t : ℕ) : UInt32 :=
  if t < 20 then 0x5A827999 else if t < 40 then 0x6ED9EBA1
  else if t < 60 then 0x8F1BBCDC else 0xCA62C1D6

/-- The word of a round. -/
def word (block : List UInt8) (t : ℕ) : UInt32 :=
  if t < 16 then UInt32.ofNat (ofBigEndian ((block.drop (4 * t)).take 4))
  else rotate (word block (t - 3) ^^^ word block (t - 8) ^^^ word block (t - 14) ^^^
    word block (t - 16)) 1

def round (block : List UInt8) (words : Words) (t : ℕ) : Words :=
  ⟨rotate words.A 5 + f t words.B words.C words.D + words.E + word block t + K t,
    words.A, rotate words.B 30, words.C, words.D⟩

/-- What a block does to the state. -/
def compress (state : Words) (block : List UInt8) : Words :=
  let last := (List.range 80).foldl (round block) state
  ⟨state.A + last.A, state.B + last.B, state.C + last.C, state.D + last.D, state.E + last.E⟩

/-- A one and zeros up to the end of a block, where the number of bits is. -/
def padding (length : ℕ) : List UInt8 :=
  0x80 :: List.replicate ((119 - length % 64) % 64) 0 ++ bigEndian 8 (8 * length)

def Words.bytes (words : Words) : List UInt8 :=
  [words.A, words.B, words.C, words.D, words.E].flatMap fun word => bigEndian 4 word.toNat

/-- The message digest. -/
def digest (message : List UInt8) : List UInt8 :=
  ((blocks 64 (message ++ padding message.length)).foldl compress initial).bytes

end Foundation.SecureHash
