import Pianod.Foundation.FallibleRun
import Pianod.Foundation.Text

/-!
# The password cipher

Saved passwords are enciphered by XOR with a key that is the CRC of the account name.  Each byte
uses as many key bits as leave its leading bits, and so its class, unchanged.
-/

namespace Pianod

open Foundation

/-- The divisor of the CRC. -/
def lamerCrcGenerator : UInt32 := 0xae060ed2

/-- The number of bits in a key. -/
def lamerKeybits : Nat := 31

/-- Shift one bit into the remainder and apply the divisor. -/
def crcStep (divisor key : UInt32) (bit : Bool) : UInt32 :=
  let shifted := (key <<< 1) ||| (if bit then 1 else 0)
  if shifted &&& 0x80000000 ≠ 0 then shifted ^^^ divisor else shifted

/-- The bits of a byte, most significant first. -/
def byteBits (byte : UInt8) : List Bool :=
  [0x80, 0x40, 0x20, 0x10, 0x08, 0x04, 0x02, 0x01].map fun mask : UInt8 => byte &&& mask ≠ 0

/-- The bits of a remainder below the divisor's leading bit, most significant first. -/
def remainderBits (remainder : UInt32) : List Bool :=
  (List.range lamerKeybits).reverse.map fun bit => remainder.toNat.testBit bit

/-- The CRC of a text followed by a remainder. -/
def computeCrc (data : Text) (divisor remainder : UInt32) : UInt32 :=
  (data.flatMap byteBits ++ remainderBits remainder).foldl (crcStep divisor) 0

/-- The key made from an account name. -/
def createKeyFromString (source : Text) : UInt32 := computeCrc source lamerCrcGenerator 0

/-- How many key bits a byte consumes; control characters cannot be enciphered. -/
def cipherBits (byte : UInt8) : Option UInt32 :=
  if byte &&& 0xe0 = 0x20 then some 5
  else if byte &&& 0xc0 = 0x40 then some 6
  else if byte &&& 0x80 = 0x80 then some 7
  else none

/-- The key bits a byte is combined with. -/
def cipherMask (key bits : UInt32) : UInt32 := key &&& ((1 <<< bits) - 1)

/-- Rotate the consumed bits of the key to its top. -/
def rotateKey (key bits : UInt32) : UInt32 :=
  (key >>> bits) ||| (cipherMask key bits <<< (31 - bits))

/-- Encipher or decipher the remaining bytes under a key. -/
def cipherBytes (key : UInt32) : Text → Except Fault Text
  | [] => .ok []
  | byte :: rest =>
      match cipherBits byte with
      | none => .error (.assertion "0")
      | some bits =>
          (cipherBytes (rotateKey key bits) rest).map
            ((byte ^^^ (cipherMask key bits).toUInt8) :: ·)

/-- Encipher or decipher an item under the key of an account name. -/
def lamerCipher (keystr item : Text) : Except Fault Text :=
  cipherBytes (createKeyFromString keystr) item

end Pianod
