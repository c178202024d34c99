import Pianod.Server.TlsFingerprint

/-!
# Encrypted requests

Requests to Pandora are padded to whole blocks, encrypted and sent as hexadecimal digits, and the
time in an answer comes back in the same form.  The block cipher is a parameter.
-/

namespace Pianod

open Foundation

/-- A cipher under one key: it takes whole blocks of eight bytes, makes as many bytes of them, and
decrypts what it has encrypted. -/
structure BlockCipher where
  encrypt : Text → Option Text
  decrypt : Text → Option Text
  encrypts : ∀ text : Text, text.length % 8 = 0 →
    ∃ code, encrypt text = some code ∧ code.length = text.length ∧ decrypt code = some text

/-- The bytes that pairs of letters are read as. -/
def hexDecoded : Text → Text
  | high :: low :: text => lowByte (strtolHex [high, low]).1 :: hexDecoded text
  | _ => []

/-- The decrypted bytes and how many there are. -/
def pianoDecryptString (cipher : BlockCipher) (input : Text) :
    Except Fault (Option (Text × Nat)) :=
  if input.length % 2 = 0 then
    .ok ((cipher.decrypt (hexDecoded input)).map fun output => (output, input.length / 2))
  else .error (.assertion "inputLen%2 == 0")

def paddedInputLen (inputLen : Nat) : Nat :=
  if inputLen % 8 = 0 then inputLen else inputLen + (8 - inputLen % 8)

/-- The input with the zeros that are allocated behind it. -/
def paddedInput (s : Text) : Text :=
  s ++ List.replicate (paddedInputLen s.length - s.length) 0

def pianoEncryptString (cipher : BlockCipher) (s : Text) : Option Text :=
  (cipher.encrypt (paddedInput s)).map fun code => code.flatMap byteDigits

/-! ## Digits -/

private theorem lowByte_byteDigits (byte : UInt8) :
    lowByte (strtolHex [digitByte (byte.toNat / 16), digitByte (byte.toNat % 16)]).1 = byte := by
  have bound := byte.toNat_lt
  have upper : byte.toNat / 16 < 16 := by omega
  have lower : byte.toNat % 16 < 16 := by omega
  have high := digitIn_digitByte (Nat.le_refl 16) upper
  have low := digitIn_digitByte (Nat.le_refl 16) lower
  rw [lowByte_digits (by rw [high]; rfl) (by rw [low]; rfl), nibble_digitByte upper,
    nibble_digitByte lower, spelledByte, Nat.div_add_mod', UInt8.ofNat_toNat]

private theorem hexDecoded_digits (code : Text) : hexDecoded (code.flatMap byteDigits) = code := by
  induction code with
  | nil => rfl
  | cons byte code induction =>
      rw [List.flatMap_cons, byteDigits, List.cons_append, List.cons_append, List.nil_append,
        hexDecoded, lowByte_byteDigits, induction]

/-! ## Padding -/

theorem paddedInputLen_bounds (inputLen : Nat) :
    inputLen ≤ paddedInputLen inputLen ∧ paddedInputLen inputLen < inputLen + 8 ∧
      paddedInputLen inputLen % 8 = 0 := by
  rw [paddedInputLen]
  split <;> omega

private theorem length_paddedInput (s : Text) :
    (paddedInput s).length = paddedInputLen s.length := by
  have enough := (paddedInputLen_bounds s.length).1
  rw [paddedInput, List.length_append, List.length_replicate]
  omega

private theorem cString_paddedInput {s : Text} (free : Text.NulFree s) :
    (paddedInput s).cString = s := by
  rw [paddedInput, Text.cString]
  rw [List.takeWhile_append_of_pos]
  · rw [List.takeWhile_replicate]
    simp
  · intro byte member
    exact decide_eq_true (free byte member)

/-- Every request is encrypted, into two digits for each byte of its blocks, and what is decrypted
of them is the request and less than a block of padding, which a reader of strings does not see. -/
theorem pianoEncryptString_decrypts (cipher : BlockCipher) {s : Text} (free : Text.NulFree s) :
    ∃ hexOutput, pianoEncryptString cipher s = some hexOutput ∧ HexDigits hexOutput ∧
      hexOutput.length = 2 * paddedInputLen s.length ∧
      ∃ output, pianoDecryptString cipher hexOutput = .ok (some (output, paddedInputLen s.length)) ∧
        output.length = paddedInputLen s.length ∧ output.cString = s := by
  have blocks := (paddedInputLen_bounds s.length).2.2
  have length := length_paddedInput s
  obtain ⟨code, encrypted, same, decrypted⟩ :=
    cipher.encrypts (paddedInput s) (by rw [length, blocks])
  have size : (code.flatMap byteDigits).length = 2 * paddedInputLen s.length := by
    rw [length_digits, same, length]
  refine ⟨code.flatMap byteDigits, ?_, digits_hexDigits code, size, paddedInput s, ?_, length,
    cString_paddedInput free⟩
  · rw [pianoEncryptString, encrypted]
    rfl
  · rw [pianoDecryptString, if_pos (by rw [size]; omega), hexDecoded_digits, decrypted, size]
    rw [Nat.mul_div_cancel_left _ (by decide)]
    rfl

/-- A cipher that inverts every bit of whole blocks. -/
def invertingCipher : BlockCipher where
  encrypt text := if text.length % 8 = 0 then some (text.map (· ^^^ 255)) else none
  decrypt text := if text.length % 8 = 0 then some (text.map (· ^^^ 255)) else none
  encrypts text whole := by
    refine ⟨text.map (· ^^^ 255), if_pos whole, List.length_map .., ?_⟩
    rw [if_pos (by rwa [List.length_map]), List.map_map]
    congr 1
    refine (List.map_congr_left fun byte _ => ?_).trans (List.map_id text)
    exact (UInt8.xor_assoc byte 255 255).trans (by simp)

theorem pianoEncryptString_decrypts_sync :
    ∃ hexOutput, pianoEncryptString invertingCipher (ascii "sync") = some hexOutput ∧
      HexDigits hexOutput ∧ hexOutput.length = 2 * paddedInputLen (ascii "sync").length ∧
      ∃ output, pianoDecryptString invertingCipher hexOutput =
          .ok (some (output, paddedInputLen (ascii "sync").length)) ∧
        output.length = paddedInputLen (ascii "sync").length ∧ output.cString = ascii "sync" :=
  pianoEncryptString_decrypts invertingCipher (by unfold Text.NulFree; simp [ascii])

end Pianod
