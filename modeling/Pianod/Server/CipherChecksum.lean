import Mathlib.Algebra.Group.Nat.Defs
import Pianod.Foundation.DivisionRegister
import Pianod.Server.LamerCipher

/-!
# The checksum behind the password cipher

`computeCrc` is a division register of 32 bits, so a text followed by its own checksum leaves no
remainder.  The key made from it takes a byte of each class to a byte of that class; deciphering
therefore rotates the key as enciphering did and undoes it.
-/

namespace Pianod

open Foundation

/-! ## The division register -/

theorem shiftIn_toBitVec (key : UInt32) (bit : Bool) :
    ((key <<< 1) ||| (if bit then 1 else 0)).toBitVec = key.toBitVec.shiftConcat bit := by
  apply BitVec.eq_of_getLsbD_eq
  intro i hi
  cases bit <;> cases i with
  | zero => simp
  | succ i => simp [hi]; try omega

theorem leadingBit_ne_zero_iff (key : UInt32) :
    key &&& 0x80000000 ≠ 0 ↔ key.toBitVec.msb = true := by
  have masked : (key &&& 0x80000000).toBitVec =
      if key.toBitVec.getLsbD 31 then BitVec.twoPow 32 31 else 0#32 := by
    rw [UInt32.toBitVec_and]
    exact BitVec.and_twoPow key.toBitVec 31
  rw [BitVec.msb_eq_getLsbD_last, Ne, ← UInt32.toBitVec_inj, masked]
  cases key.toBitVec.getLsbD 31
  · simp
  · decide

private theorem crcStep_toBitVec (divisor key : UInt32) (bit : Bool) :
    (crcStep divisor key bit).toBitVec =
      @DivisionRegister.feed 31 divisor.toBitVec key.toBitVec bit := by
  unfold crcStep DivisionRegister.feed
  simp only [leadingBit_ne_zero_iff, shiftIn_toBitVec]
  split
  · rw [UInt32.toBitVec_xor, shiftIn_toBitVec]
  · exact shiftIn_toBitVec key bit

private theorem crcSteps_toBitVec (divisor key : UInt32) (bits : List Bool) :
    (bits.foldl (crcStep divisor) key).toBitVec =
      @DivisionRegister.feedAll 31 divisor.toBitVec key.toBitVec bits := by
  induction bits generalizing key with
  | nil => rfl
  | cons bit bits induction =>
      rw [List.foldl_cons, induction, crcStep_toBitVec, DivisionRegister.feedAll_cons]

/-- The checksum in two passes: the text's bits, then the bits of the given remainder. -/
theorem computeCrc_toBitVec (data : Text) (divisor remainder : UInt32) :
    (computeCrc data divisor remainder).toBitVec =
      @DivisionRegister.feedAll 31 divisor.toBitVec
        (@DivisionRegister.feedAll 31 divisor.toBitVec 0#32 (data.flatMap byteBits))
        (@DivisionRegister.lowBits 31 remainder.toBitVec 31) := by
  rw [computeCrc, crcSteps_toBitVec, DivisionRegister.feedAll_append]
  rfl

theorem computeCrc_lt {divisor : UInt32} (leading : divisor &&& 0x80000000 ≠ 0) (data : Text)
    (remainder : UInt32) : (computeCrc data divisor remainder).toNat < 2 ^ 31 := by
  rw [leadingBit_ne_zero_iff] at leading
  have reduced : (computeCrc data divisor remainder).toBitVec.msb = false := by
    rw [computeCrc_toBitVec]
    exact DivisionRegister.msb_feedAll leading
      (DivisionRegister.msb_feedAll leading rfl _) _
  have doubled := BitVec.msb_eq_false_iff_two_mul_lt.mp reduced
  rw [UInt32.toNat_toBitVec] at doubled
  omega

/-- A checksum is below the divisor's leading bit and verifies the text it was computed from. -/
theorem computeCrc_verifies (data : Text) (divisor : UInt32)
    (leading : divisor &&& 0x80000000 ≠ 0) :
    (computeCrc data divisor 0).toNat < 2 ^ 31 ∧
      computeCrc data divisor (computeCrc data divisor 0) = 0 := by
  refine ⟨computeCrc_lt leading data 0, ?_⟩
  rw [← UInt32.toBitVec_inj, computeCrc_toBitVec, computeCrc_toBitVec]
  rw [leadingBit_ne_zero_iff] at leading
  exact DivisionRegister.feedAll_remainder leading (DivisionRegister.msb_feedAll leading rfl _)

theorem computeCrc_verifies_generator :
    (computeCrc (ascii "ab") lamerCrcGenerator 0).toNat < 2 ^ 31 ∧
      computeCrc (ascii "ab") lamerCrcGenerator (computeCrc (ascii "ab") lamerCrcGenerator 0) = 0 :=
  computeCrc_verifies (ascii "ab") lamerCrcGenerator (by decide)

/-! ## The classes of bytes -/

private theorem xor_and_of_disjoint (byte : UInt8) {changed kept : UInt8}
    (disjoint : changed &&& kept = 0) : (byte ^^^ changed) &&& kept = byte &&& kept := by
  rw [← UInt8.toBitVec_inj] at disjoint ⊢
  apply BitVec.eq_of_getLsbD_eq
  intro i _
  have clear : (changed.toBitVec.getLsbD i && kept.toBitVec.getLsbD i) = false := by
    rw [← BitVec.getLsbD_and, ← UInt8.toBitVec_and, disjoint]
    simp
  simp only [UInt8.toBitVec_and, UInt8.toBitVec_xor, BitVec.getLsbD_and, BitVec.getLsbD_xor]
  rw [Bool.and_xor_distrib_right, clear, Bool.xor_false]

private theorem cipherMask_and (key : UInt32) {bits : UInt32} {kept : UInt8}
    (disjoint : ((1 <<< bits) - 1).toUInt8 &&& kept = 0) :
    (cipherMask key bits).toUInt8 &&& kept = 0 := by
  rw [cipherMask, UInt32.toUInt8_and, UInt8.and_assoc, disjoint, UInt8.and_zero]

/-- The leading bits of a byte outside the consumed ones are kept. -/
theorem ciphered_and (byte : UInt8) (key : UInt32) {bits : UInt32} {kept : UInt8}
    (disjoint : ((1 <<< bits) - 1).toUInt8 &&& kept = 0) :
    (byte ^^^ (cipherMask key bits).toUInt8) &&& kept = byte &&& kept :=
  xor_and_of_disjoint byte (cipherMask_and key disjoint)

theorem and_of_and_eq {byte kept value : UInt8} (shape : byte &&& kept = value) (part : UInt8) :
    byte &&& (kept &&& part) = value &&& part := by
  rw [← UInt8.and_assoc, shape]

private theorem cipherBits_of_001 {byte : UInt8} (shape : byte &&& 0xe0 = 0x20) :
    cipherBits byte = some 5 := by
  simp [cipherBits, shape]

private theorem cipherBits_of_01 {byte : UInt8} (shape : byte &&& 0xc0 = 0x40) :
    cipherBits byte = some 6 := by
  have other : byte &&& 0xe0 ≠ 0x20 := fun first => by
    have shared : byte &&& (0xe0 &&& 0xc0) = 0x20 &&& 0xc0 := and_of_and_eq first 0xc0
    exact absurd (shape.symm.trans shared) (by decide)
  simp [cipherBits, shape, other]

private theorem cipherBits_of_1 {byte : UInt8} (shape : byte &&& 0x80 = 0x80) :
    cipherBits byte = some 7 := by
  have notFirst : byte &&& 0xe0 ≠ 0x20 := fun first => by
    have shared : byte &&& (0xe0 &&& 0x80) = 0x20 &&& 0x80 := and_of_and_eq first 0x80
    exact absurd (shape.symm.trans shared) (by decide)
  have notSecond : byte &&& 0xc0 ≠ 0x40 := fun second => by
    have shared : byte &&& (0xc0 &&& 0x80) = 0x40 &&& 0x80 := and_of_and_eq second 0x80
    exact absurd (shape.symm.trans shared) (by decide)
  simp [cipherBits, shape, notFirst, notSecond]

private theorem cipherBits_eq_some {byte : UInt8} {bits : UInt32}
    (consumed : cipherBits byte = some bits) :
    (byte &&& 0xe0 = 0x20 ∧ bits = 5) ∨ (byte &&& 0xc0 = 0x40 ∧ bits = 6) ∨
      (byte &&& 0x80 = 0x80 ∧ bits = 7) := by
  unfold cipherBits at consumed
  split at consumed
  · simp_all
  · split at consumed
    · simp_all
    · split at consumed <;> simp_all

/-- A byte stays in its class, so deciphering consumes as many bits as enciphering. -/
theorem cipherBits_ciphered {byte : UInt8} {bits : UInt32} (consumed : cipherBits byte = some bits)
    (key : UInt32) : cipherBits (byte ^^^ (cipherMask key bits).toUInt8) = some bits := by
  rcases cipherBits_eq_some consumed with ⟨shape, rfl⟩ | ⟨shape, rfl⟩ | ⟨shape, rfl⟩
  · apply cipherBits_of_001
    rw [ciphered_and byte key (by decide), shape]
  · apply cipherBits_of_01
    rw [ciphered_and byte key (by decide), shape]
  · apply cipherBits_of_1
    rw [ciphered_and byte key (by decide), shape]

/-- Exactly the control characters belong to no class. -/
theorem cipherBits_isSome_iff (byte : UInt8) : (cipherBits byte).isSome ↔ 0x20 ≤ byte := by
  have all : ∀ value : Fin 256,
      (cipherBits (.ofNat value)).isSome ↔ 0x20 ≤ UInt8.ofNat value := by decide +kernel
  simpa using all ⟨byte.toNat, byte.toNat_lt⟩

/-! ## The key -/

private theorem createKeyFromString_lt (source : Text) :
    (createKeyFromString source).toNat < 2 ^ 31 :=
  computeCrc_lt (by decide) source 0

/-! ## Deciphering -/

private theorem cipherBytes_spec (key : UInt32) {item : Text}
    (printable : ∀ byte ∈ item, 0x20 ≤ byte) :
    ∃ output, cipherBytes key item = .ok output ∧ cipherBytes key output = .ok item ∧
      output.length = item.length ∧ ∀ byte ∈ output, 0x20 ≤ byte := by
  induction item generalizing key with
  | nil => exact ⟨[], rfl, rfl, rfl, by simp⟩
  | cons byte rest induction =>
      have isSome := (cipherBits_isSome_iff byte).mpr (printable byte (by simp))
      obtain ⟨bits, consumed⟩ := Option.isSome_iff_exists.mp isSome
      obtain ⟨output, enciphered, deciphered, lengths, outputPrintable⟩ :=
        induction (rotateKey key bits) fun other member => printable other (by simp [member])
      have kept := cipherBits_ciphered consumed key
      refine ⟨(byte ^^^ (cipherMask key bits).toUInt8) :: output, ?_, ?_, by simp [lengths], ?_⟩
      · simp [cipherBytes, consumed, enciphered, Except.map]
      · simp only [cipherBytes, kept, deciphered, Except.map, UInt8.xor_assoc, UInt8.xor_self,
          UInt8.xor_zero]
      · intro other member
        rcases List.mem_cons.mp member with rfl | member
        · exact (cipherBits_isSome_iff _).mp (by rw [kept]; rfl)
        · exact outputPrintable other member

/-- The cipher is its own inverse, and the key enters it through its checksum only. -/
theorem lamerCipher_involutive (keystr item : Text) (printable : ∀ byte ∈ item, 0x20 ≤ byte) :
    ∃ output, lamerCipher keystr item = .ok output ∧ lamerCipher keystr output = .ok item ∧
      output.length = item.length ∧ (∀ byte ∈ output, 0x20 ≤ byte) ∧
      (createKeyFromString keystr).toNat < 2 ^ 31 ∧
      ∀ other, createKeyFromString other = createKeyFromString keystr →
        lamerCipher other item = .ok output := by
  obtain ⟨output, enciphered, deciphered, lengths, outputPrintable⟩ :=
    cipherBytes_spec (createKeyFromString keystr) printable
  refine ⟨output, enciphered, deciphered, lengths, outputPrintable,
    createKeyFromString_lt keystr, fun other same => ?_⟩
  rw [lamerCipher, same]
  exact enciphered

theorem lamerCipher_involutive_word :
    ∃ output, lamerCipher (ascii "admin") (ascii "pw 1") = .ok output ∧
      lamerCipher (ascii "admin") output = .ok (ascii "pw 1") ∧
      output.length = (ascii "pw 1").length ∧ (∀ byte ∈ output, 0x20 ≤ byte) ∧
      (createKeyFromString (ascii "admin")).toNat < 2 ^ 31 ∧
      ∀ other, createKeyFromString other = createKeyFromString (ascii "admin") →
        lamerCipher other (ascii "pw 1") = .ok output :=
  lamerCipher_involutive (ascii "admin") (ascii "pw 1") (by decide +kernel)

end Pianod
