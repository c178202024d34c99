import Mathlib.Tactic.Ring
import Pianod.Foundation.SecureHash

/-!
# SHA-1 in pieces

A context gets a message piece by piece and keeps what does not fill a block.  The digest is that of
the standard for the whole message, as long as its bits can be counted.
-/

namespace Football

open Foundation SecureHash

structure SHA1Context where
  intermediateHash : Words
  /-- The low half of the length in bits. -/
  lengthLow : UInt32
  /-- The high half of the length in bits. -/
  lengthHigh : UInt32
  messageBlockIndex : Nat
  /-- The block that is being filled. -/
  messageBlock : Text
  /-- Whether the digest was computed. -/
  computed : Bool
  corrupted : Nat
deriving DecidableEq, Repr

/-- The error codes. -/
inductive ShaReturn where
  | success
  | null
  | inputTooLong
  | stateError
deriving DecidableEq, Repr

def ShaReturn.code : ShaReturn → Nat
  | success => 0
  | null => 1
  | inputTooLong => 2
  | stateError => 3

def sha1CircularShift (bits : UInt32) (word : UInt32) : UInt32 :=
  (word <<< bits) ||| (word >>> (32 - bits))

namespace SHA1Context

/-- `SHA1Reset`; the message block keeps what it holds. -/
def reset (context : SHA1Context) : SHA1Context :=
  { context with
    lengthLow := 0, lengthHigh := 0, messageBlockIndex := 0
    intermediateHash := ⟨0x67452301, 0xEFCDAB89, 0x98BADCFE, 0x10325476, 0xC3D2E1F0⟩
    computed := false, corrupted := 0 }

/-- A word of the message block. -/
def blockWord (block : Text) (t : Nat) : UInt32 :=
  ((block.getD (t * 4) 0).toUInt32 <<< 24) ||| ((block.getD (t * 4 + 1) 0).toUInt32 <<< 16) |||
    ((block.getD (t * 4 + 2) 0).toUInt32 <<< 8) ||| (block.getD (t * 4 + 3) 0).toUInt32

/-- The word sequence, one word after the other. -/
def wordSequence (block : Text) : List UInt32 :=
  (List.range' 16 64).foldl (fun W t => W ++ [sha1CircularShift 1
      (W.getD (t - 3) 0 ^^^ W.getD (t - 8) 0 ^^^ W.getD (t - 14) 0 ^^^ W.getD (t - 16) 0)])
    ((List.range 16).map (blockWord block))

/-- The end of each round. -/
def turn (words : Words) (temp : UInt32) : Words :=
  ⟨temp, words.A, sha1CircularShift 30 words.B, words.C, words.D⟩

/-- `SHA1ProcessMessageBlock`. -/
def processMessageBlock (context : SHA1Context) : SHA1Context :=
  let W := wordSequence context.messageBlock
  let first := (List.range' 0 20).foldl (fun words t => turn words
    (sha1CircularShift 5 words.A + ((words.B &&& words.C) ||| (~~~words.B &&& words.D)) + words.E +
      W.getD t 0 + 0x5A827999)) context.intermediateHash
  let second := (List.range' 20 20).foldl (fun words t => turn words
    (sha1CircularShift 5 words.A + (words.B ^^^ words.C ^^^ words.D) + words.E +
      W.getD t 0 + 0x6ED9EBA1)) first
  let third := (List.range' 40 20).foldl (fun words t => turn words
    (sha1CircularShift 5 words.A +
      ((words.B &&& words.C) ||| (words.B &&& words.D) ||| (words.C &&& words.D)) + words.E +
      W.getD t 0 + 0x8F1BBCDC)) second
  let fourth := (List.range' 60 20).foldl (fun words t => turn words
    (sha1CircularShift 5 words.A + (words.B ^^^ words.C ^^^ words.D) + words.E +
      W.getD t 0 + 0xCA62C1D6)) third
  let hash := context.intermediateHash
  { context with
    intermediateHash := ⟨hash.A + fourth.A, hash.B + fourth.B, hash.C + fourth.C,
      hash.D + fourth.D, hash.E + fourth.E⟩
    messageBlockIndex := 0 }

/-- `Message_Block[Message_Block_Index++] = byte`. -/
def put (context : SHA1Context) (byte : UInt8) : SHA1Context :=
  { context with
    messageBlock := context.messageBlock.set context.messageBlockIndex byte
    messageBlockIndex := context.messageBlockIndex + 1 }

/-- Count the bits of one more byte. -/
def count (context : SHA1Context) : SHA1Context :=
  let low := context.lengthLow + 8
  if low = 0 then
    let high := context.lengthHigh + 1
    { context with
      lengthLow := low, lengthHigh := high
      corrupted := if high = 0 then 1 else context.corrupted }
  else { context with lengthLow := low }

/-- The body of the loop of `SHA1Input`. -/
def take (context : SHA1Context) (byte : UInt8) : SHA1Context :=
  let counted := (context.put byte).count
  if counted.messageBlockIndex = 64 then counted.processMessageBlock else counted

/-- The loop of `SHA1Input`. -/
def inputLoop (context : SHA1Context) : Text → SHA1Context
  | [] => context
  | byte :: rest =>
      if context.corrupted ≠ 0 then context else (context.take byte).inputLoop rest

/-- `SHA1Input`; the length is an `unsigned int`. -/
def input (context : SHA1Context) (message : Text) : SHA1Context × Nat :=
  let piece := message.take (message.length % 2 ^ 32)
  if piece = [] then (context, ShaReturn.success.code)
  else if context.computed then
    ({ context with corrupted := ShaReturn.stateError.code }, ShaReturn.stateError.code)
  else if context.corrupted ≠ 0 then (context, context.corrupted)
  else (context.inputLoop piece, ShaReturn.success.code)

/-- Some zeros. -/
def putZeros (context : SHA1Context) : Nat → SHA1Context
  | 0 => context
  | zeros + 1 => (context.put 0).putZeros zeros

/-- Write bytes from a place of the message block on. -/
def store (block : Text) (place : Nat) : Text → Text
  | [] => block
  | byte :: bytes => store (block.set place byte) (place + 1) bytes

/-- The lower and higher bytes of the length, the highest first. -/
def lengthBytes (context : SHA1Context) : Text :=
  [(context.lengthHigh >>> 24).toUInt8, (context.lengthHigh >>> 16).toUInt8,
    (context.lengthHigh >>> 8).toUInt8, context.lengthHigh.toUInt8,
    (context.lengthLow >>> 24).toUInt8, (context.lengthLow >>> 16).toUInt8,
    (context.lengthLow >>> 8).toUInt8, context.lengthLow.toUInt8]

/-- `SHA1PadMessage`. -/
def padMessage (context : SHA1Context) : SHA1Context :=
  let padded :=
    if context.messageBlockIndex > 55 then
      let ended := context.put 0x80
      let filled := (ended.putZeros (64 - ended.messageBlockIndex)).processMessageBlock
      filled.putZeros (56 - filled.messageBlockIndex)
    else
      let ended := context.put 0x80
      ended.putZeros (56 - ended.messageBlockIndex)
  { padded with
    messageBlock := store padded.messageBlock 56 padded.lengthBytes }.processMessageBlock

/-- The bytes of the intermediate hash. -/
def messageDigest (hash : Words) : Text :=
  (List.range 20).map fun i =>
    ([hash.A, hash.B, hash.C, hash.D, hash.E].getD (i / 4) 0 >>>
      UInt32.ofNat (8 * (3 - i % 4))).toUInt8

/-- `SHA1Result`: the context, the error code, and the digest if there is one. -/
def result (context : SHA1Context) : SHA1Context × Nat × Option Text :=
  if context.corrupted ≠ 0 then (context, context.corrupted, none)
  else
    let computed :=
      if context.computed then context
      else { context.padMessage with
        messageBlock := List.replicate 64 0, lengthLow := 0, lengthHigh := 0, computed := true }
    (computed, ShaReturn.success.code, some (messageDigest computed.intermediateHash))

/-! ## A block -/

theorem circularShift_eq (word : UInt32) {bits : Nat} (positive : 0 < bits) (small : bits < 32) :
    sha1CircularShift (UInt32.ofNat bits) word = rotate word bits := by
  apply UInt32.toBitVec_inj.mp
  have low : (UInt32.ofNat bits).toBitVec % 32 = BitVec.ofNat 32 bits := by
    apply BitVec.eq_of_toNat_eq
    simp [BitVec.toNat_umod]
    omega
  have high : (32 - UInt32.ofNat bits).toBitVec % 32 = BitVec.ofNat 32 (32 - bits) := by
    apply BitVec.eq_of_toNat_eq
    simp [BitVec.toNat_umod]
    omega
  have lowNat : (BitVec.ofNat 32 bits).toNat = bits := by
    rw [BitVec.toNat_ofNat]
    exact Nat.mod_eq_of_lt (by omega)
  have highNat : (BitVec.ofNat 32 (32 - bits)).toNat = 32 - bits := by
    rw [BitVec.toNat_ofNat]
    exact Nat.mod_eq_of_lt (by omega)
  rw [sha1CircularShift, rotate, UInt32.toBitVec_or, UInt32.toBitVec_shiftLeft,
    UInt32.toBitVec_shiftRight, low, high, BitVec.rotateLeft_def, Nat.mod_eq_of_lt small,
    BitVec.shiftLeft_eq', BitVec.ushiftRight_eq', lowNat, highNat]

/-- Four bytes shifted into a word. -/
theorem word_eq (a b c d : UInt8) :
    (a.toUInt32 <<< 24) ||| (b.toUInt32 <<< 16) ||| (c.toUInt32 <<< 8) ||| d.toUInt32 =
      UInt32.ofNat (ofBigEndian [a, b, c, d]) := by
  have ha := a.toNat_lt
  have hb := b.toNat_lt
  have hc := c.toNat_lt
  have hd := d.toNat_lt
  have shift : ∀ (byte : UInt8) (bits : UInt32), bits.toNat ≤ 24 →
      (byte.toUInt32 <<< bits).toNat = byte.toNat * 2 ^ bits.toNat := by
    intro byte bits small
    have bound := byte.toNat_lt
    rw [UInt32.toNat_shiftLeft, UInt8.toNat_toUInt32, Nat.mod_eq_of_lt (by omega : bits.toNat < 32),
      Nat.shiftLeft_eq]
    apply Nat.mod_eq_of_lt
    calc byte.toNat * 2 ^ bits.toNat ≤ byte.toNat * 2 ^ 24 :=
          Nat.mul_le_mul_left _ (Nat.pow_le_pow_right (by decide) small)
      _ < 2 ^ 32 := by omega
  have join :
      ∀ high low bits : Nat, low < 2 ^ bits → high * 2 ^ bits ||| low = high * 2 ^ bits + low := by
    intro high low bits small
    have joined := Nat.shiftLeft_add_eq_or_of_lt small high
    rw [Nat.shiftLeft_eq] at joined
    exact joined.symm
  have value : ofBigEndian [a, b, c, d] =
      a.toNat * 2 ^ 24 + b.toNat * 2 ^ 16 + c.toNat * 2 ^ 8 + d.toNat := by
    simp only [ofBigEndian, List.length_cons, List.length_nil]
    omega
  apply UInt32.toNat_inj.mp
  rw [UInt32.toNat_or, UInt32.toNat_or, UInt32.toNat_or, shift a 24 (by decide),
    shift b 16 (by decide), shift c 8 (by decide), UInt8.toNat_toUInt32, UInt32.toNat_ofNat', value]
  change ((a.toNat * 2 ^ 24 ||| b.toNat * 2 ^ 16) ||| c.toNat * 2 ^ 8) ||| d.toNat = _
  rw [join _ (b.toNat * 2 ^ 16) 24 (by omega),
    show a.toNat * 2 ^ 24 + b.toNat * 2 ^ 16 = (a.toNat * 2 ^ 8 + b.toNat) * 2 ^ 16 by omega,
    join _ (c.toNat * 2 ^ 8) 16 (by omega),
    show (a.toNat * 2 ^ 8 + b.toNat) * 2 ^ 16 + c.toNat * 2 ^ 8 =
      (a.toNat * 2 ^ 16 + b.toNat * 2 ^ 8 + c.toNat) * 2 ^ 8 by omega, join _ d.toNat 8 (by omega)]
  rw [Nat.mod_eq_of_lt (by omega)]

/-- The words of a block are those of the standard. -/
theorem blockWord_eq {block : Text} {t : Nat} (inside : 4 * t + 4 ≤ block.length) (early : t < 16) :
    blockWord block t = word block t := by
  have moved : ∀ place, block.getD (t * 4 + place) 0 = (block.drop (4 * t)).getD place 0 := by
    intro place
    rw [List.getD_eq_getElem?_getD, List.getD_eq_getElem?_getD, List.getElem?_drop,
      Nat.mul_comm t 4]
  have long : 4 ≤ (block.drop (4 * t)).length := by
    rw [List.length_drop]
    omega
  have first := moved 0
  rw [Nat.add_zero] at first
  rw [blockWord, word, if_pos early, first, moved, moved, moved]
  generalize block.drop (4 * t) = bytes at long
  rcases bytes with _ | ⟨a, _ | ⟨b, _ | ⟨c, _ | ⟨d, rest⟩⟩⟩⟩
  · exact absurd long (by decide)
  · exact absurd long (by simp)
  · exact absurd long (by simp)
  · exact absurd long (by simp)
  · exact word_eq a b c d

private theorem wordSequence_eq {block : Text} (full : block.length = 64) :
    wordSequence block = (List.range 80).map (word block) := by
  have grows : ∀ more, (List.range' 16 more).foldl (fun W t => W ++ [sha1CircularShift 1
      (W.getD (t - 3) 0 ^^^ W.getD (t - 8) 0 ^^^ W.getD (t - 14) 0 ^^^ W.getD (t - 16) 0)])
      ((List.range 16).map (blockWord block)) = (List.range (16 + more)).map (word block) := by
    intro more
    induction more with
    | zero =>
        apply List.map_congr_left
        intro t member
        have early := List.mem_range.mp member
        exact blockWord_eq (by omega) early
    | succ more induction =>
        have read : ∀ back, 0 < back → back ≤ 16 →
            ((List.range (16 + more)).map (word block)).getD (16 + more - back) 0 =
              word block (16 + more - back) := by
          intro back positive near
          rw [List.getD_eq_getElem?_getD, List.getElem?_map, List.getElem?_range (by omega)]
          rfl
        rw [List.range'_concat, List.foldl_append, induction, ← Nat.add_assoc, List.range_succ,
          List.map_append]
        have late : ¬16 + more < 16 := by omega
        change _ ++ [sha1CircularShift 1 _] = _ ++ [word block (16 + more)]
        rw [Nat.one_mul, read 3 (by omega) (by omega), read 8 (by omega) (by omega),
          read 14 (by omega) (by omega), read 16 (by omega) (by omega)]
        conv_rhs => rw [word, if_neg late]
        exact congrArg (_ ++ [·]) (circularShift_eq _ (by decide) (by decide))
  exact grows 64

/-- The four loops are the rounds of the standard. -/
theorem processMessageBlock_eq {context : SHA1Context} (full : context.messageBlock.length = 64) :
    context.processMessageBlock = { context with
      intermediateHash := compress context.intermediateHash context.messageBlock
      messageBlockIndex := 0 } := by
  have read : ∀ t < 80, (wordSequence context.messageBlock).getD t 0 =
      word context.messageBlock t := by
    intro t inside
    rw [wordSequence_eq full, List.getD_eq_getElem?_getD, List.getElem?_map,
      List.getElem?_range inside]
    rfl
  have loop : ∀ (start : Nat) (g : Words → Nat → Words) (words : Words),
      (∀ words t, start ≤ t → t < start + 20 → g words t = round context.messageBlock words t) →
      (List.range' start 20).foldl g words =
        (List.range' start 20).foldl (round context.messageBlock) words := by
    intro start g words same
    apply List.foldl_ext
    intro words t member
    have bounds := List.mem_range'_1.mp member
    exact same words t bounds.1 bounds.2
  have all : List.range 80 = List.range' 0 20 ++ List.range' 20 20 ++ List.range' 40 20 ++
      List.range' 60 20 := by decide
  have shift1 : ∀ word, sha1CircularShift 5 word = rotate word 5 := fun word =>
    circularShift_eq word (by decide) (by decide)
  have shift2 : ∀ word, sha1CircularShift 30 word = rotate word 30 := fun word =>
    circularShift_eq word (by decide) (by decide)
  rw [compress, all, List.foldl_append, List.foldl_append, List.foldl_append, processMessageBlock,
    loop 0, loop 20, loop 40, loop 60]
  all_goals
    intro words t low high
    rw [turn, SecureHash.round, read t (by omega), shift1, shift2]
  · rw [f, K, if_neg (by omega), if_neg (by omega), if_neg (by omega), if_neg (by omega),
      if_neg (by omega), if_neg (by omega)]
  · rw [f, K, if_neg (by omega), if_neg (by omega), if_pos (by omega), if_neg (by omega),
      if_neg (by omega), if_pos (by omega)]
  · rw [f, K, if_neg (by omega), if_pos (by omega), if_neg (by omega), if_pos (by omega)]
  · rw [f, K, if_pos (by omega), if_pos (by omega)]

/-! ## The message block -/

/-- The bytes at the front of the message block. -/
structure Filled (context : SHA1Context) (bytes : Text) : Prop where
  size : context.messageBlock.length = 64
  index : context.messageBlockIndex = bytes.length
  fits : bytes.length ≤ 64
  front : context.messageBlock.take bytes.length = bytes

section Block

variable {context : SHA1Context} {bytes : Text}

theorem Filled.put (filled : context.Filled bytes) (room : bytes.length < 64) (byte : UInt8) :
    (context.put byte).Filled (bytes ++ [byte]) where
  size := (List.length_set ..).trans filled.size
  index := by
    rw [List.length_append]
    exact congrArg (· + 1) filled.index
  fits := by
    rw [List.length_append]
    exact room
  front := by
    have inside : bytes.length < context.messageBlock.length := by
      rw [filled.size]
      exact room
    change (context.messageBlock.set context.messageBlockIndex byte).take _ = _
    rw [filled.index, List.length_append, List.length_singleton, List.take_add_one,
      List.take_set_of_le (Nat.le_refl _), filled.front, List.getElem?_set_self inside]
    rfl

theorem Filled.putZeros (filled : context.Filled bytes) {zeros : Nat}
    (room : bytes.length + zeros ≤ 64) :
    (context.putZeros zeros).Filled (bytes ++ List.replicate zeros 0) := by
  induction zeros generalizing context bytes with
  | zero =>
      rw [List.replicate_zero, List.append_nil]
      exact filled
  | succ zeros induction =>
      have more := induction (filled.put (by omega) 0) (by
        rw [List.length_append, List.length_singleton]
        omega)
      rwa [List.append_assoc, List.singleton_append, ← List.replicate_succ] at more

/-- A full message block is processed and is empty then. -/
theorem Filled.process {text : Text} (filled : context.Filled bytes) (full : bytes.length = 64)
    (absorbed : Absorbed compress 64 initial text context.intermediateHash bytes) :
    context.processMessageBlock.Filled [] ∧
      Absorbed compress 64 initial text context.processMessageBlock.intermediateHash [] := by
  have all : context.messageBlock = bytes := by
    have front := filled.front
    rwa [full, ← filled.size, List.take_length] at front
  rw [processMessageBlock_eq filled.size, all]
  refine ⟨⟨?_, rfl, Nat.zero_le _, rfl⟩, absorbed.absorb full⟩
  exact full

private theorem store_eq (block : Text) {place : Nat} {bytes : Text}
    (fits : place + bytes.length = block.length) :
    store block place bytes = block.take place ++ bytes := by
  induction bytes generalizing block place with
  | nil =>
      rw [store, List.append_nil]
      exact (List.take_of_length_le (Nat.le_of_eq fits.symm)).symm
  | cons byte bytes induction =>
      rw [List.length_cons] at fits
      rw [store, induction _ (by rw [List.length_set]; omega), List.take_add_one,
        List.take_set_of_le (Nat.le_refl _), List.getElem?_set_self (by omega), List.append_assoc]
      rfl

end Block

/-! ## The length -/

/-- The bits that were counted. -/
def bits (context : SHA1Context) : Nat :=
  context.lengthHigh.toNat * 2 ^ 32 + context.lengthLow.toNat

/-- Eight more bits are counted, or there are too many. -/
theorem count_bits {context : SHA1Context} (whole : context.bits % 8 = 0) :
    (context.bits + 8 < 2 ^ 64 ∧ context.count.bits = context.bits + 8 ∧
      context.count.corrupted = context.corrupted) ∨
    context.bits + 8 = 2 ^ 64 ∧ context.count.corrupted = 1 := by
  have low := context.lengthLow.toNat_lt
  have high := context.lengthHigh.toNat_lt
  have lowSum : (context.lengthLow + 8).toNat = (context.lengthLow.toNat + 8) % 2 ^ 32 :=
    UInt32.toNat_add ..
  have highSum : (context.lengthHigh + 1).toNat = (context.lengthHigh.toNat + 1) % 2 ^ 32 :=
    UInt32.toNat_add ..
  have zero : ∀ word : UInt32, word = 0 ↔ word.toNat = 0 := fun word =>
    UInt32.toNat_inj.symm
  unfold bits at whole ⊢
  unfold count
  by_cases wraps : context.lengthLow + 8 = 0
  · have lowZero := (zero _).mp wraps
    rw [lowSum] at lowZero
    rw [if_pos wraps]
    by_cases full : context.lengthHigh + 1 = 0
    · have highZero := (zero _).mp full
      rw [highSum] at highZero
      exact Or.inr ⟨by omega, if_pos full⟩
    · have highMore := mt (zero _).mpr full
      rw [highSum] at highMore
      refine Or.inl ⟨by omega, ?_, if_neg full⟩
      change (context.lengthHigh + 1).toNat * 2 ^ 32 + (context.lengthLow + 8).toNat = _
      rw [highSum, lowSum]
      omega
  · have lowMore := mt (zero _).mpr wraps
    rw [lowSum] at lowMore
    rw [if_neg wraps]
    refine Or.inl ⟨by omega, ?_, rfl⟩
    change context.lengthHigh.toNat * 2 ^ 32 + (context.lengthLow + 8).toNat = _
    rw [lowSum]
    omega

/-- The bytes of the length are those of the number of bits. -/
theorem lengthBytes_eq (context : SHA1Context) :
    context.lengthBytes = bigEndian 8 context.bits := by
  have shifted : ∀ (word : UInt32) (count : UInt32), count.toNat < 32 →
      (word >>> count).toUInt8 = UInt8.ofNat (word.toNat / 2 ^ count.toNat) := by
    intro word count small
    apply UInt8.toNat_inj.mp
    rw [UInt32.toNat_toUInt8, UInt32.toNat_shiftRight, Nat.mod_eq_of_lt small,
      Nat.shiftRight_eq_div_pow, UInt8.toNat_ofNat']
  have whole : ∀ word : UInt32, word.toUInt8 = UInt8.ofNat word.toNat := fun word => by
    apply UInt8.toNat_inj.mp
    rw [UInt32.toNat_toUInt8, UInt8.toNat_ofNat']
  have same :
      ∀ left right : Nat, left % 256 = right % 256 → UInt8.ofNat left = UInt8.ofNat right := by
    intro left right same
    apply UInt8.toNat_inj.mp
    rw [UInt8.toNat_ofNat', UInt8.toNat_ofNat']
    exact same
  have low := context.lengthLow.toNat_lt
  rw [lengthBytes, shifted _ 24 (by decide), shifted _ 16 (by decide), shifted _ 8 (by decide),
    shifted _ 24 (by decide), shifted _ 16 (by decide), shifted _ 8 (by decide), whole, whole]
  change [UInt8.ofNat (_ / 2 ^ 24), UInt8.ofNat (_ / 2 ^ 16), UInt8.ofNat (_ / 2 ^ 8),
    UInt8.ofNat _, UInt8.ofNat (_ / 2 ^ 24), UInt8.ofNat (_ / 2 ^ 16), UInt8.ofNat (_ / 2 ^ 8),
    UInt8.ofNat _] = _
  simp only [bigEndian, bits, List.cons.injEq, and_true]
  exact ⟨same _ _ (by omega), same _ _ (by omega), same _ _ (by omega), same _ _ (by omega),
    same _ _ (by omega), same _ _ (by omega), same _ _ (by omega), same _ _ (by omega)⟩

/-! ## Messages -/

/-- The context after the bytes of a message. -/
structure Holds (context : SHA1Context) (message : Text) : Prop where
  block : ∃ kept : Text, context.Filled kept ∧ kept.length < 64 ∧
    Absorbed compress 64 initial message context.intermediateHash kept
  counted : context.bits = 8 * message.length
  fresh : context.computed = false
  sound : context.corrupted = 0

/-- The message was too long. -/
structure Overflown (context : SHA1Context) : Prop where
  fresh : context.computed = false
  bad : context.corrupted = 1

section Messages

variable {context : SHA1Context} {message : Text}

theorem reset_holds (size : context.messageBlock.length = 64) : context.reset.Holds [] where
  block := ⟨[], ⟨size, rfl, Nat.zero_le _, rfl⟩, by decide, Absorbed.nil⟩
  counted := by
    rw [bits, List.length_nil]
    change (0 : UInt32).toNat * 2 ^ 32 + (0 : UInt32).toNat = 0
    rw [UInt32.toNat_zero, Nat.zero_mul]
  fresh := rfl
  sound := rfl

theorem processMessageBlock_rest (context : SHA1Context) :
    context.processMessageBlock.bits = context.bits ∧
      context.processMessageBlock.computed = context.computed ∧
      context.processMessageBlock.corrupted = context.corrupted := by
  -- Projections are rewritten, since comparing whole contexts would run the rounds.
  have high : context.processMessageBlock.lengthHigh = context.lengthHigh := by
    rw [processMessageBlock]
  have low : context.processMessageBlock.lengthLow = context.lengthLow := by
    rw [processMessageBlock]
  exact ⟨by rw [bits, bits, high, low], by rw [processMessageBlock], by rw [processMessageBlock]⟩

private theorem count_rest (context : SHA1Context) :
    context.count.messageBlock = context.messageBlock ∧
      context.count.messageBlockIndex = context.messageBlockIndex ∧
      context.count.intermediateHash = context.intermediateHash ∧
      context.count.computed = context.computed := by
  unfold count
  by_cases wraps : context.lengthLow + 8 = 0
  · rw [if_pos wraps]
    exact ⟨rfl, rfl, rfl, rfl⟩
  · rw [if_neg wraps]
    exact ⟨rfl, rfl, rfl, rfl⟩

/-- A byte is added to the message, or is one too many. -/
theorem Holds.take (holds : context.Holds message) (byte : UInt8) :
    (8 * (message.length + 1) < 2 ^ 64 ∧ (context.take byte).Holds (message ++ [byte])) ∨
      8 * (message.length + 1) = 2 ^ 64 ∧ (context.take byte).Overflown := by
  obtain ⟨kept, filled, room, absorbed⟩ := holds.block
  have put := filled.put room byte
  have bits : (context.put byte).bits = 8 * message.length := by
    rw [← holds.counted, SHA1Context.bits, SHA1Context.bits]
    rfl
  obtain ⟨blockSame, indexSame, hashSame, computedSame⟩ := (context.put byte).count_rest
  have counted : (context.put byte).count.Filled (kept ++ [byte]) :=
    ⟨blockSame ▸ put.size, indexSame ▸ put.index, put.fits, blockSame ▸ put.front⟩
  have kept' : Absorbed compress 64 initial (message ++ [byte])
      (context.put byte).count.intermediateHash (kept ++ [byte]) := by
    rw [hashSame]
    exact absorbed.keep [byte]
  have length : (kept ++ [byte]).length = kept.length + 1 := List.length_append
  unfold SHA1Context.take
  rcases (context.put byte).count_bits (by rw [bits]; omega) with ⟨few, more, same⟩ | ⟨many, bad⟩
  · rw [bits] at few more
    refine Or.inl ⟨by omega, ?_⟩
    have more' : (context.put byte).count.bits = 8 * (message ++ [byte]).length := by
      rw [more, List.length_append, List.length_singleton]
      omega
    by_cases full : (context.put byte).count.messageBlockIndex = 64
    · have processed := counted.process (counted.index.symm.trans full) kept'
      simp only [full, if_true]
      have kept := (context.put byte).count.processMessageBlock_rest
      exact ⟨⟨[], processed.1, by decide, processed.2⟩, kept.1.trans more',
        kept.2.1.trans (computedSame.trans holds.fresh), kept.2.2.trans (same.trans holds.sound)⟩
    · have few := counted.index
      simp only [full, if_false]
      refine ⟨⟨kept ++ [byte], counted, ?_, kept'⟩, more', computedSame.trans holds.fresh,
        same.trans holds.sound⟩
      omega
  · rw [bits] at many
    refine Or.inr ⟨by omega, ?_⟩
    have overflown : (context.put byte).count.Overflown := ⟨computedSame.trans holds.fresh, bad⟩
    by_cases full : (context.put byte).count.messageBlockIndex = 64
    · have kept := (context.put byte).count.processMessageBlock_rest
      simp only [full, if_true]
      exact ⟨kept.2.1.trans overflown.fresh, kept.2.2.trans bad⟩
    · simp only [full, if_false]
      exact overflown

private theorem inputLoop_cons (sound : context.corrupted = 0) (byte : UInt8) (rest : Text) :
    context.inputLoop (byte :: rest) = (context.take byte).inputLoop rest := by
  rw [inputLoop, if_neg (not_not_intro sound)]

private theorem inputLoop_corrupted (bad : context.corrupted ≠ 0) (rest : Text) :
    context.inputLoop rest = context := by
  cases rest with
  | nil => rfl
  | cons byte rest => rw [inputLoop, if_pos bad]

/-- A piece is added to the message, or is too long. -/
theorem Holds.inputLoop (holds : context.Holds message) (piece : Text) :
    (8 * (message ++ piece).length < 2 ^ 64 → (context.inputLoop piece).Holds (message ++ piece)) ∧
      (2 ^ 64 ≤ 8 * (message ++ piece).length → 8 * message.length < 2 ^ 64 →
        (context.inputLoop piece).Overflown) := by
  induction piece generalizing context message with
  | nil =>
      rw [List.append_nil]
      exact ⟨fun _ => holds, fun long short => absurd short (Nat.not_lt.mpr long)⟩
  | cons byte rest induction =>
      rw [inputLoop_cons holds.sound]
      have length : (message ++ byte :: rest).length = message.length + 1 + rest.length := by
        rw [List.length_append, List.length_cons]
        omega
      rcases holds.take byte with ⟨few, more⟩ | ⟨many, bad⟩
      · have rest := induction more
        rw [List.append_assoc, List.singleton_append] at rest
        refine ⟨rest.1, fun long _ => rest.2 long ?_⟩
        rw [List.length_append, List.length_singleton]
        exact few
      · rw [inputLoop_corrupted (by rw [bad.bad]; decide)]
        refine ⟨fun short => ?_, fun _ _ => bad⟩
        rw [length] at short
        omega

/-! ## The digest -/

theorem put_bits (context : SHA1Context) (byte : UInt8) :
    (context.put byte).bits = context.bits := by
  rw [bits, bits]
  rfl

theorem putZeros_bits (context : SHA1Context) (zeros : Nat) :
    (context.putZeros zeros).bits = context.bits := by
  induction zeros generalizing context with
  | zero => rfl
  | succ zeros induction => exact (induction (context.put 0)).trans (context.put_bits 0)

theorem putZeros_hash (context : SHA1Context) (zeros : Nat) :
    (context.putZeros zeros).intermediateHash = context.intermediateHash := by
  induction zeros generalizing context with
  | zero => rfl
  | succ zeros induction => exact induction (context.put 0)

private theorem Filled.finish {bytes text : Text} (filled : context.Filled bytes)
    (room : bytes.length = 56)
    (absorbed : Absorbed compress 64 initial text context.intermediateHash bytes) :
    ({ context with messageBlock := store context.messageBlock 56 context.lengthBytes } :
      SHA1Context).processMessageBlock.intermediateHash =
        (blocks 64 (text ++ bigEndian 8 context.bits)).foldl compress initial := by
  have stored : store context.messageBlock 56 context.lengthBytes =
      bytes ++ bigEndian 8 context.bits := by
    have front := filled.front
    rw [room] at front
    rw [store_eq _ (by rw [filled.size]; rfl), front, lengthBytes_eq]
  have full : (bytes ++ bigEndian 8 context.bits).length = 64 := by
    rw [List.length_append, length_bigEndian, room]
  rw [stored, processMessageBlock_eq full]
  exact ((absorbed.keep _).absorb full).state_eq (by decide)

/-- The message is padded as the standard says. -/
theorem Holds.padMessage (holds : context.Holds message) :
    context.padMessage.intermediateHash =
      (blocks 64 (message ++ padding message.length)).foldl compress initial := by
  obtain ⟨kept, filled, room, absorbed⟩ := holds.block
  have ended := filled.put room 0x80
  have absorbed' := absorbed.keep [0x80]
  have length : (kept ++ [(0x80 : UInt8)]).length = kept.length + 1 := List.length_append
  have left := absorbed.length_mod room
  have index := ended.index
  rw [length] at index
  have finished : ∀ (padded : SHA1Context) (zeros : Nat) (bytes : Text),
      zeros = (119 - message.length % 64) % 64 → padded.Filled bytes → bytes.length = 56 →
      padded.bits = context.bits →
      Absorbed compress 64 initial (message ++ [0x80] ++ List.replicate zeros 0)
        padded.intermediateHash bytes →
      ({ padded with messageBlock := store padded.messageBlock 56 padded.lengthBytes } :
        SHA1Context).processMessageBlock.intermediateHash =
          (blocks 64 (message ++ padding message.length)).foldl compress initial := by
    rintro padded zeros bytes rfl filled long same absorbed
    rw [filled.finish long absorbed, same, holds.counted, padding, List.append_assoc,
      List.append_assoc]
    rfl
  have few := filled.index
  unfold SHA1Context.padMessage
  by_cases crowded : context.messageBlockIndex > 55
  · -- The length does not fit into this block, and another one is filled.
    have zeros := @Filled.putZeros _ _ ended (64 - (kept.length + 1)) (by rw [length]; omega)
    have absorbed'' : Absorbed compress 64 initial
        (message ++ [0x80] ++ List.replicate (64 - (kept.length + 1)) 0)
        ((context.put 0x80).putZeros (64 - (kept.length + 1))).intermediateHash
        (kept ++ [0x80] ++ List.replicate (64 - (kept.length + 1)) 0) := by
      rw [putZeros_hash]
      exact absorbed'.keep _
    obtain ⟨empty, processed⟩ := zeros.process
      (by rw [List.length_append, List.length_replicate, length]; omega) absorbed''
    have again := @Filled.putZeros _ _ empty 56 (by decide)
    rw [if_pos crowded]
    simp only [index, empty.index]
    refine finished _ (64 - (kept.length + 1) + 56) _ (by omega) again (by simp) ?_ ?_
    · rw [List.length_nil, putZeros_bits, (processMessageBlock_rest _).1, putZeros_bits, put_bits]
    · rw [List.length_nil, putZeros_hash, List.replicate_add, ← List.append_assoc]
      exact processed.keep _
  · have zeros := @Filled.putZeros _ _ ended (56 - (kept.length + 1)) (by rw [length]; omega)
    have absorbed'' := absorbed'.keep (List.replicate (56 - (kept.length + 1)) 0)
    rw [if_neg crowded]
    simp only [index]
    refine finished _ (56 - (kept.length + 1)) _ (by omega) zeros ?_ ?_ ?_
    · rw [List.length_append, List.length_replicate, length]
      omega
    · rw [putZeros_bits, put_bits]
    · rw [putZeros_hash]
      exact absorbed''

private theorem messageDigest_eq (hash : Words) : messageDigest hash = hash.bytes := by
  have byte : ∀ (word : UInt32) (i : Nat),
      (word >>> UInt32.ofNat (8 * (3 - i % 4))).toUInt8 =
        UInt8.ofNat (word.toNat / 256 ^ (3 - i % 4)) := by
    intro word i
    have small : (UInt32.ofNat (8 * (3 - i % 4))).toNat = 8 * (3 - i % 4) := by
      rw [UInt32.toNat_ofNat']
      exact Nat.mod_eq_of_lt (by omega)
    apply UInt8.toNat_inj.mp
    rw [UInt32.toNat_toUInt8, UInt32.toNat_shiftRight, small,
      Nat.mod_eq_of_lt (show 8 * (3 - i % 4) < 32 by omega), Nat.shiftRight_eq_div_pow,
      UInt8.toNat_ofNat', Nat.pow_mul]
  rw [messageDigest]
  simp only [byte]
  rfl

/-- The result is the digest of the standard, and there is none where the message was too long. -/
theorem Holds.result (holds : context.Holds message) :
    context.result.2 = (0, some (digest message)) := by
  rw [SHA1Context.result, if_neg (not_not_intro holds.sound)]
  simp only [holds.fresh, Bool.false_eq_true, if_false]
  rw [messageDigest_eq, holds.padMessage]
  rfl

theorem Overflown.result (overflown : context.Overflown) : context.result.2 = (1, none) := by
  rw [SHA1Context.result, if_pos (by rw [overflown.bad]; decide), overflown.bad]

/-- A piece is added to the message, or is too long. -/
theorem Holds.input (holds : context.Holds message) {piece : Text}
    (countable : piece.length < 2 ^ 32) (short : 8 * message.length < 2 ^ 64) :
    (8 * (message ++ piece).length < 2 ^ 64 → (context.input piece).1.Holds (message ++ piece)) ∧
      (2 ^ 64 ≤ 8 * (message ++ piece).length → (context.input piece).1.Overflown) := by
  have whole : piece.take (piece.length % 2 ^ 32) = piece := by
    rw [Nat.mod_eq_of_lt countable, List.take_length]
  unfold SHA1Context.input
  rw [whole]
  by_cases nothing : piece = []
  · rw [if_pos nothing, nothing, List.append_nil]
    exact ⟨fun _ => holds, fun long => absurd short (Nat.not_lt.mpr long)⟩
  · rw [if_neg nothing, if_neg (by rw [holds.fresh]; decide), if_neg (not_not_intro holds.sound)]
    have looped := holds.inputLoop piece
    exact ⟨looped.1, fun long => looped.2 long short⟩

theorem Holds.input_code (holds : context.Holds message) (piece : Text) :
    (context.input piece).2 = 0 := by
  unfold SHA1Context.input
  simp only
  split
  · rfl
  · rw [if_neg (by rw [holds.fresh]; decide), if_neg (not_not_intro holds.sound)]
    rfl

theorem Overflown.input (overflown : context.Overflown) (piece : Text) :
    (context.input piece).1.Overflown := by
  unfold SHA1Context.input
  simp only
  split
  · exact overflown
  · rw [if_neg (by rw [overflown.fresh]; decide), if_pos (by rw [overflown.bad]; decide)]
    exact overflown

/-- One piece after the other. -/
def inputs (context : SHA1Context) (pieces : List Text) : SHA1Context :=
  pieces.foldl (fun context piece => (context.input piece).1) context

theorem Overflown.inputs (overflown : context.Overflown) (pieces : List Text) :
    (context.inputs pieces).Overflown := by
  induction pieces generalizing context with
  | nil => exact overflown
  | cons piece pieces induction => exact induction (overflown.input piece)

theorem Holds.inputs (holds : context.Holds message) (short : 8 * message.length < 2 ^ 64)
    {pieces : List Text} (countable : ∀ piece ∈ pieces, piece.length < 2 ^ 32) :
    (8 * (message ++ pieces.flatten).length < 2 ^ 64 →
        (context.inputs pieces).Holds (message ++ pieces.flatten)) ∧
      (2 ^ 64 ≤ 8 * (message ++ pieces.flatten).length → (context.inputs pieces).Overflown) := by
  induction pieces generalizing context message with
  | nil =>
      rw [List.flatten_nil, List.append_nil]
      exact ⟨fun _ => holds, fun long => absurd short (Nat.not_lt.mpr long)⟩
  | cons piece pieces induction =>
      have first := holds.input (countable piece List.mem_cons_self) short
      rw [List.flatten_cons, ← List.append_assoc]
      by_cases fits : 8 * (message ++ piece).length < 2 ^ 64
      · exact induction (first.1 fits) fits
          fun other member => countable other (List.mem_cons_of_mem _ member)
      · have overflown := (first.2 (Nat.not_lt.mp fits)).inputs pieces
        refine ⟨fun short => ?_, fun _ => overflown⟩
        rw [List.length_append] at short
        omega

/-- However a message is cut into pieces, the result is the digest of the standard for the whole of
it; where its bits cannot be counted, there is no digest. -/
theorem sha1_pieces (context : SHA1Context) (size : context.messageBlock.length = 64)
    (pieces : List Text) (countable : ∀ piece ∈ pieces, piece.length < 2 ^ 32) :
    (context.reset.inputs pieces).result.2 =
      if 8 * pieces.flatten.length < 2 ^ 64 then (0, some (digest pieces.flatten))
      else (1, none) := by
  have all := (reset_holds size).inputs (by decide) countable
  by_cases short : 8 * pieces.flatten.length < 2 ^ 64
  · rw [if_pos short]
    exact (all.1 short).result
  · rw [if_neg short]
    exact (all.2 (Nat.not_lt.mp short)).result

/-- A message in two pieces. -/
theorem sha1_pieces_abc :
    ((SHA1Context.mk initial 0 0 0 (List.replicate 64 0) false 0).reset.inputs
        [ascii "a", ascii "bc"]).result.2 =
      if 8 * [ascii "a", ascii "bc"].flatten.length < 2 ^ 64 then
        (0, some (digest [ascii "a", ascii "bc"].flatten))
      else (1, none) :=
  sha1_pieces _ rfl [ascii "a", ascii "bc"] (by simp [ascii])

end Messages

end SHA1Context

end Football
