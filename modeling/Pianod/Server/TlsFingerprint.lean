import Pianod.Football.UrlDecode
import Pianod.Foundation.Hexadecimal
import Pianod.Server.AttributeValues
import Pianod.Server.PlaybackCommands

/-!
# The fingerprint of the certificate

The settings hold the fingerprint of the Pandora server's certificate in an array.  A text that is
accepted for it is written into the array two digits at a time; the report prints the array.
-/

namespace Pianod

open Foundation Football

/-- The array for the fingerprint. -/
structure Fingerprint where
  bytes : List UInt8
  size : bytes.length = Server.tlsFingerprintSize

/-- What setting the fingerprint can change. -/
structure FingerprintSettings where
  tlsFingerprint : Fingerprint
  pianoparamChangePending : Bool

/-- What becomes of a `long` that is converted to a byte. -/
def lowByte (digit : Int) : UInt8 := UInt8.ofNat (digit % 256).toNat

namespace Fingerprint

/-- Store a byte at a place of the array. -/
def store (fingerprint : Fingerprint) (out : Nat) (byte : UInt8) : Except Fault Fingerprint :=
  if out < fingerprint.bytes.length then
    .ok ⟨fingerprint.bytes.set out byte, by rw [List.length_set, fingerprint.size]⟩
  else .error .outOfBounds

/-- The loop over the text, from a place in the array on. -/
def decode (fingerprint : Fingerprint) (out : Nat) : Text → Except Fault Fingerprint
  | [] => .ok fingerprint
  -- The terminator is taken for the second digit, and what follows it is read.
  | [last] =>
      match fingerprint.store out (lowByte (strtolHex [last]).1) with
      | .error fault => .error fault
      | .ok _ => .error .outOfBounds
  | high :: low :: text =>
      match fingerprint.store out (lowByte (strtolHex [high, low]).1) with
      | .error fault => .error fault
      | .ok stored => stored.decode (out + 1) text

/-- The line in which the fingerprint is reported. -/
def reportFingerprint (fingerprint : Fingerprint) : Text :=
  numeral 10 ResponseCode.iTlsFingerprint.value ++ ascii " TlsFingerprint: " ++
    fingerprint.bytes.flatMap byteDigits ++ ascii "\n"

end Fingerprint

/-- Whether a text is accepted. -/
def validFingerprint (newvalue : Text) : Bool :=
  newvalue.length == 2 * Server.tlsFingerprintSize && newvalue.all isxdigit

/-- Change the fingerprint; the answer tells whether the text was accepted. -/
def FingerprintSettings.changeFingerprint (settings : FingerprintSettings) (newvalue : Text) :
    Except Fault (Bool × FingerprintSettings) :=
  if validFingerprint newvalue then
    match settings.tlsFingerprint.decode 0 newvalue with
    | .error fault => .error fault
    | .ok stored => .ok (true, ⟨stored, true⟩)
  else .ok (false, settings)

/-! ## Two digits -/

theorem isxdigit_iff {byte : UInt8} :
    isxdigit byte = true ↔ (digitIn 16 byte).isSome = true := by
  rw [isSome_digitIn_sixteen]
  simp [isxdigit, isdigit, or_assoc]

/-- Two digits are read in full: neither is whitespace, a sign or a mark of the base. -/
theorem strtolHex_digits {high low : UInt8} (upper : (digitIn 16 high).isSome = true)
    (lower : (digitIn 16 low).isSome = true) :
    strtolHex [high, low] = (((nibble high * 16 + nibble low : Nat) : Int), []) := by
  obtain ⟨first, highest⟩ := Option.isSome_iff_exists.mp upper
  obtain ⟨second, lowest⟩ := Option.isSome_iff_exists.mp lower
  have bare : 48 ≤ high := by
    rw [isSome_digitIn_sixteen] at upper
    simp only [UInt8.le_iff_toNat_le, UInt8.reduceToNat] at upper ⊢
    omega
  have sign := @takeSign_signed 0 high bare [low]
  have digits : takeDigits 16 [high, low] = ([first, second], []) := by
    simp [takeDigits, highest, lowest]
  have announced : announcedBase .detect [high, low] = (8, [high, low]) ∨
      announcedBase .detect [high, low] = (10, [high, low]) := by
    by_cases zero : high = 48
    · subst zero
      exact .inl rfl
    · exact .inr (announcedBase_detect zero [low])
  have small : first < 16 ∧ second < 16 :=
    ⟨(digitByte_of_digitIn highest).1, (digitByte_of_digitIn lowest).1⟩
  have fits : saturate ((first * 16 + second : Nat) : Int) = (first * 16 + second : Nat) :=
    saturate_of_mem (by simp only [longMin]; omega) (by simp only [longMax]; omega)
  have value : ofDigits 16 [first, second] = first * 16 + second := by simp [ofDigits]
  simp only [Int.lt_irrefl, if_false, List.nil_append, decide_false] at sign
  rw [strtolHex, sign]
  rcases announced with base | base <;>
    simp only [base, digits, value, fits, Bool.false_eq_true, if_false, nibble, highest, lowest,
      Option.getD_some]

/-- The byte that two digits are converted to. -/
theorem lowByte_digits {high low : UInt8} (upper : (digitIn 16 high).isSome = true)
    (lower : (digitIn 16 low).isSome = true) :
    lowByte (strtolHex [high, low]).1 = spelledByte (nibble high) (nibble low) := by
  have large := (digitByte_nibble upper).1
  have small := (digitByte_nibble lower).1
  rw [strtolHex_digits upper lower, lowByte, spelledByte]
  congr 1
  omega

/-! ## The loop -/

namespace Fingerprint

variable {fingerprint : Fingerprint}

private theorem store_of_lt {out : Nat} (inside : out < Server.tlsFingerprintSize) (byte : UInt8) :
    ∃ stored : Fingerprint, fingerprint.store out byte = .ok stored ∧
      stored.bytes = fingerprint.bytes.set out byte :=
  ⟨_, if_pos (by rwa [fingerprint.size]), rfl⟩

/-- Pairs of digits for which there is room are stored in order; the rest of the array stays. -/
theorem decode_digits {text : Text} (digits : HexDigits text) (even : text.length % 2 = 0)
    {out : Nat} (room : out + text.length / 2 ≤ Server.tlsFingerprintSize) :
    ∃ stored : Fingerprint, fingerprint.decode out text = .ok stored ∧
      stored.bytes = fingerprint.bytes.take out ++ spelledBytes text ++
        fingerprint.bytes.drop (out + text.length / 2) := by
  induction text using spelledBytes.induct generalizing fingerprint out with
  | case1 high low text ih =>
      have upper := digits high List.mem_cons_self
      have lower := digits low (by simp)
      simp only [List.length_cons] at even room
      obtain ⟨next, stores, first⟩ := @store_of_lt fingerprint out (by omega)
        (spelledByte (nibble high) (nibble low))
      obtain ⟨stored, decodes, rest⟩ := @ih next
        (fun byte member => digits byte (by simp [member])) (by omega) (out + 1) (by omega)
      refine ⟨stored, ?_, ?_⟩
      · rw [decode, lowByte_digits upper lower, stores]
        exact decodes
      · have inside : out < fingerprint.bytes.length := by
          rw [fingerprint.size]
          omega
        have front : next.bytes.take (out + 1) =
            fingerprint.bytes.take out ++ [spelledByte (nibble high) (nibble low)] := by
          rw [first, List.set_eq_take_append_cons_drop, if_pos inside, List.take_append,
            List.length_take_of_le inside.le, Nat.add_sub_cancel_left,
            List.take_of_length_le (by simp)]
          rfl
        have back : next.bytes.drop (out + 1 + text.length / 2) =
            fingerprint.bytes.drop (out + (text.length + 1 + 1) / 2) := by
          rw [first, List.drop_set_of_lt (by omega)]
          congr 1
          omega
        rw [rest, front, back, spelledBytes, List.append_assoc, List.append_assoc,
          List.append_assoc]
        rfl
  | case2 text short =>
      rcases nil_or_singleton short with rfl | ⟨last, rfl⟩
      · exact ⟨fingerprint, rfl, by simp [spelledBytes]⟩
      · cases even

end Fingerprint

/-! ## Accepting and reporting -/

theorem validFingerprint_iff {newvalue : Text} : validFingerprint newvalue = true ↔
    newvalue.length = 40 ∧ ∀ byte ∈ newvalue, isxdigit byte = true := by
  rw [validFingerprint, Bool.and_eq_true, beq_iff_eq, List.all_eq_true]
  rfl

/-- An accepted text fills the whole array. -/
theorem FingerprintSettings.changeFingerprint_valid (settings : FingerprintSettings)
    {newvalue : Text} (valid : validFingerprint newvalue = true) :
    ∃ stored : Fingerprint, settings.changeFingerprint newvalue = .ok (true, ⟨stored, true⟩) ∧
      stored.bytes = spelledBytes newvalue := by
  obtain ⟨length, digits⟩ := validFingerprint_iff.mp valid
  have hexadecimal : HexDigits newvalue := fun byte member => isxdigit_iff.mp (digits byte member)
  obtain ⟨stored, decodes, whole⟩ := @Fingerprint.decode_digits settings.tlsFingerprint newvalue
    hexadecimal (by omega) 0 (by rw [length]; decide)
  refine ⟨stored, ?_, ?_⟩
  · rw [changeFingerprint, if_pos valid, decodes]
  · have used : settings.tlsFingerprint.bytes.drop (0 + newvalue.length / 2) = [] := by
      rw [length]
      exact List.drop_eq_nil_of_le (Nat.le_of_eq settings.tlsFingerprint.size)
    rw [whole, used, List.take_zero, List.nil_append, List.append_nil]

/-- Whatever text is given, just those of forty hexadecimal digits are accepted, and reported in
lower case from then on; other texts change nothing, and nothing is stored outside of the array. -/
theorem FingerprintSettings.changeFingerprint_exact (settings : FingerprintSettings)
    (newvalue : Text) :
    ∃ accepted after, settings.changeFingerprint newvalue = .ok (accepted, after) ∧
      (accepted = true ↔ newvalue.length = 40 ∧ ∀ byte ∈ newvalue, isxdigit byte = true) ∧
      (accepted = true → after.pianoparamChangePending = true ∧
        after.tlsFingerprint.reportFingerprint =
          ascii "172 TlsFingerprint: " ++ Text.foldCase newvalue ++ ascii "\n") ∧
      (accepted = false → after = settings) := by
  by_cases valid : validFingerprint newvalue = true
  · obtain ⟨stored, changes, whole⟩ := settings.changeFingerprint_valid valid
    obtain ⟨length, digits⟩ := validFingerprint_iff.mp valid
    refine ⟨true, _, changes, ⟨fun _ => ⟨length, digits⟩, fun _ => rfl⟩, fun _ => ⟨rfl, ?_⟩,
      fun refused => Bool.noConfusion refused⟩
    have printed : stored.bytes.flatMap byteDigits = Text.foldCase newvalue := by
      rw [whole]
      exact digits_spelledBytes (fun byte member => isxdigit_iff.mp (digits byte member)) (by omega)
    have header : numeral 10 ResponseCode.iTlsFingerprint.value ++ ascii " TlsFingerprint: " =
        ascii "172 TlsFingerprint: " := by
      repeat rw [ascii_ofList]
      rfl
    rw [Fingerprint.reportFingerprint, printed, header]
  · refine ⟨false, settings, if_neg valid, ?_,
      fun accepted => absurd accepted Bool.false_ne_true, fun _ => rfl⟩
    rw [← validFingerprint_iff]
    exact iff_of_false Bool.false_ne_true valid

/-! ## The command -/

private theorem fingerprintBytes_eq (digits : List UInt8) :
    Server.fingerprintBytes digits = spelledBytes digits := by
  induction digits using spelledBytes.induct with
  | case1 high low text ih =>
      rw [Server.fingerprintBytes, spelledBytes, ih]
      rfl
  | case2 text short =>
      rcases nil_or_singleton short with rfl | ⟨last, rfl⟩
      · rfl
      · simp [Server.fingerprintBytes, spelledBytes]

/-- The command stores what becomes of the array and the flag, and answers accordingly. -/
theorem Server.changeFingerprint_eq (server : Server) (session : Nat) (newvalue : Text)
    (size : server.app.settings.tlsFingerprint.length = Server.tlsFingerprintSize) :
    ∃ accepted after,
      FingerprintSettings.changeFingerprint ⟨⟨_, size⟩, server.app.pianoparamChangePending⟩
        newvalue = .ok (accepted, after) ∧
      server.changeFingerprint session newvalue =
        (server.withApp { server.app with
          settings := { server.app.settings with tlsFingerprint := after.tlsFingerprint.bytes }
          pianoparamChangePending := after.pianoparamChangePending }).reply session
            (if accepted then .sOk else .eInvalid) := by
  have same : (newvalue.length = 2 * tlsFingerprintSize ∧
      newvalue.all (fun byte => (digitIn 16 byte).isSome) = true) ↔
      validFingerprint newvalue = true := by
    rw [validFingerprint_iff, List.all_eq_true]
    exact and_congr_right' (forall₂_congr fun _ _ => isxdigit_iff.symm)
  by_cases valid : validFingerprint newvalue = true
  · obtain ⟨stored, changes, whole⟩ := FingerprintSettings.changeFingerprint_valid
      ⟨⟨_, size⟩, server.app.pianoparamChangePending⟩ valid
    refine ⟨true, _, changes, ?_⟩
    rw [changeFingerprint, if_pos (same.mpr valid), fingerprintBytes_eq, ← whole]
    rfl
  · refine ⟨false, _, if_neg valid, ?_⟩
    rw [changeFingerprint, if_neg fun holds => valid (same.mp holds)]
    rfl

end Pianod
