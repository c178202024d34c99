import Pianod.Foundation.Strtol
import Pianod.Server.UserFile

/-!
# Reading attribute values

The XML reader normalizes line endings, decodes references and turns the other whitespace of an
attribute value into spaces.  Escaped values come back unchanged if their only whitespace is the
space.
-/

namespace Pianod

open Foundation

/-! ## The decoder -/

/-- The loop over line endings. -/
def normalizeLines : Text → Text
  | [] => []
  | 13 :: 10 :: rest => 10 :: normalizeLines rest
  | byte :: rest => (if byte = 13 then 10 else byte) :: normalizeLines rest

/-- The C library's `strtol` in base sixteen. -/
def strtolHex (text : Text) : Int × Text :=
  let (negative, unsigned) := takeSign (text.dropWhile isspace)
  let number := match announcedBase .detect unsigned with
    | (16, digits) => digits
    | _ => unsigned
  match takeDigits 16 number with
  | ([], _) => (0, text)
  | (digits, rest) =>
      let magnitude : Int := ofDigits 16 digits
      (saturate (if negative then -magnitude else magnitude), rest)

/-- A character with the given number, in UTF-8. -/
def characterBytes (number : Int) : Text :=
  if number < 0x80 then [UInt8.ofNat (number % 256).toNat]
  else
    let code := number.toNat
    let payload := (Nat.log2 code + 1 - 2) / 5
    UInt8.ofNat ((0xFF <<< (7 - payload)) ||| (code >>> (6 * payload))) ::
      (List.range payload).reverse.map fun place =>
        UInt8.ofNat (0x80 ||| ((code >>> (6 * place)) &&& 0x3F))

/-- What a character reference after an ampersand stands for, and what follows it. -/
def characterReference (text : Text) : Option (Text × Text) :=
  let number : Option (Int × Text) := match text with
    | 35 :: 120 :: digits => some (strtolHex digits)
    | 35 :: digits => some (strtol digits .decimal)
    | _ => none
  match number with
  | some (code, 59 :: rest) => if code = 0 then none else some (characterBytes code, rest)
  | _ => none

/-- The predefined entities and their replacement texts. -/
def entities : List (Text × Text) :=
  [(ascii "lt;", ascii "&#60;"), (ascii "gt;", ascii "&#62;"), (ascii "quot;", ascii "&#34;"),
    (ascii "apos;", ascii "&#39;"), (ascii "amp;", ascii "&#38;")]

/-- The loop over references and whitespace; replacement texts are decoded in turn. -/
def decodeReferences : Nat → Text → Text
  | 0, text => text
  | _ + 1, [] => []
  | steps + 1, byte :: rest =>
      if byte = 38 then
        match characterReference rest with
        | some (decoded, later) => decoded ++ decodeReferences steps later
        | none =>
            match entities.find? fun entry => entry.1.isPrefixOf rest with
            | some entry => decodeReferences steps (entry.2 ++ rest.drop entry.1.length)
            | none => byte :: decodeReferences steps rest
      else if isspace byte then 32 :: decodeReferences steps rest
      else byte :: decodeReferences steps rest

/-- The value of an attribute. -/
-- Two steps a byte are enough: a replacement text is one byte longer than an entity at most, and it
-- is a character reference.
def ezxmlDecode (value : Text) : Text :=
  decodeReferences (2 * value.length) (normalizeLines value)

/-! ## Decoding escaped values -/

/-- The only whitespace in a text is the space. -/
def PlainSpaces (text : Text) : Prop := ∀ byte ∈ text, isspace byte → byte = 32

instance (text : Text) : Decidable (PlainSpaces text) := List.decidableBAll _ _

theorem normalizeLines_eq {text : Text} (absent : 13 ∉ text) : normalizeLines text = text := by
  induction text using normalizeLines.induct with
  | case1 => rfl
  | case2 rest ih => simp at absent
  | case3 byte rest notBoth ih =>
      have other : byte ≠ 13 := fun same => absent (same ▸ List.mem_cons_self)
      rw [normalizeLines.eq_3 _ _ notBoth, if_neg other,
        ih fun later => absent (List.mem_cons_of_mem _ later)]

theorem escapeXml_cases (byte : UInt8) :
    byte ∈ [39, 34, 60, 62, 38] ∨ byte ≠ 38 ∧ escapeXml byte = [byte] := by
  by_cases special : byte ∈ ([39, 34, 60, 62, 38] : List UInt8)
  · exact .inl special
  · simp only [List.mem_cons, List.not_mem_nil, or_false, not_or] at special
    refine .inr ⟨special.2.2.2.2, ?_⟩
    simp [escapeXml, special]

set_option maxRecDepth 4000 in
private theorem decodeReferences_escapeXml {byte : UInt8} (plain : isspace byte → byte = 32)
    (steps : Nat) (tail : Text) : ∃ left, steps ≤ left ∧
      decodeReferences (steps + 2) (escapeXml byte ++ tail) =
        byte :: decodeReferences left tail := by
  rcases escapeXml_cases byte with special | ⟨notAmpersand, bare⟩
  · refine ⟨steps, Nat.le_refl steps, ?_⟩
    simp only [List.mem_cons, List.not_mem_nil, or_false] at special
    rcases special with rfl | rfl | rfl | rfl | rfl <;> rfl
  · refine ⟨steps + 1, Nat.le_succ steps, ?_⟩
    rw [bare, List.singleton_append, decodeReferences, if_neg notAmpersand]
    split
    · rename_i space
      rw [plain space]
    · rfl

private theorem decodeReferences_escaped {value : Text} (plain : PlainSpaces value) {steps : Nat}
    (enough : 2 * value.length ≤ steps) :
    decodeReferences steps (value.flatMap escapeXml) = value := by
  induction value generalizing steps with
  | nil => cases steps <;> rfl
  | cons byte value ih =>
      obtain ⟨steps, rfl⟩ : ∃ fewer, steps = fewer + 2 :=
        ⟨steps - 2, by simp only [List.length_cons] at enough; omega⟩
      obtain ⟨left, more, decoded⟩ := decodeReferences_escapeXml
        (plain byte List.mem_cons_self) steps (value.flatMap escapeXml)
      simp only [List.length_cons] at enough
      rw [List.flatMap_cons, decoded,
        ih (fun other later => plain other (List.mem_cons_of_mem _ later)) (by omega)]

/-- Escaping leaves no quote and no opening bracket, and carriage returns only where they were. -/
theorem mem_escapeXml {byte other : UInt8} (member : other ∈ escapeXml byte) :
    other ≠ 39 ∧ other ≠ 60 ∧ (other = 13 → byte = 13) := by
  by_cases special : byte ∈ ([39, 34, 60, 62, 38] : List UInt8)
  · have written : ∀ byte ∈ ([39, 34, 60, 62, 38] : List UInt8), ∀ other ∈ escapeXml byte,
        other ≠ 39 ∧ other ≠ 60 ∧ other ≠ 13 := by decide +kernel
    obtain ⟨noQuote, noBracket, noReturn⟩ := written byte special other member
    exact ⟨noQuote, noBracket, fun same => absurd same noReturn⟩
  · simp only [List.mem_cons, List.not_mem_nil, or_false, not_or] at special
    obtain rfl : other = byte := by simpa [escapeXml, special] using member
    exact ⟨special.1, special.2.2.1, id⟩

private theorem length_le_escaped (value : Text) :
    value.length ≤ (value.flatMap escapeXml).length := by
  induction value with
  | nil => exact Nat.le_refl 0
  | cons byte value ih =>
      have written : 0 < (escapeXml byte).length := by
        rcases escapeXml_cases byte with special | ⟨-, bare⟩
        · revert byte
          decide +kernel
        · rw [bare]
          exact Nat.one_pos
      rw [List.flatMap_cons, List.length_append, List.length_cons]
      omega

theorem PlainSpaces.noReturn {value : Text} (plain : PlainSpaces value) : 13 ∉ value :=
  fun member =>
  absurd (plain 13 member rfl) (by decide)

/-- A value whose only whitespace is the space survives being escaped and read. -/
theorem ezxmlDecode_escaped {value : Text} (plain : PlainSpaces value) :
    ezxmlDecode (value.flatMap escapeXml) = value := by
  have noReturn : 13 ∉ value.flatMap escapeXml := by
    intro member
    obtain ⟨byte, present, written⟩ := List.mem_flatMap.mp member
    exact plain.noReturn ((mem_escapeXml written).2.2 rfl ▸ present)
  rw [ezxmlDecode, normalizeLines_eq noReturn]
  exact decodeReferences_escaped plain (Nat.mul_le_mul_left 2 (length_le_escaped value))

private theorem decodeReferences_bare {value : Text} (plain : PlainSpaces value)
    (noReference : 38 ∉ value) {steps : Nat}
    (enough : value.length ≤ steps) : decodeReferences steps value = value := by
  induction value generalizing steps with
  | nil => cases steps <;> rfl
  | cons byte value ih =>
      cases steps with
      | zero => cases enough
      | succ steps =>
          have notAmpersand : byte ≠ 38 := fun same => noReference (same ▸ List.mem_cons_self)
          have later : decodeReferences steps value = value :=
            ih (fun other member => plain other (List.mem_cons_of_mem _ member))
              (fun member => noReference (List.mem_cons_of_mem _ member))
              (Nat.le_of_succ_le_succ enough)
          rw [decodeReferences, if_neg notAmpersand, later]
          split
          · rename_i space
            rw [plain byte List.mem_cons_self space]
          · rfl

/-- A text without references, and with spaces as its only whitespace, is read as it is. -/
theorem ezxmlDecode_bare {value : Text} (plain : PlainSpaces value) (noReference : 38 ∉ value) :
    ezxmlDecode value = value := by
  rw [ezxmlDecode, normalizeLines_eq plain.noReturn]
  exact decodeReferences_bare plain noReference (by omega)

end Pianod
