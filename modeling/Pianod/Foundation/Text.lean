import Mathlib.Order.Compare
import Mathlib.Data.List.Lex
import Mathlib.Data.List.TakeWhile
import Mathlib.Tactic.Common

/-!
# Byte texts

C strings are the bytes before their terminating NUL.  The two comparisons of the C library are
three-way orders on such texts, one of them after folding ASCII letters.
-/

namespace Foundation

/-- The bytes of a C string, without the terminating NUL. -/
abbrev Text := List UInt8

/-- The bytes of a literal made of ASCII characters. -/
def ascii (literal : String) : Text := literal.toList.map fun letter => UInt8.ofNat letter.toNat

/-- A literal is made of its letters. -/
-- Rewriting with this is linear in the length of the literal, unlike unpacking its encoding.
theorem ascii_ofList (letters : List Char) :
    ascii (String.ofList letters) = letters.map fun letter => UInt8.ofNat letter.toNat := by
  rw [ascii, String.toList_ofList]

/-- Whitespace in the C locale. -/
def isspace (byte : UInt8) : Bool := byte == 32 || (9 ≤ byte && byte ≤ 13)

/-- Decimal digits in the C locale. -/
def isdigit (byte : UInt8) : Bool := 48 ≤ byte && byte ≤ 57

theorem isspace_of_isdigit {byte : UInt8} (digit : isdigit byte = true) : isspace byte = false := by
  have lower := of_decide_eq_true (Bool.and_eq_true_iff.mp digit).1
  cases white : isspace byte with
  | false => rfl
  | true =>
      rcases Bool.or_eq_true_iff.mp white with blank | control
      · rw [beq_iff_eq.mp blank] at lower
        exact absurd lower (by decide)
      · have upper := of_decide_eq_true (Bool.and_eq_true_iff.mp control).2
        exact absurd (UInt8.le_trans lower upper) (by decide)

/-- The part of a text before the first occurrence of a byte. -/
def before (byte : UInt8) (text : Text) : Text := text.takeWhile (· != byte)

/-- The part of a text from the first occurrence of a byte on, if there is one. -/
def fromFirst (byte : UInt8) (text : Text) : Option Text :=
  match text.dropWhile (· != byte) with
  | [] => none
  | found :: rest => some (found :: rest)

/-- The part of a text after the first occurrence of a byte, if there is one. -/
def afterFirst (byte : UInt8) (text : Text) : Option Text :=
  match text.dropWhile (· != byte) with
  | [] => none
  | _ :: rest => some rest

namespace Text

/-- The C library's `tolower` in the C locale. -/
def toLower (byte : UInt8) : UInt8 := if 65 ≤ byte ∧ byte ≤ 90 then byte + 32 else byte

/-- Fold the ASCII letters of a text to lower case. -/
def foldCase (text : Text) : Text := text.map toLower

/-- The sign of the C library's `strcmp`. -/
def strcmp (left right : Text) : Ordering := compare left right

/-- The sign of the C library's `strcasecmp`. -/
def strcasecmp (left right : Text) : Ordering := compareOn foldCase left right

instance : Std.TransCmp strcmp := inferInstanceAs (Std.TransCmp (compare (α := Text)))

instance : Std.LawfulEqCmp strcmp := inferInstanceAs (Std.LawfulEqCmp (compare (α := Text)))

instance : Std.TransCmp strcasecmp := inferInstanceAs (Std.TransCmp (compareOn foldCase))

@[simp]
theorem strcmp_eq_iff {left right : Text} : strcmp left right = .eq ↔ left = right :=
  Std.LawfulEqCmp.compare_eq_iff_eq

@[simp]
theorem strcasecmp_eq_iff {left right : Text} :
    strcasecmp left right = .eq ↔ foldCase left = foldCase right :=
  Std.LawfulEqOrd.compare_eq_iff_eq

theorem strcasecmp_self (text : Text) : strcasecmp text text = .eq := by
  simp

/-- No byte of the text is NUL. -/
def NulFree (text : Text) : Prop := ∀ byte ∈ text, byte ≠ 0

instance (text : Text) : Decidable (NulFree text) := List.decidableBAll _ _

theorem NulFree.append {front back : Text} (first : NulFree front) (second : NulFree back) :
    NulFree (front ++ back) := fun byte member =>
  (List.mem_append.mp member).elim (first byte) (second byte)

/-- The C string at the start of an array of bytes. -/
def cString (bytes : Text) : Text := bytes.takeWhile (· ≠ 0)

theorem cString_eq {bytes : Text} (free : NulFree bytes) : bytes.cString = bytes := by
  rw [cString, List.takeWhile_eq_self_iff]
  exact fun byte member => decide_eq_true (free byte member)

/-- Where the C library's `strchr` finds a byte other than NUL. -/
def strchr (text : Text) (byte : UInt8) : Option Nat := text.cString.findIdx? (· == byte)

theorem strchr_eq {text : Text} (free : NulFree text) (byte : UInt8) :
    strchr text byte = text.findIdx? (· == byte) := by
  rw [strchr, cString_eq free]

/-- The lines that a separator ends, and the rest after the last separator. -/
def splitLines (separator : UInt8) : Text → List Text × Text
  | [] => ([], [])
  | byte :: text =>
      if byte = separator then
        ([] :: (splitLines separator text).1, (splitLines separator text).2)
      else match splitLines separator text with
        | ([], rest) => ([], byte :: rest)
        | (line :: lines, rest) => ((byte :: line) :: lines, rest)

/-- A text without separators is all rest. -/
theorem splitLines_of_not_mem {separator : UInt8} {text : Text} (absent : separator ∉ text) :
    splitLines separator text = ([], text) := by
  induction text with
  | nil => rfl
  | cons byte text ih =>
      have other : byte ≠ separator := fun same => absent (same ▸ List.mem_cons_self)
      have later : separator ∉ text := fun member => absent (List.mem_cons_of_mem _ member)
      rw [splitLines, if_neg other, ih later]

/-- A line leads the lines of what follows it. -/
theorem splitLines_line {separator : UInt8} {line : Text} (absent : separator ∉ line)
    (text : Text) :
    splitLines separator (line ++ separator :: text) =
      (line :: (splitLines separator text).1, (splitLines separator text).2) := by
  induction line with
  | nil => rw [List.nil_append, splitLines, if_pos rfl]
  | cons byte line ih =>
      have other : byte ≠ separator := fun same => absent (same ▸ List.mem_cons_self)
      have later : separator ∉ line := fun member => absent (List.mem_cons_of_mem _ member)
      rw [List.cons_append, splitLines, if_neg other, ih later]

/-- No separator is left in the rest. -/
theorem not_mem_splitLines_rest (separator : UInt8) (text : Text) :
    separator ∉ (splitLines separator text).2 := by
  induction text with
  | nil => simp [splitLines]
  | cons byte text ih =>
      by_cases same : byte = separator
      · rw [splitLines, if_pos same]
        exact ih
      · rw [splitLines, if_neg same]
        split
        · rename_i rest split_eq
          rw [split_eq] at ih
          intro member
          rcases List.mem_cons.mp member with here | later
          · exact same here.symm
          · exact ih later
        · rename_i line lines rest split_eq
          rw [split_eq] at ih
          exact ih

/-- A line has only bytes of the text it was split from. -/
theorem subset_of_mem_splitLines {separator : UInt8} {text line : Text}
    (member : line ∈ (splitLines separator text).1) : line ⊆ text := by
  induction text generalizing line with
  | nil => cases member
  | cons byte text ih =>
      by_cases same : byte = separator
      · rw [splitLines, if_pos same] at member
        rcases List.mem_cons.mp member with rfl | later
        · exact List.nil_subset _
        · exact List.Subset.trans (ih later) (List.subset_cons_self _ _)
      · rw [splitLines, if_neg same] at member
        split at member
        · cases member
        · rename_i first lines rest split_eq
          rw [split_eq] at ih
          rcases List.mem_cons.mp member with rfl | later
          · exact List.cons_subset_cons _ (ih List.mem_cons_self)
          · exact List.Subset.trans (ih (List.mem_cons_of_mem _ later)) (List.subset_cons_self _ _)

/-- Text that arrives in two parts splits as if the rest of the first part led the second. -/
theorem splitLines_append (separator : UInt8) (front back : Text) :
    splitLines separator (front ++ back) =
      ((splitLines separator front).1 ++
          (splitLines separator ((splitLines separator front).2 ++ back)).1,
        (splitLines separator ((splitLines separator front).2 ++ back)).2) := by
  induction front with
  | nil => simp [splitLines]
  | cons byte front ih =>
      rw [List.cons_append]
      by_cases same : byte = separator
      · rw [splitLines, if_pos same, splitLines, if_pos same, ih]
        rfl
      · rw [splitLines, if_neg same, splitLines, if_neg same, ih]
        rcases splitLines separator front with ⟨lines, rest⟩
        cases lines with
        | nil =>
            simp only [List.nil_append, List.cons_append]
            rw [splitLines, if_neg same]
        | cons line lines => rfl

end Text

end Foundation
