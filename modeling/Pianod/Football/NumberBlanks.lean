import Pianod.Football.FillIn
import Pianod.Foundation.DecimalNumber

/-!
# Blanks for numbers

A blank for numbers is meant to accept decimal numbers, those of a range if it has one.  What it
does accept beyond them is the empty term and a lone sign, or what `strtol` understands besides
numbers.
-/

namespace Football

open Foundation

/-- A blank for a number. -/
def numberBlank (name : Text) : Text := 123 :: 35 :: (name ++ [125])

/-- A blank for a number between two others. -/
def rangeBlank (name : Text) (minimum maximum : Int) : Text :=
  123 :: 35 :: (name ++ 58 :: (decimalText minimum ++ 45 :: (decimalText maximum ++ [125])))

/-! ## Reading the blanks -/

/-- The digits of a number; only zero starts with a zero. -/
theorem numeral_digits (number : Nat) : ∃ first rest, numeral 10 number = first :: rest ∧
    (∀ byte ∈ first :: rest, isdigit byte = true) ∧ (first = 48 → number = 0 ∧ rest = []) := by
  obtain ⟨digit, digits, spelled, zero⟩ := leadingDigits_cons 10 number
  have bound : ∀ other ∈ digit :: digits, other < 10 := fun other member =>
    leadingDigits_lt (by decide) (spelled ▸ member)
  refine ⟨digitByte digit, digits.map digitByte, by rw [numeral, spelled, List.map_cons], ?_, ?_⟩
  · intro byte member
    rw [← List.map_cons] at member
    obtain ⟨other, inside, rfl⟩ := List.mem_map.mp member
    have known : ∀ digit < 10, isdigit (digitByte digit) = true := by decide
    exact known other (bound other inside)
  · intro same
    by_cases nothing : digit = 0
    · exact ⟨(zero nothing).1, by rw [(zero nothing).2]; rfl⟩
    · exact absurd same (digitByte_ne_zero (bound digit List.mem_cons_self) nothing)

private theorem mem_decimalText {number : Int} {byte : UInt8} (member : byte ∈ decimalText number) :
    byte = 45 ∨ isdigit byte = true := by
  obtain ⟨first, rest, spelled, digits, -⟩ := numeral_digits number.natAbs
  rw [decimalText, spelled] at member
  rcases List.mem_append.mp member with sign | inside
  · split at sign
    · exact .inl (List.mem_singleton.mp sign)
    · cases sign
  · exact .inr (digits byte inside)

/-- A spelled number denotes itself. -/
theorem numberOf_decimalText (number : Int) : numberOf (decimalText number) = some number := by
  obtain ⟨first, rest, spelled, digits, -⟩ := numeral_digits number.natAbs
  have value : decimalValue (numeral 10 number.natAbs) = number.natAbs := by
    have known : ∀ digit < 10, (digitByte digit).toNat - 48 = digit := by decide
    have same : (numeral 10 number.natAbs).map (fun digit => digit.toNat - 48) =
        leadingDigits 10 number.natAbs := by
      rw [numeral, List.map_map]
      refine (List.map_congr_left fun digit member => ?_).trans (List.map_id _)
      exact known digit (leadingDigits_lt (by decide) member)
    rw [← ofDigits_ten, same, ofDigits_leadingDigits]
  have unsigned : unsignedNumber (first :: rest) = some number.natAbs := by
    rw [← spelled, unsignedNumber, value, if_pos]
    rw [spelled]
    exact ⟨List.cons_ne_nil _ _, List.all_eq_true.mpr digits⟩
  rw [decimalText, spelled]
  by_cases negative : number < 0
  · rw [if_pos negative]
    show (unsignedNumber (first :: rest)).map _ = _
    rw [unsigned, Option.map_some]
    congr 1
    omega
  · have bare : first ≠ 45 := by
      rintro rfl
      exact absurd (digits 45 List.mem_cons_self) (by decide)
    rw [if_neg negative, List.nil_append, numberOf]
    · rw [unsigned, Option.map_some]
      congr 1
      omega
    · exact fun text same => bare (List.cons.inj same).1

theorem blankType_numberBlank (doubles : Doubles) {name : Text} (plain : 58 ∉ name) :
    blankType doubles (numberBlank name) = .ok .numeric := by
  have absent : (numberBlank name).dropWhile (· != 58) = [] := by
    refine List.dropWhile_eq_nil_iff.mpr fun byte member => ?_
    rcases List.mem_cons.mp member with rfl | member
    · rfl
    rcases List.mem_cons.mp member with rfl | member
    · rfl
    rcases List.mem_append.mp member with inside | last
    · simpa using fun same : byte = 58 => plain (same ▸ inside)
    · rw [List.mem_singleton.mp last]
      rfl
  rw [blankType, afterFirst, absent]
  rfl

/-- The upper end of a range starts after the dash that is not a sign. -/
theorem upper_eq (minimum : Int) (rest : Text) :
    (if (decimalText minimum ++ 45 :: rest).head? = some 45 then
        fromFirst 45 ((decimalText minimum ++ 45 :: rest).drop 1)
      else fromFirst 45 (decimalText minimum ++ 45 :: rest)) = some (45 :: rest) := by
  obtain ⟨first, digits, spelled, all, -⟩ := numeral_digits minimum.natAbs
  have other : ∀ byte ∈ first :: digits, (byte != 45) = true := fun byte member => by
    have digit := all byte member
    cases same : byte != 45 with
    | true => rfl
    | false =>
        rw [bne_eq_false_iff_eq.mp same] at digit
        cases digit
  have found : fromFirst 45 (first :: digits ++ 45 :: rest) = some (45 :: rest) := by
    rw [fromFirst, List.dropWhile_append_of_pos other, List.dropWhile_cons_of_neg (by decide)]
  rw [decimalText, spelled]
  by_cases negative : minimum < 0
  · rw [if_pos negative]
    exact (if_pos rfl).trans found
  · have start : ¬(first :: digits ++ 45 :: rest).head? = some 45 := fun same => by
      have bad := other first List.mem_cons_self
      rw [Option.some.inj same] at bad
      cases bad
    rw [if_neg negative, List.nil_append, if_neg start, found]

/-- Spelled as usual, with an upper end other than zero, a range has no leading zeros. -/
theorem rangeRadix_eq (minimum maximum : Int) (rest : Text) (some : maximum ≠ 0) :
    rangeRadix (decimalText minimum ++ 45 :: rest) (45 :: (decimalText maximum ++ [125])) =
      .decimal := by
  obtain ⟨first, digits, spelled, all, zero⟩ := numeral_digits minimum.natAbs
  obtain ⟨first', digits', spelled', all', zero'⟩ := numeral_digits maximum.natAbs
  have upper : ¬(45 :: (decimalText maximum ++ [125]))[1]? = Option.some 48 := by
    rw [decimalText, spelled']
    split
    · exact fun same => absurd (Option.some.inj same) (by decide)
    · intro same
      exact some (Int.natAbs_eq_zero.mp (zero' (Option.some.inj same)).1)
  rw [rangeRadix, if_neg]
  rw [decimalText, spelled]
  rintro (⟨head, next⟩ | ⟨head, next⟩ | last)
  · by_cases negative : minimum < 0
    · rw [if_pos negative] at head
      exact absurd (Option.some.inj head) (by decide)
    · rw [if_neg negative] at head next
      rw [(zero (Option.some.inj head)).2] at next
      exact next rfl
  · by_cases negative : minimum < 0
    · rw [if_pos negative] at next
      have nothing := Int.natAbs_eq_zero.mp (zero (Option.some.inj next)).1
      omega
    · rw [if_neg negative] at head
      have digit := all first List.mem_cons_self
      rw [Option.some.inj head] at digit
      cases digit
  · exact upper last

/-- The range of a blank is the one that is written, as far as it fits. -/
theorem blankType_rangeBlank (doubles : Doubles) {name : Text} {minimum maximum : Int}
    (plain : 58 ∉ name ∧ 46 ∉ name) (ordered : saturate minimum < saturate maximum)
    (some : maximum ≠ 0) :
    blankType doubles (rangeBlank name minimum maximum) =
      .ok (.rangedInteger ⟨saturate minimum, saturate maximum, .decimal, ordered,
        (saturate_bounds _).1, (saturate_bounds _).2⟩) := by
  have range : afterFirst 58 (rangeBlank name minimum maximum) =
      Option.some (decimalText minimum ++ 45 :: (decimalText maximum ++ [125])) := by
    have front : ∀ byte ∈ 123 :: 35 :: name, (byte != 58) = true := by
      intro byte member
      rcases List.mem_cons.mp member with rfl | member
      · rfl
      rcases List.mem_cons.mp member with rfl | inside
      · rfl
      · simpa using fun same : byte = 58 => plain.1 (same ▸ inside)
    rw [afterFirst, rangeBlank, ← List.cons_append, ← List.cons_append,
      List.dropWhile_append_of_pos front, List.dropWhile_cons_of_neg (by decide)]
  have integer : 46 ∉ rangeBlank name minimum maximum := by
    have absent (number : Int) : 46 ∉ decimalText number := fun member => by
      rcases mem_decimalText member with same | digit
      · cases same
      · cases digit
    simp [rangeBlank, plain.2, absent]
  have lower := @strtol_decimalText_append minimum (45 :: (decimalText maximum ++ [125])) rfl
  have upper := @strtol_decimalText_append maximum [125] rfl
  have read : integerRange (decimalText minimum ++ 45 :: (decimalText maximum ++ [125]))
      (45 :: (decimalText maximum ++ [125])) =
      .ok ⟨saturate minimum, saturate maximum, .decimal, ordered,
        (saturate_bounds _).1, (saturate_bounds _).2⟩ := by
    have radix := rangeRadix_eq minimum maximum (decimalText maximum ++ [125]) some
    simp [integerRange, radix, lower, upper, ordered]
  rw [blankType, if_neg (by simp [rangeBlank]), range]
  simp only
  rw [upper_eq]
  simp only
  rw [if_neg integer, read]
  rfl

/-! ## What the blanks accept -/

/-- A number can be read into a range: it is in the range, or beyond an end that is at the limits of
the type. -/
def Reaches (minimum maximum number : Int) : Prop :=
  (minimum ≤ number ∨ minimum ≤ longMin) ∧ (number ≤ maximum ∨ longMax ≤ maximum)

/-- The terms about which a range is mistaken. -/
inductive Mistaken (minimum maximum : Int) (term : Text) : Prop where
  | empty (nothing : term = []) (zero : minimum ≤ 0 ∧ 0 ≤ maximum)
  | lead {number : Int} (led : skipLead term ≠ term)
      (spells : numberOf (skipLead term) = some number) (reaches : Reaches minimum maximum number)
  | limit {number : Int} (spells : numberOf term = some number)
      (reaches : Reaches minimum maximum number)
      (outside : ¬(minimum ≤ number ∧ number ≤ maximum))

theorem saturate_eq (value : Int) : saturate value =
    if value < longMin then longMin else if longMax < value then longMax else value := by
  rw [saturate]
  have order : longMin < longMax := by decide
  split_ifs with below above
  · rw [min_eq_right (by omega), max_eq_left (by omega)]
  · rw [min_eq_left (by omega), max_eq_right (by omega)]
  · rw [min_eq_right (by omega), max_eq_right (by omega)]

theorem saturate_mem_iff {minimum maximum : Int} (ordered : saturate minimum < saturate maximum)
    (number : Int) :
    saturate minimum ≤ saturate number ∧ saturate number ≤ saturate maximum ↔
      Reaches minimum maximum number := by
  have order : longMin < longMax := by decide
  simp only [saturate_eq, Reaches] at *
  split_ifs at * <;> omega

/-- A range accepts numbers behind a lead, and the empty term as zero. -/
theorem accepts_range_iff {doubles : Doubles} {minimum maximum : Int}
    (ordered : saturate minimum < saturate maximum) (term : Text) :
    (ValueType.rangedInteger ⟨saturate minimum, saturate maximum, .decimal, ordered,
        (saturate_bounds _).1, (saturate_bounds _).2⟩ : ValueType doubles).accepts term = true ↔
      term = [] ∧ minimum ≤ 0 ∧ 0 ≤ maximum ∨
        ∃ number, numberOf (skipLead term) = some number ∧ Reaches minimum maximum number := by
  have within (value : Int) : (¬(value < saturate minimum ∨ value > saturate maximum)) ↔
      saturate minimum ≤ value ∧ value ≤ saturate maximum := by
    rw [not_or, not_lt, not_lt]
  have accepted : (ValueType.rangedInteger ⟨saturate minimum, saturate maximum, .decimal, ordered,
        (saturate_bounds _).1, (saturate_bounds _).2⟩ : ValueType doubles).accepts term = true ↔
      (strtol term .decimal).2 = [] ∧ saturate minimum ≤ (strtol term .decimal).1 ∧
        (strtol term .decimal).1 ≤ saturate maximum := by
    rw [← within, ValueType.accepts, ValueType.check]
    simp only
    split_ifs <;> simp_all
  rw [accepted]
  constructor
  · rintro ⟨whole, bounds⟩
    rcases numberOf_of_strtol whole with rfl | ⟨number, spells⟩
    · have zero : saturate minimum ≤ 0 ∧ 0 ≤ saturate maximum := bounds
      have order : longMin < 0 ∧ 0 < longMax := by decide
      simp only [saturate_eq] at zero
      refine .inl ⟨rfl, ?_⟩
      split_ifs at zero <;> omega
    · rw [strtol_of_numberOf spells] at bounds
      exact .inr ⟨number, spells, (saturate_mem_iff ordered number).mp bounds⟩
  · rintro (⟨rfl, zero⟩ | ⟨number, spells, reaches⟩)
    · have order : longMin < 0 ∧ 0 < longMax := by decide
      refine ⟨rfl, ?_⟩
      show saturate minimum ≤ 0 ∧ 0 ≤ saturate maximum
      simp only [saturate_eq]
      split_ifs <;> omega
    · rw [strtol_of_numberOf spells]
      exact ⟨rfl, (saturate_mem_iff ordered number).mpr reaches⟩

/-- A blank for numbers accepts the empty term and a lone sign besides numbers. -/
theorem isNumeric_iff (term : Text) : isNumeric term = true ↔
    (∃ number, numberOf term = some number) ∨ term = [] ∨ term = [45] := by
  have unsigned (digits : Text) : digits.all isdigit = true ↔
      (∃ magnitude, unsignedNumber digits = some magnitude) ∨ digits = [] := by
    rw [unsignedNumber]
    by_cases nothing : digits = []
    · simp [nothing]
    · simp [nothing]
  by_cases minus : ∃ rest, term = 45 :: rest
  · obtain ⟨rest, rfl⟩ := minus
    have read : isNumeric (45 :: rest) = rest.all isdigit := rfl
    rw [read, unsigned, numberOf]
    simp
  · have positive : ∀ rest, term ≠ 45 :: rest := fun rest same => minus ⟨rest, same⟩
    have read : isNumeric term = term.all isdigit := by
      rw [isNumeric]
      exact positive
    rw [read, unsigned, numberOf]
    · simp [positive]
    · exact positive

/-- A blank for any number is right but for the empty term and the lone sign; a blank for the
numbers of a range is right but for the terms about which its range is mistaken. -/
theorem numberBlanks_iff (doubles : Doubles) {name : Text} (plain : 58 ∉ name) :
    (∃ type, blankType doubles (numberBlank name) = .ok type ∧ ∀ term,
      ((type.accepts term = true ↔ ∃ number, numberOf term = some number) ↔
        term ≠ [] ∧ term ≠ [45])) ∧
    ∀ minimum maximum : Int, 46 ∉ name → saturate minimum < saturate maximum → maximum ≠ 0 →
      ∃ type, blankType doubles (rangeBlank name minimum maximum) = .ok type ∧ ∀ term,
        ((type.accepts term = true ↔
            ∃ number, numberOf term = some number ∧ minimum ≤ number ∧ number ≤ maximum) ↔
          ¬Mistaken minimum maximum term) := by
  constructor
  · refine ⟨_, blankType_numberBlank doubles plain, fun term => ?_⟩
    have accepted : (ValueType.numeric : ValueType doubles).accepts term = true ↔
        isNumeric term = true := by
      rw [ValueType.accepts, ValueType.check]
      cases isNumeric term <;> simp
    rw [accepted, isNumeric_iff]
    have empty : ¬∃ number, numberOf [] = some number := by simp [numberOf, unsignedNumber]
    have sign : ¬∃ number, numberOf [45] = some number := by simp [numberOf, unsignedNumber]
    constructor
    · intro exact
      refine ⟨?_, ?_⟩
      · rintro rfl
        exact empty (exact.mp (.inr (.inl rfl)))
      · rintro rfl
        exact sign (exact.mp (.inr (.inr rfl)))
    · rintro ⟨some, more⟩
      simp [some, more]
  · intro minimum maximum integer ordered some
    refine ⟨_, blankType_rangeBlank doubles ⟨plain, integer⟩ ordered some, fun term => ?_⟩
    rw [accepts_range_iff ordered]
    constructor
    · intro exact mistaken
      cases mistaken with
      | empty nothing zero =>
          subst nothing
          obtain ⟨number, spells, -⟩ := exact.mp (.inl ⟨rfl, zero⟩)
          cases spells
      | lead led spells reaches =>
          obtain ⟨number, spells', -⟩ := exact.mp (.inr ⟨_, spells, reaches⟩)
          exact led (skipLead_of_numberOf spells')
      | limit spells reaches outside =>
          obtain ⟨number, spells', within⟩ := exact.mp
            (.inr ⟨_, by rw [skipLead_of_numberOf spells]; exact spells, reaches⟩)
          rw [spells] at spells'
          cases spells'
          exact outside within
    · intro right
      constructor
      · rintro (⟨nothing, zero⟩ | ⟨number, spells, reaches⟩)
        · exact absurd (.empty nothing zero) right
        · by_cases led : skipLead term = term
          · rw [led] at spells
            by_cases within : minimum ≤ number ∧ number ≤ maximum
            · exact ⟨number, spells, within⟩
            · exact absurd (.limit spells reaches within) right
          · exact absurd (.lead led spells reaches) right
      · rintro ⟨number, spells, lower, upper⟩
        exact .inr ⟨number, by rw [skipLead_of_numberOf spells]; exact spells, .inl lower,
          .inl upper⟩

/-- Floating-point numbers of which none can be read. -/
def noDoubles : Doubles where
  Value := Unit
  strtod := fun text => ((), text)
  less := fun _ _ => false
  same := fun _ _ => false
  less_asymm := nofun
  less_congr := nofun
  strtod_front := fun front back same => by
    have nothing : front = [] := List.append_left_eq_self.mp same
    rw [nothing]
  strtod_suffix := fun text => List.suffix_refl text
  strtod_mark := rfl

private theorem seven_right : ¬Mistaken 1 50 (ascii "7") := by
  rintro (⟨nothing, -⟩ | ⟨led, -, -⟩ | ⟨spells, -, outside⟩)
  · cases nothing
  · exact led rfl
  · cases spells
    exact outside (by decide)

theorem numberBlanks_sample : ∃ type, blankType noDoubles (rangeBlank (ascii "length") 1 50) =
    .ok type ∧ (type.accepts (ascii "7") = true ↔
      ∃ number, numberOf (ascii "7") = some number ∧ 1 ≤ number ∧ number ≤ 50) := by
  obtain ⟨type, read, exact⟩ := (numberBlanks_iff noDoubles (by decide)).2 1 50
    (by decide : 46 ∉ ascii "length") (by decide) (by decide)
  exact ⟨type, read, (exact _).mpr seven_right⟩

/-- A number may be empty or a lone sign; in a range, it may be empty, or have a lead. -/
theorem numberBlanks_lenient :
    (∃ type, blankType noDoubles (numberBlank (ascii "n")) = .ok type ∧
      type.accepts [] = true ∧ type.accepts (ascii "-") = true) ∧
    (∃ type, blankType noDoubles (rangeBlank (ascii "n") (-5) 50) = .ok type ∧
      type.accepts [] = true ∧ type.accepts (ascii " +7") = true) ∧
    numberOf [] = none ∧ numberOf (ascii "-") = none ∧ numberOf (ascii " +7") = none :=
  ⟨⟨_, rfl, rfl, rfl⟩, ⟨_, rfl, rfl, rfl⟩, rfl, rfl, rfl⟩

end Football
