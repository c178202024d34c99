import Pianod.Foundation.FallibleRun
import Pianod.Foundation.Strtol

/-!
# Fill-in-the-blanks

A blank in a command pattern stands for one term.  It takes any term, a number, or a number within a
range; the range is read from the blank's text when the pattern is compiled, and holds at least two
values.
-/

namespace Football

open Foundation

/-- The floating-point numbers of the C library, as far as ranges depend on them. -/
structure Doubles where
  /-- The numbers. -/
  Value : Type
  /-- The number at the start of a text, and what follows it. -/
  strtod : Text → Value × Text
  /-- The comparison of two numbers. -/
  less : Value → Value → Bool
  /-- Whether two numbers are equal. -/
  same : Value → Value → Bool
  less_asymm : ∀ {left right}, less left right = true → less right left = false
  less_congr : ∀ {left right}, same left right = true →
    ∀ other, less left other = less right other ∧ less other left = less other right
  /-- A number that is followed by something is the same without it. -/
  strtod_front : ∀ front back, (strtod (front ++ back)).2 = back →
    strtod front = ((strtod (front ++ back)).1, [])
  strtod_suffix : ∀ text, (strtod text).2 <:+ text
  /-- A text that does not start as a number does is not read. -/
  strtod_mark : (strtod (ascii "!")).2 = ascii "!"

variable {doubles : Doubles}

/-- The integers that a blank accepts. -/
structure IntegerRange where
  minimum : Int
  maximum : Int
  /-- The base in which it is written. -/
  radix : Radix
  /-- The pattern checks that the range is not empty. -/
  ordered : minimum < maximum
  lower : longMin ≤ minimum
  upper : maximum ≤ longMax
deriving DecidableEq

/-- The real numbers that a blank accepts. -/
structure RealRange (doubles : Doubles) where
  minimum : doubles.Value
  maximum : doubles.Value
  ordered : doubles.less minimum maximum = true
  spelled : ∃ text, doubles.strtod text = (minimum, [])

/-- Possible value types. -/
inductive ValueType (doubles : Doubles) where
  | string
  | numeric
  | rangedInteger (range : IntegerRange)
  | rangedReal (range : RealRange doubles)

/-- What is wrong with a command. -/
inductive ParseError where
  | failure
  | incomplete
  | invalidKeyword
  | extraTerms
  | numeric
  | range
deriving DecidableEq, Repr

/-- The code that stands for an error. -/
def ParseError.code : ParseError → Int
  | .failure => 0
  | .incomplete => -1
  | .invalidKeyword => -2
  | .extraTerms => -3
  | .numeric => -4
  | .range => -5

/-! ## Reading a blank -/

/-- Whether a range is read with the radix that the prefixes announce: one of its ends has a leading
zero.  A minimum of plain zero does not count; a maximum of plain zero does. -/
def rangeRadix (range upperrange : Text) : Radix :=
  if (range.head? = some 48 ∧ range[1]? ≠ some 45) ∨
      (range.head? = some 45 ∧ range[1]? = some 48) ∨ upperrange[1]? = some 48 then .detect
  else .decimal

theorem saturate_bounds (value : Int) : longMin ≤ saturate value ∧ saturate value ≤ longMax := by
  rw [saturate]
  exact ⟨le_max_left _ _, max_le (by decide) (min_le_left _ _)⟩

theorem strtol_bounds (text : Text) (radix : Radix) :
    longMin ≤ (strtol text radix).1 ∧ (strtol text radix).1 ≤ longMax := by
  rw [strtol]
  simp only
  split
  · exact (by decide : longMin ≤ 0 ∧ 0 ≤ longMax)
  · exact saturate_bounds _

/-- The range of integers between two ends. -/
def integerRange (range upperrange : Text) : Except Fault IntegerRange :=
  let radix := rangeRadix range upperrange
  if (strtol range radix).2 ≠ upperrange then
    .error (.assertion "error && error == upperrange")
  else if (strtol (upperrange.drop 1) radix).2.head? ≠ some 125 then
    .error (.assertion "error && *error == '\x7d'")
  else if ordered : (strtol range radix).1 < (strtol (upperrange.drop 1) radix).1 then
    .ok ⟨_, _, radix, ordered, (strtol_bounds _ _).1, (strtol_bounds _ _).2⟩
  else .error (.assertion "min_integer < max_integer")

/-- A number at the start of a text can stand alone. -/
theorem Doubles.spelled (doubles : Doubles) (text : Text) :
    ∃ front, doubles.strtod front = ((doubles.strtod text).1, []) := by
  obtain ⟨front, split⟩ := doubles.strtod_suffix text
  refine ⟨front, ?_⟩
  have alone := doubles.strtod_front front (doubles.strtod text).2 (by rw [split])
  rwa [split] at alone

/-- The range of real numbers between two ends. -/
def realRange (doubles : Doubles) (range upperrange : Text) : Except Fault (RealRange doubles) :=
  if (doubles.strtod range).2 ≠ upperrange then
    .error (.assertion "error && error == upperrange")
  else if (doubles.strtod (upperrange.drop 1)).2.head? ≠ some 125 then
    .error (.assertion "error && *error == '\x7d'")
  else if ordered :
      doubles.less (doubles.strtod range).1 (doubles.strtod (upperrange.drop 1)).1 = true then
    .ok ⟨_, _, ordered, doubles.spelled range⟩
  else .error (.assertion "min_double < max_double")

/-- The values that a blank accepts. -/
def blankType (doubles : Doubles) (blankname : Text) : Except Fault (ValueType doubles) :=
  if blankname[1]? ≠ some 35 then .ok .string
  else match afterFirst 58 blankname with
    | none => .ok .numeric
    | some range =>
        -- The minimum may be negative.
        let upper := if range.head? = some 45 then
            fromFirst 45 (range.drop 1)
          else fromFirst 45 range
        match upper with
        | none => .error (.assertion "upperrange")
        | some upperrange =>
            if 46 ∈ blankname then
              (realRange doubles range upperrange).map ValueType.rangedReal
            else (integerRange range upperrange).map ValueType.rangedInteger

/-- The name of a blank. -/
def blankName (blankname : Text) : Except Fault (Option Text) :=
  let startname := if blankname[1]? = some 35 then blankname.drop 2 else blankname.drop 1
  let length := match startname.findIdx? (· == 58) with
    | some length => some length
    | none => startname.findIdx? (· == 125)
  match length with
  | none => .error (.assertion "endname")
  | some 0 => .ok none
  | some length => .ok (some (startname.take length))

/-! ## Checking a term -/

/-- Whether a term consists of digits, after a sign or not. -/
def isNumeric : Text → Bool
  | 45 :: term => term.all isdigit
  | term => term.all isdigit

/-- What keeps a blank from accepting a term. -/
def ValueType.check : ValueType doubles → Text → Option ParseError
  | .string, _ => none
  | .numeric, term => if isNumeric term then none else some .numeric
  | .rangedInteger range, term =>
      let (value, error) := strtol term range.radix
      if error ≠ [] then some .numeric
      else if value < range.minimum ∨ value > range.maximum then some .range
      else none
  | .rangedReal range, term =>
      let (value, error) := doubles.strtod term
      if error ≠ [] then some .numeric
      else if doubles.less value range.minimum || doubles.less range.maximum value then some .range
      else none

/-- Whether a blank accepts a term. -/
def ValueType.accepts (type : ValueType doubles) (term : Text) : Bool := (type.check term).isNone

/-- Whether the code takes two blanks for the same; the radix of a range is not looked at. -/
def ValueType.agrees : ValueType doubles → ValueType doubles → Bool
  | .string, .string => true
  | .numeric, .numeric => true
  | .rangedInteger known, .rangedInteger range =>
      known.minimum == range.minimum && known.maximum == range.maximum
  | .rangedReal known, .rangedReal range =>
      doubles.same known.minimum range.minimum && doubles.same known.maximum range.maximum
  | _, _ => false

/-! ## Blanks that differ in their radix only -/

/-- Two blanks that accept the same terms, up to the radix of a range. -/
inductive ValueType.Alike : ValueType doubles → ValueType doubles → Prop
  | string : Alike .string .string
  | numeric : Alike .numeric .numeric
  | rangedInteger {left right : IntegerRange} (minimum : left.minimum = right.minimum)
      (maximum : left.maximum = right.maximum) :
      Alike (.rangedInteger left) (.rangedInteger right)
  | rangedReal {left right : RealRange doubles}
      (below : ∀ value, doubles.less value left.minimum = doubles.less value right.minimum)
      (above : ∀ value, doubles.less left.maximum value = doubles.less right.maximum value) :
      Alike (.rangedReal left) (.rangedReal right)

/-- The radix with which a blank reads integers. -/
def ValueType.radix : ValueType doubles → Radix
  | .rangedInteger range => range.radix
  | _ => .decimal

namespace ValueType

theorem Alike.refl (type : ValueType doubles) : Alike type type := by
  cases type with
  | string => exact .string
  | numeric => exact .numeric
  | rangedInteger range => exact .rangedInteger rfl rfl
  | rangedReal range => exact .rangedReal (fun _ => rfl) fun _ => rfl

theorem Alike.symm {left right : ValueType doubles} (alike : Alike left right) :
    Alike right left := by
  cases alike with
  | string => exact .string
  | numeric => exact .numeric
  | rangedInteger minimum maximum => exact .rangedInteger minimum.symm maximum.symm
  | rangedReal below above =>
      exact .rangedReal (fun value => (below value).symm) fun value => (above value).symm

theorem Alike.trans {left middle right : ValueType doubles} (first : Alike left middle)
    (second : Alike middle right) : Alike left right := by
  cases first with
  | string => exact second
  | numeric => exact second
  | rangedInteger minimum maximum =>
      cases second with
      | rangedInteger lower upper =>
          exact .rangedInteger (minimum.trans lower) (maximum.trans upper)
  | rangedReal below above =>
      cases second with
      | rangedReal lower upper =>
          exact .rangedReal (fun value => (below value).trans (lower value))
            fun value => (above value).trans (upper value)

/-- Blanks that the code takes for the same differ in their radix at most. -/
theorem alike_of_agrees {known type : ValueType doubles} (agreed : known.agrees type = true) :
    Alike known type := by
  cases known <;> cases type <;> try cases agreed
  · exact .string
  · exact .numeric
  · rw [agrees, Bool.and_eq_true, beq_iff_eq, beq_iff_eq] at agreed
    exact .rangedInteger agreed.1 agreed.2
  · rw [agrees, Bool.and_eq_true] at agreed
    exact .rangedReal (fun value => (doubles.less_congr agreed.1 value).2)
      fun value => (doubles.less_congr agreed.2 value).1

/-- Alike blanks with one radix accept the same terms. -/
theorem Alike.accepts_eq {left right : ValueType doubles} (alike : Alike left right)
    (radix : left.radix = right.radix) (term : Text) : left.accepts term = right.accepts term := by
  cases alike with
  | string => rfl
  | numeric => rfl
  | rangedInteger minimum maximum =>
      rw [ValueType.radix, ValueType.radix] at radix
      simp only [accepts, check, minimum, maximum, radix]
  | rangedReal below above => simp only [accepts, check, below, above]

/-- Every blank accepts some term that all blanks alike to it accept. -/
theorem exists_accepted (type : ValueType doubles) :
    ∃ term, ∀ other, Alike other type → other.accepts term = true := by
  cases type with
  | string =>
      refine ⟨[], fun other alike => ?_⟩
      cases alike
      rfl
  | numeric =>
      refine ⟨[], fun other alike => ?_⟩
      cases alike
      rfl
  | rangedInteger range =>
      have fits : range.minimum ≤ longMax := (le_of_lt range.ordered).trans range.upper
      refine ⟨decimalText range.minimum, fun other alike => ?_⟩
      cases alike with
      | @rangedInteger left _ minimum maximum =>
          have below : ¬range.minimum < left.minimum := by rw [minimum]; exact lt_irrefl _
          have above : ¬range.minimum > left.maximum := by
            rw [maximum]
            exact not_lt.mpr (le_of_lt range.ordered)
          simp [accepts, check, strtol_decimalText range.lower fits, below, above]
  | rangedReal range =>
      obtain ⟨term, read⟩ := range.spelled
      refine ⟨term, fun other alike => ?_⟩
      have reflexive : doubles.less range.minimum range.minimum = false := by
        cases self : doubles.less range.minimum range.minimum with
        | false => rfl
        | true => exact self.symm.trans (doubles.less_asymm self)
      cases alike with
      | rangedReal below above =>
          simp [accepts, check, read, below, above, reflexive, doubles.less_asymm range.ordered]

/-- Of two alike blanks with different radices, just the one that detects prefixes accepts some
term. -/
theorem exists_telling {left right : ValueType doubles} (alike : Alike left right)
    (different : left.radix ≠ right.radix) : ∃ term, left.accepts term ≠ right.accepts term := by
  cases alike with
  | string => exact absurd rfl different
  | numeric => exact absurd rfl different
  | rangedReal below above => exact absurd rfl different
  | @rangedInteger left right minimum maximum =>
      have detecting : ∀ range : IntegerRange, range.radix = .detect →
          (.rangedInteger range : ValueType doubles).accepts (hexText range.minimum) =
            true := by
        intro range radix
        have fits : range.minimum ≤ longMax := (le_of_lt range.ordered).trans range.upper
        have above : ¬range.maximum < range.minimum := not_lt.mpr (le_of_lt range.ordered)
        simp [accepts, check, radix, strtol_hexText range.lower fits, above]
      have refusing : ∀ (range : IntegerRange) (number : Int), range.radix = .decimal →
          (.rangedInteger range : ValueType doubles).accepts (hexText number) = false := by
        intro range number radix
        simp [accepts, check, radix, strtol_hexText_decimal number]
      rw [ValueType.radix, ValueType.radix] at different
      cases first : left.radix with
      | decimal =>
          cases second : right.radix with
          | decimal => exact absurd (first.trans second.symm) different
          | detect =>
              refine ⟨hexText right.minimum, ?_⟩
              rw [refusing left _ first, detecting right second]
              decide
      | detect =>
          cases second : right.radix with
          | detect => exact absurd (first.trans second.symm) different
          | decimal =>
              refine ⟨hexText left.minimum, ?_⟩
              rw [detecting left first, refusing right _ second]
              decide

end ValueType

end Football
