import Pianod.Foundation.FirstMatch
import Pianod.Server.SongCommands

/-!
# Artists named last, first

Seeds name an artist `First Last`, songs name it `Last, First`.  The comparison runs along the two
names in three scans.  The last of them accepts any comma of the query, and not only the first one,
which separates the surname.
-/

namespace Pianod

open Foundation

/-- Run along two texts while they agree. -/
def scanEqual : Text → Text → Text × Text
  | search :: searchRest, compare :: compareRest =>
      if search = compare then scanEqual searchRest compareRest
      else (search :: searchRest, compare :: compareRest)
  | search, compare => (search, compare)

/-- The swapped comparison, with the text from after the query's first comma. -/
def scanReversed (name artistName afterComma : Text) : Bool :=
  match scanEqual (afterComma.dropWhile (· == 32)) name with
  | ([], 32 :: surname) =>
      match scanEqual artistName surname with
      | (44 :: _, []) => true
      | _ => false
  | _ => false

/-- What stands after the first comma of a query, without the blanks there. -/
def firstName (query : Text) : Text := ((afterFirst 44 query).getD []).dropWhile (· == 32)

/-- A name that the query stands for, as it is or with the surname in front. -/
def Names (query name : Text) : Prop :=
  name = query ∨ 44 ∈ query ∧ name = firstName query ++ 32 :: before 44 query

/-- A name whose surname reaches to a later comma of the query. -/
def ReachesLaterComma (query name : Text) : Prop :=
  ∃ surname, 44 ∈ surname ∧ surname ++ [44] <+: query ∧ name = firstName query ++ 32 :: surname

instance (query name : Text) : Decidable (Names query name) :=
  inferInstanceAs (Decidable (_ ∨ _))

/-! ## The scans -/

theorem scanEqual_append (common search compare : Text) :
    scanEqual (common ++ search) (common ++ compare) = scanEqual search compare := by
  induction common with
  | nil => rfl
  | cons byte common induction => simp [scanEqual, induction]

/-- The scans stop after the same bytes. -/
theorem exists_of_scanEqual (search compare : Text) :
    ∃ common, search = common ++ (scanEqual search compare).1 ∧
      compare = common ++ (scanEqual search compare).2 := by
  induction search generalizing compare with
  | nil => exact ⟨[], by simp [scanEqual]⟩
  | cons byte search induction =>
      cases compare with
      | nil => exact ⟨[], by simp [scanEqual]⟩
      | cons other compare =>
          by_cases same : byte = other
          · obtain ⟨common, searched, compared⟩ := induction compare
            subst same
            refine ⟨byte :: common, ?_⟩
            simp only [scanEqual, if_true, List.cons_append, List.cons.injEq, true_and]
            exact ⟨searched, compared⟩
          · exact ⟨[], by simp [scanEqual, same]⟩

private theorem scanEqual_nil_left (compare : Text) : scanEqual [] compare = ([], compare) := by
  cases compare <;> rfl

private theorem scanEqual_nil_right (search : Text) : scanEqual search [] = (search, []) := by
  cases search <;> rfl

theorem scanEqual_eq_nil_left_iff (search compare rest : Text) :
    scanEqual search compare = ([], rest) ↔ compare = search ++ rest := by
  constructor
  · intro scanned
    obtain ⟨common, searched, compared⟩ := exists_of_scanEqual search compare
    rw [scanned] at searched compared
    simp_all
  · rintro rfl
    simpa [scanEqual_nil_left] using scanEqual_append search [] rest

theorem scanEqual_eq_nil_right_iff (search compare rest : Text) :
    scanEqual search compare = (rest, []) ↔ search = compare ++ rest := by
  constructor
  · intro scanned
    obtain ⟨common, searched, compared⟩ := exists_of_scanEqual search compare
    rw [scanned] at searched compared
    simp_all
  · rintro rfl
    simpa [scanEqual_nil_right] using scanEqual_append compare rest []

/-- The scans accept a surname that ends before any comma of the query. -/
theorem scanReversed_iff (name artistName afterComma : Text) :
    scanReversed name artistName afterComma = true ↔
      ∃ surname, surname ++ [44] <+: artistName ∧
        name = afterComma.dropWhile (· == 32) ++ 32 :: surname := by
  unfold scanReversed
  constructor
  · intro accepted
    split at accepted
    · rename_i surname firstScan
      split at accepted
      · rename_i rest surnameScan
        refine ⟨surname, ⟨rest, ?_⟩, (scanEqual_eq_nil_left_iff _ _ _).mp firstScan⟩
        rw [(scanEqual_eq_nil_right_iff _ _ _).mp surnameScan]
        simp
      · contradiction
    · contradiction
  · rintro ⟨surname, ⟨rest, rfl⟩, rfl⟩
    rw [(scanEqual_eq_nil_left_iff _ _ _).mpr rfl]
    have surnameScan : scanEqual (surname ++ [44] ++ rest) surname = (44 :: rest, []) :=
      (scanEqual_eq_nil_right_iff _ _ _).mpr (by simp)
    simp only [surnameScan]

private theorem reversedName_eq_scan (name query : Text) :
    reversedName name query =
      ((afterFirst 44 query).map (scanReversed name query)).getD false := by
  cases split : afterFirst 44 query with
  | none => simp [reversedName, split]
  | some rest =>
      rw [Bool.eq_iff_iff, Option.map_some, Option.getD_some, scanReversed_iff]
      simp only [reversedName, split, Bool.and_eq_true, List.isPrefixOf_iff_prefix]
      constructor
      · rintro ⟨⟨tail, rfl⟩, accepted⟩
        rw [List.drop_left] at accepted
        cases tail with
        | nil => contradiction
        | cons separator surname =>
            simp only [Bool.and_eq_true, beq_iff_eq, List.isPrefixOf_iff_prefix] at accepted
            obtain ⟨rfl, reached⟩ := accepted
            exact ⟨surname, reached, rfl⟩
      · rintro ⟨surname, reached, rfl⟩
        refine ⟨List.prefix_append _ _, ?_⟩
        simpa using reached

/-! ## The two kinds of matches -/

theorem comma_not_mem_before (query : Text) : 44 ∉ before 44 query := by
  intro member
  simpa using List.mem_takeWhile_imp member

/-- A query with a comma, taken apart at its first one. -/
theorem query_eq {query : Text} (comma : 44 ∈ query) :
    ∃ blanks, (∀ byte ∈ blanks, byte = 32) ∧
      afterFirst 44 query = some (blanks ++ firstName query) ∧
      query = before 44 query ++ 44 :: (blanks ++ firstName query) := by
  have split := List.takeWhile_append_dropWhile (p := (· != (44 : UInt8))) (l := query)
  cases dropped : query.dropWhile (· != 44) with
  | nil =>
      have whole : before 44 query = query := by
        rw [dropped, List.append_nil] at split
        exact split
      exact absurd (whole.symm ▸ comma) (comma_not_mem_before query)
  | cons found rest =>
      have found_eq : found = 44 := by
        have := List.head_dropWhile_not (· != (44 : UInt8))
          (show query.dropWhile (· != 44) ≠ [] by simp [dropped])
        simpa [dropped] using this
      have after : afterFirst 44 query = some rest := by simp [afterFirst, dropped]
      have blanked : rest = rest.takeWhile (· == 32) ++ firstName query := by
        simp [firstName, after, List.takeWhile_append_dropWhile]
      refine ⟨rest.takeWhile (· == 32), ?_, by rw [after, ← blanked], ?_⟩
      · intro byte member
        simpa using List.mem_takeWhile_imp member
      · rw [← blanked]
        conv_lhs => rw [← split, dropped, found_eq]
        rfl

/-- The swapped comparison asks for the query's text before any of its commas. -/
theorem reversedName_iff (name query : Text) :
    reversedName name query = true ↔
      ∃ surname, surname ++ [44] <+: query ∧ name = firstName query ++ 32 :: surname := by
  rw [reversedName_eq_scan]
  by_cases comma : 44 ∈ query
  · obtain ⟨blanks, -, after, -⟩ := query_eq comma
    have stripped : (blanks ++ firstName query).dropWhile (· == 32) = firstName query := by
      conv_rhs => rw [firstName, after]
      rfl
    rw [after, Option.map_some, Option.getD_some, scanReversed_iff, stripped]
  · have reached (surname : Text) : ¬surname ++ [44] <+: query := fun shorter =>
      comma (shorter.subset (by simp))
    have after : afterFirst 44 query = none := by
      have all : query.dropWhile (· != 44) = [] := by
        rw [List.dropWhile_eq_nil_iff]
        intro byte member
        simpa using fun same : byte = 44 => comma (same ▸ member)
      simp [afterFirst, all]
    simp [after, reached]

/-- A surname without a comma is the one before the first comma. -/
theorem eq_before_iff {surname query : Text} (reached : surname ++ [44] <+: query) :
    44 ∉ surname ↔ surname = before 44 query := by
  constructor
  · intro commaless
    obtain ⟨rest, rfl⟩ := reached
    rw [before, List.append_assoc, List.takeWhile_append_of_pos]
    · simp
    · intro byte member
      simpa using fun same : byte = 44 => commaless (same ▸ member)
  · intro same
    rw [same]
    exact comma_not_mem_before query

private theorem before_reached {query : Text} (comma : 44 ∈ query) :
    before 44 query ++ [44] <+: query := by
  obtain ⟨blanks, -, -, split⟩ := query_eq comma
  refine ⟨blanks ++ firstName query, ?_⟩
  conv_rhs => rw [split]
  simp

/-- The name is the query or swapped at one of its commas. -/
theorem matches_iff (name query : Text) :
    (Text.strcmp name query = .eq || reversedName name query) = true ↔
      Names query name ∨ ReachesLaterComma query name := by
  rw [Bool.or_eq_true, reversedName_iff, decide_eq_true_iff, Std.LawfulEqCmp.compare_eq_iff_eq]
  constructor
  · rintro (rfl | ⟨surname, reached, rfl⟩)
    · exact .inl (.inl rfl)
    · by_cases later : 44 ∈ surname
      · exact .inr ⟨surname, later, reached, rfl⟩
      · rw [(eq_before_iff reached).mp later]
        exact .inl (.inr ⟨reached.subset (by simp), rfl⟩)
  · rintro ((rfl | ⟨comma, rfl⟩) | ⟨surname, -, reached, rfl⟩)
    · exact .inl rfl
    · exact .inr ⟨_, before_reached comma, rfl⟩
    · exact .inr ⟨surname, reached, rfl⟩

private theorem not_names_of_reachesLaterComma {query name : Text}
    (reaches : ReachesLaterComma query name) : ¬Names query name := by
  obtain ⟨surname, later, reached, rfl⟩ := reaches
  have distinct : surname ≠ before 44 query := fun same =>
    (eq_before_iff reached).mpr same later
  rintro (whole | ⟨-, swapped⟩)
  · -- The name is as long as the query, so the comma would stand where a blank does.
    obtain ⟨blanks, blank, -, split⟩ := query_eq (reached.subset (by simp))
    have lengths : surname.length = (before 44 query ++ blanks).length := by
      have := congrArg List.length (whole.trans split)
      simp only [List.length_append, List.length_cons] at this ⊢
      omega
    have same : surname ++ [44] = before 44 query ++ 44 :: blanks := by
      apply (List.prefix_of_prefix_length_le reached _ _).eq_of_length
      · simp only [List.length_append, List.length_cons] at lengths ⊢
        simp
        omega
      · refine ⟨firstName query, ?_⟩
        conv_rhs => rw [split]
        simp
      · simp only [List.length_append, List.length_cons] at lengths ⊢
        simp
        omega
    rcases List.eq_nil_or_concat blanks with rfl | ⟨front, last, rfl⟩
    · exact distinct (List.append_cancel_right same)
    · have regrouped : surname ++ [44] = (before 44 query ++ 44 :: front) ++ [last] := by
        simpa using same
      have ends : (44 : UInt8) = last := by
        simpa using List.append_inj_right' regrouped rfl
      have := blank last (by simp)
      simp [← ends] at this
  · exact distinct (by simpa using swapped)

/-- An artist is found by the query's own rule unless one that reaches to a later comma is listed
before. -/
theorem findArtistByName_eq_iff (artists : List PianoArtist) (query : Text) :
    findArtistByName artists query = artists.find? (fun artist => Names query artist.name) ↔
      ∀ earlier artist later, artists = earlier ++ artist :: later →
        ReachesLaterComma query artist.name →
          ∃ other ∈ earlier, Names query other.name := by
  rw [findArtistByName, find?_eq_find?_iff]
  · simp only [matches_iff, decide_eq_true_iff, decide_eq_false_iff_not]
    constructor
    · intro preceded earlier artist later split reaches
      exact preceded earlier artist later split (.inr reaches)
        (not_names_of_reachesLaterComma reaches)
    · intro preceded earlier artist later split wide notNames
      exact preceded earlier artist later split (wide.resolve_left notNames)
  · intro artist named
    exact (matches_iff _ _).mpr (.inl (by simpa using named))

/-- A query with two commas finds an artist whose surname is the text before the second. -/
theorem findArtistByName_twoCommas :
    findArtistByName [⟨ascii "B,C A,B", none, none⟩] (ascii "A,B,C") =
        some ⟨ascii "B,C A,B", none, none⟩ ∧
      [(⟨ascii "B,C A,B", none, none⟩ : PianoArtist)].find?
        (fun artist => Names (ascii "A,B,C") artist.name) = none := by
  decide

end Pianod
