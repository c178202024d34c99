import Mathlib.Data.List.DropRight
import Mathlib.Data.List.Nodup
import Pianod.Foundation.Search
import Pianod.Foundation.Text

/-!
# Station ratings

A user's station preferences are kept sorted by station id, so that ratings can be found by
binary search.  A rating that was never recorded is neutral.
-/

namespace Pianod

open Foundation

/-- A user's opinion of a station. -/
inductive StationRating where
  | neutral
  | good
  | bad
deriving DecidableEq, Repr

/-- One recorded opinion. -/
structure RatingRecord where
  stationId : Text
  rating : StationRating
deriving DecidableEq, Repr

/-- The recorded opinions of one user, strictly ascending in station id. -/
structure StationPreferences where
  /-- The ratings. -/
  ratings : List RatingRecord
  /-- They are sorted by station, each once. -/
  sorted : (ratings.map RatingRecord.stationId).Pairwise fun before after =>
    Text.strcmp before after = .lt
deriving DecidableEq

/-- The rating a name stands for; any other name trips an assertion. -/
def getStationRatingByName (name : Text) : Option StationRating :=
  if Text.strcasecmp name (ascii "neutral") = .eq then some .neutral
  else if Text.strcasecmp name (ascii "good") = .eq then some .good
  else if Text.strcasecmp name (ascii "bad") = .eq then some .bad
  else none

/-- The name under which a rating is shown and stored. -/
def stationRatingName : StationRating → Text
  | .neutral => ascii "neutral"
  | .good => ascii "good"
  | .bad => ascii "bad"

/-- Stored rating names are read back as the same rating. -/
theorem getStationRatingByName_name (rating : StationRating) :
    getStationRatingByName (stationRatingName rating) = some rating := by
  cases rating <;> decide

/-- The comparison `bsearch` makes between a station id and a record. -/
def ratingComparator (stationId : Text) (record : RatingRecord) : Ordering :=
  Text.strcmp stationId record.stationId

/-- The index of the record for a station. -/
def findStationRating (preferences : Option StationPreferences) (stationId : Text) : Option Nat :=
  match preferences with
  | none => none
  | some preferences => bsearch (ratingComparator stationId) preferences.ratings

/-- The rating recorded for a station, neutral by default. -/
def getStationRating (preferences : Option StationPreferences) (stationId : Text) :
    StationRating :=
  match preferences, findStationRating preferences stationId with
  | some preferences, some index => (preferences.ratings[index]?.map (·.rating)).getD .neutral
  | _, _ => .neutral

namespace StationPreferences

theorem ascending (preferences : StationPreferences) (stationId : Text) :
    Ascending (ratingComparator stationId) preferences.ratings := by
  have keys := Ascending.of_sorted preferences.sorted stationId
  rwa [Ascending, List.pairwise_map] at keys

/-- The binary search finds a record exactly where its station id stands. -/
theorem find_eq_some {preferences : StationPreferences} {stationId : Text} {index : Nat}
    (found : findStationRating (some preferences) stationId = some index) :
    ∃ rating, preferences.ratings[index]? = some ⟨stationId, rating⟩ := by
  obtain ⟨⟨id, rating⟩, at_index, equal⟩ := bsearch_some found
  obtain rfl : stationId = id := by simpa [ratingComparator] using equal
  exact ⟨rating, at_index⟩

/-- A failed search means that the station has no record. -/
theorem find_eq_none {preferences : StationPreferences} {stationId : Text}
    (missed : findStationRating (some preferences) stationId = none) :
    ∀ record ∈ preferences.ratings, record.stationId ≠ stationId := by
  intro record member equal
  exact bsearch_none (preferences.ascending stationId) missed record member
    (by simp [ratingComparator, equal])

/-- Two records of one user for the same station are the same record. -/
theorem rating_unique {preferences : StationPreferences} {stationId : Text}
    {first second : StationRating} (one : ⟨stationId, first⟩ ∈ preferences.ratings)
    (two : ⟨stationId, second⟩ ∈ preferences.ratings) : first = second := by
  have distinct : (preferences.ratings.map RatingRecord.stationId).Nodup := by
    refine preferences.sorted.imp ?_
    rintro before after less rfl
    rw [Text.strcmp_eq_iff.mpr rfl] at less
    cases less
  have same := List.inj_on_of_nodup_map distinct one two rfl
  simpa using same

/-- A recorded rating is the one the search reports. -/
theorem getStationRating_of_mem {preferences : StationPreferences} {stationId : Text}
    {rating : StationRating} (member : ⟨stationId, rating⟩ ∈ preferences.ratings) :
    getStationRating (some preferences) stationId = rating := by
  cases searched : findStationRating (some preferences) stationId with
  | none => exact absurd rfl (find_eq_none searched _ member)
  | some index =>
      obtain ⟨other, at_index⟩ := find_eq_some searched
      have stored := List.mem_of_getElem? at_index
      simp [getStationRating, searched, at_index, rating_unique member stored]

/-- A station without a record is rated neutral. -/
theorem getStationRating_of_absent {preferences : StationPreferences} {stationId : Text}
    (absent : ∀ record ∈ preferences.ratings, record.stationId ≠ stationId) :
    getStationRating (some preferences) stationId = .neutral := by
  cases searched : findStationRating (some preferences) stationId with
  | none => simp [getStationRating, searched]
  | some index =>
      obtain ⟨rating, at_index⟩ := find_eq_some searched
      exact absurd rfl (absent _ (List.mem_of_getElem? at_index))

end StationPreferences

/-- A user rates a station good or bad exactly when that rating is on record. -/
theorem getStationRating_eq_iff {preferences : StationPreferences} {stationId : Text}
    {rating : StationRating} (opinion : rating ≠ .neutral) :
    getStationRating (some preferences) stationId = rating ↔
      ⟨stationId, rating⟩ ∈ preferences.ratings := by
  constructor
  · intro rated
    by_contra absent
    by_cases other : ∃ record ∈ preferences.ratings, record.stationId = stationId
    · obtain ⟨⟨id, found⟩, member, rfl⟩ := other
      rw [StationPreferences.getStationRating_of_mem member] at rated
      exact absent (rated ▸ member)
    · push Not at other
      rw [StationPreferences.getStationRating_of_absent other] at rated
      exact opinion rated.symm
  · exact StationPreferences.getStationRating_of_mem

/-! ## Recording a rating -/

namespace StationPreferences

private theorem map_stationId_set (preferences : StationPreferences) {index : Nat}
    {record : RatingRecord}
    (stands : preferences.ratings[index]?.map RatingRecord.stationId = some record.stationId) :
    (preferences.ratings.set index record).map RatingRecord.stationId =
      preferences.ratings.map RatingRecord.stationId := by
  rw [List.map_set]
  apply List.ext_getElem?
  intro other
  rw [List.getElem?_set]
  split
  · rename_i same
    subst same
    split <;> simp_all
  · rfl

/-- The insertion loop walks down from the end to the last record below the new station. -/
def placeAbove (stationId : Text) (records : List RatingRecord) : List RatingRecord :=
  records.rdropWhile fun record => Text.strcmp stationId record.stationId ≠ .gt

/-- The records the insertion loop moves up to make room. -/
def placeBelow (stationId : Text) (records : List RatingRecord) : List RatingRecord :=
  records.rtakeWhile fun record => Text.strcmp stationId record.stationId ≠ .gt

theorem placeAbove_append_placeBelow (stationId : Text) (records : List RatingRecord) :
    placeAbove stationId records ++ placeBelow stationId records = records :=
  List.rdropWhile_append_rtakeWhile

/-- In sorted records everything the loop leaves in place is below the new station. -/
theorem placeAbove_lt (preferences : StationPreferences) {stationId : Text} {record : RatingRecord}
    (kept : record ∈ placeAbove stationId preferences.ratings) :
    Text.strcmp record.stationId stationId = .lt := by
  have nonempty := List.ne_nil_of_mem kept
  have last_above : Text.strcmp stationId
      ((placeAbove stationId preferences.ratings).getLast nonempty).stationId = .gt := by
    have stopped := List.rdropWhile_last_not _ preferences.ratings nonempty
    simpa [placeAbove] using stopped
  have last_below := Std.OrientedCmp.gt_iff_lt.mp last_above
  have ordered := preferences.sorted
  rw [← placeAbove_append_placeBelow stationId preferences.ratings, List.map_append,
    List.pairwise_append, List.pairwise_map] at ordered
  obtain ⟨front, -, -⟩ := ordered
  rw [← List.dropLast_append_getLast nonempty] at kept front
  rcases List.mem_append.mp kept with before | last
  · have less := (List.pairwise_append.mp front).2.2 record before _ (List.mem_singleton_self _)
    exact Std.TransCmp.lt_trans less last_below
  · rw [List.mem_singleton.mp last]
    exact last_below

private theorem placeBelow_lt {records : List RatingRecord} {stationId : Text}
    (absent : ∀ record ∈ records, record.stationId ≠ stationId) {record : RatingRecord}
    (moved : record ∈ placeBelow stationId records) :
    Text.strcmp stationId record.stationId = .lt := by
  have not_above : Text.strcmp stationId record.stationId ≠ .gt := by
    simpa using List.mem_rtakeWhile_imp moved
  have member : record ∈ records := by
    rw [← placeAbove_append_placeBelow stationId records]
    exact List.mem_append_right _ moved
  cases order : Text.strcmp stationId record.stationId with
  | lt => rfl
  | eq => exact absurd (Text.strcmp_eq_iff.mp order).symm (absent record member)
  | gt => exact absurd order not_above

/-- Insert a record for a station that has none. -/
def insertRecord (preferences : StationPreferences) (stationId : Text) (rating : StationRating)
    (absent : ∀ record ∈ preferences.ratings, record.stationId ≠ stationId) :
    StationPreferences where
  ratings := placeAbove stationId preferences.ratings ++
    ⟨stationId, rating⟩ :: placeBelow stationId preferences.ratings
  sorted := by
    have ordered := preferences.sorted
    rw [← placeAbove_append_placeBelow stationId preferences.ratings, List.map_append,
      List.pairwise_append] at ordered
    obtain ⟨above, below, across⟩ := ordered
    rw [List.map_append, List.map_cons, List.pairwise_append, List.pairwise_cons]
    refine ⟨above, ⟨?_, below⟩, ?_⟩
    · intro id member
      obtain ⟨record, moved, rfl⟩ := List.mem_map.mp member
      exact placeBelow_lt absent moved
    · intro before left after right
      rcases List.mem_cons.mp right with rfl | right
      · obtain ⟨record, kept, rfl⟩ := List.mem_map.mp left
        exact preferences.placeAbove_lt kept
      · exact across before left after right

/-- Overwrite the rating of an existing record. -/
def updateRecord (preferences : StationPreferences) (index : Nat) (record : RatingRecord)
    (stands : preferences.ratings[index]?.map RatingRecord.stationId = some record.stationId) :
    StationPreferences where
  ratings := preferences.ratings.set index record
  sorted := by
    rw [preferences.map_stationId_set stands]
    exact preferences.sorted

/-- Preferences without any record. -/
def empty : StationPreferences := ⟨[], List.Pairwise.nil⟩

theorem absent_empty (stationId : Text) :
    ∀ record ∈ empty.ratings, record.stationId ≠ stationId := by
  simp [empty]

end StationPreferences

/-- The preferences after a user rates a station; `none` when nothing had to change. -/
def changedRatings (preferences : Option StationPreferences) (stationId : Text)
    (rating : StationRating) : Option StationPreferences :=
  match preferences with
  | none =>
      if rating = .neutral then none
      else some (StationPreferences.empty.insertRecord stationId rating
        (by simp [StationPreferences.empty]))
  | some preferences =>
      match searched : findStationRating (some preferences) stationId with
      | some index =>
          if getStationRating (some preferences) stationId = rating then none
          else some (preferences.updateRecord index ⟨stationId, rating⟩ (by
            obtain ⟨found, at_index⟩ := StationPreferences.find_eq_some searched
            simp [at_index]))
      | none =>
          if rating = .neutral then none
          else some (preferences.insertRecord stationId rating
            (StationPreferences.find_eq_none searched))

end Pianod
