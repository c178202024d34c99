import Pianod.Foundation.FallibleRun
import Pianod.Server.StationRatings

/-!
# The array of station ratings

A user's ratings are in an array that grows in chunks.  A new record is put in its place by moving
the records above it up, one at a time, from the end.
-/

namespace Pianod

open Foundation

/-- The array, whose cells are zero until they are used, and the number of records in use. -/
structure RatingArray where
  ratings : List (Option RatingRecord)
  count : Nat
deriving DecidableEq

/-- Make room for a number of items; cells that are added are zero. -/
def expandcalloc {α : Type*} (data : List (Option α)) (newcapacity : Nat) : List (Option α) :=
  if newcapacity ≤ data.length then data
  else data ++ List.replicate (max newcapacity (data.length * 2 + 25) - data.length) none

/-- The records in cells; a cell that was never used has no station id to compare. -/
def readCells : List (Option RatingRecord) → Except Fault (List RatingRecord)
  | [] => .ok []
  | none :: _ => .error .nullDereference
  | some record :: cells => (readCells cells).map (record :: ·)

namespace RatingArray

/-- The records in use. -/
def records (array : RatingArray) : Except Fault (List RatingRecord) :=
  if array.ratings.length < array.count then .error .outOfBounds
  else readCells (array.ratings.take array.count)

/-- The place of the record for a station. -/
def findStationRating (array : Option RatingArray) (stationId : Text) :
    Except Fault (Option Nat) :=
  match array with
  | none => .ok none
  | some array => array.records.map fun records => bsearch (ratingComparator stationId) records

/-- The record at a place. -/
def recordAt (array : RatingArray) (place : Nat) : Except Fault RatingRecord :=
  match array.ratings[place]? with
  | none => .error .outOfBounds
  | some none => .error .nullDereference
  | some (some record) => .ok record

/-- The rating of a station. -/
def getStationRating (array : Option RatingArray) (stationId : Text) :
    Except Fault StationRating :=
  match findStationRating array stationId with
  | .error fault => .error fault
  | .ok none => .ok .neutral
  | .ok (some place) =>
      match array with
      | none => .ok .neutral
      | some array => (array.recordAt place).map RatingRecord.rating

/-- Move records up until the one below a place is below the station; the place is then free.  It is
`i + 1` of the source, which counts in an `int`: that holds any count of records that fits in
memory. -/
def moveUp (stationId : Text) : Nat → List (Option RatingRecord) →
    Except Fault (Nat × List (Option RatingRecord))
  | 0, cells => .ok (0, cells)
  | place + 1, cells =>
      match cells[place]? with
      | none => .error .outOfBounds
      | some none => .error .nullDereference
      | some (some record) =>
          if Text.strcmp stationId record.stationId = .gt then .ok (place + 1, cells)
          else if cells.length ≤ place + 1 then .error .outOfBounds
          else moveUp stationId place (cells.set (place + 1) (some record))

/-- Add a record for a station that has none. -/
def addRating (array : RatingArray) (stationId : Text) (rating : StationRating) :
    Except Fault RatingArray :=
  match moveUp stationId array.count (expandcalloc array.ratings (array.count + 1)) with
  | .error fault => .error fault
  | .ok (place, cells) =>
      if cells.length ≤ place then .error .outOfBounds
      else .ok ⟨cells.set place (some ⟨stationId, rating⟩), array.count + 1⟩

/-- Add or update the rating of a station. -/
def setStationRating (array : Option RatingArray) (stationId : Text) (rating : StationRating) :
    Except Fault (Option RatingArray) :=
  match findStationRating array stationId with
  | .error fault => .error fault
  | .ok none =>
      if rating = .neutral then .ok array
      else ((array.getD ⟨[], 0⟩).addRating stationId rating).map some
  | .ok (some place) =>
      match array with
      | none => .ok none
      | some array =>
          match array.recordAt place with
          | .error fault => .error fault
          | .ok record =>
              if rating = record.rating then .ok (some array)
              else .ok (some { array with
                ratings := array.ratings.set place (some { record with rating := rating }) })

end RatingArray

/-! ## The array holds sorted records -/

/-- The cells in use hold records. -/
def RatingArray.Holds (array : RatingArray) (records : List RatingRecord) : Prop :=
  ∃ spare, array.ratings = records.map some ++ spare ∧ array.count = records.length

/-- An array holds a user's preferences. -/
inductive RatingArray.Refines : Option RatingArray → Option StationPreferences → Prop where
  | absent : Refines none none
  | present {array : RatingArray} {preferences : StationPreferences}
      (holds : array.Holds preferences.ratings) : Refines (some array) (some preferences)

/-! ## Ratings in sorted lists -/

section

variable {preferences : StationPreferences} {stationId : Text} {rating : StationRating}

/-- An existing record gets the rating. -/
theorem changed_of_found (rating : StationRating) {place : Nat} {old : StationRating}
    (searched : findStationRating (some preferences) stationId = some place)
    (there : preferences.ratings[place]? = some ⟨stationId, old⟩) :
    ∃ changed, (changedRatings (some preferences) stationId rating).or (some preferences) =
        some changed ∧ changed.ratings = preferences.ratings.set place ⟨stationId, rating⟩ := by
  have rated : getStationRating (some preferences) stationId = old := by
    simp [getStationRating, searched, there]
  rw [changedRatings]
  split
  · rename_i other searched'
    rw [searched] at searched'
    cases searched'
    rw [rated]
    split
    · rename_i same
      refine ⟨preferences, rfl, ?_⟩
      rw [← same]
      obtain ⟨inside, record⟩ := List.getElem?_eq_some_iff.mp there
      rw [← record, List.set_getElem_self inside]
    · exact ⟨_, rfl, rfl⟩
  · rename_i searched'
    rw [searched] at searched'
    cases searched'

/-- A neutral rating is not recorded. -/
theorem changed_of_neutral (searched : findStationRating (some preferences) stationId = none)
    (neutral : rating = .neutral) :
    (changedRatings (some preferences) stationId rating).or (some preferences) =
      some preferences := by
  rw [changedRatings]
  split
  · rename_i other searched'
    rw [searched] at searched'
    cases searched'
  · rw [if_pos neutral]
    rfl

/-- A station without a record gets one in its place. -/
theorem changed_of_missed (searched : findStationRating (some preferences) stationId = none)
    (opinion : rating ≠ .neutral) :
    ∃ changed, (changedRatings (some preferences) stationId rating).or (some preferences) =
        some changed ∧
      changed.ratings = StationPreferences.placeAbove stationId preferences.ratings ++
        ⟨stationId, rating⟩ :: StationPreferences.placeBelow stationId preferences.ratings := by
  rw [changedRatings]
  split
  · rename_i other searched'
    rw [searched] at searched'
    cases searched'
  · rw [if_neg opinion]
    exact ⟨_, rfl, rfl⟩

private theorem mem_set_iff_of_ne {α : Type*} {items : List α} {place : Nat} {old new item : α}
    (there : items[place]? = some old) (different : item ≠ old) (distinct : item ≠ new) :
    item ∈ items.set place new ↔ item ∈ items := by
  rw [List.mem_iff_getElem?, List.mem_iff_getElem?]
  refine exists_congr fun index => ?_
  rw [List.getElem?_set]
  split
  · rename_i same
    rw [← same, there]
    split
    · simp [different.symm, distinct.symm]
    · simp [different.symm]
  · exact Iff.rfl

/-- A rating depends only on the records of its station. -/
theorem getStationRating_congr {left right : StationPreferences} {stationId : Text}
    (same : ∀ rating, ⟨stationId, rating⟩ ∈ left.ratings ↔ ⟨stationId, rating⟩ ∈ right.ratings) :
    getStationRating (some left) stationId = getStationRating (some right) stationId := by
  by_cases recorded : ∃ rating, ⟨stationId, rating⟩ ∈ left.ratings
  · obtain ⟨rating, member⟩ := recorded
    rw [StationPreferences.getStationRating_of_mem member,
      StationPreferences.getStationRating_of_mem ((same rating).mp member)]
  · have absent {preferences : StationPreferences}
        (none : ∀ rating, ⟨stationId, rating⟩ ∉ preferences.ratings) :
        ∀ record ∈ preferences.ratings, record.stationId ≠ stationId := by
      rintro ⟨id, rating⟩ member rfl
      exact none rating member
    push Not at recorded
    rw [StationPreferences.getStationRating_of_absent (absent recorded),
      StationPreferences.getStationRating_of_absent
        (absent fun rating member => recorded rating ((same rating).mpr member))]

/-- After a rating is set, it is the one that is found, and those of other stations stay. -/
theorem getStationRating_changed (preferences : Option StationPreferences) (stationId : Text)
    (rating : StationRating) (other : Text) :
    getStationRating ((changedRatings preferences stationId rating).or preferences) other =
      if other = stationId then rating else getStationRating preferences other := by
  cases preferences with
  | none =>
      rw [changedRatings]
      by_cases neutral : rating = .neutral
      · rw [if_pos neutral, neutral]
        exact (ite_self _).symm
      · rw [if_neg neutral, Option.some_or]
        split
        · rename_i same
          rw [same]
          exact StationPreferences.getStationRating_of_mem List.mem_cons_self
        · rename_i different
          refine StationPreferences.getStationRating_of_absent fun record member => ?_
          rw [List.mem_singleton.mp member]
          exact Ne.symm different
  | some preferences =>
      cases searched : findStationRating (some preferences) stationId with
      | some place =>
          obtain ⟨old, there⟩ := StationPreferences.find_eq_some searched
          obtain ⟨changed, same, ratings⟩ := changed_of_found rating searched there
          have inside := (List.getElem?_eq_some_iff.mp there).1
          rw [same]
          split
          · rename_i equal
            rw [equal]
            refine StationPreferences.getStationRating_of_mem ?_
            rw [ratings]
            exact List.mem_set inside _
          · rename_i different
            refine getStationRating_congr fun found => ?_
            rw [ratings]
            refine mem_set_iff_of_ne there (fun same => ?_) fun same => ?_
            · exact different (congrArg RatingRecord.stationId same)
            · exact different (congrArg RatingRecord.stationId same)
      | none =>
          by_cases neutral : rating = .neutral
          · rw [changed_of_neutral searched neutral]
            split
            · rename_i equal
              rw [equal, neutral]
              exact StationPreferences.getStationRating_of_absent
                (StationPreferences.find_eq_none searched)
            · rfl
          · obtain ⟨changed, same, ratings⟩ := changed_of_missed searched neutral
            rw [same]
            split
            · rename_i equal
              rw [equal]
              refine StationPreferences.getStationRating_of_mem ?_
              rw [ratings]
              exact List.mem_append_right _ List.mem_cons_self
            · rename_i different
              refine getStationRating_congr fun found => ?_
              have old : (⟨other, found⟩ : RatingRecord) ≠ ⟨stationId, rating⟩ := fun same =>
                different (congrArg RatingRecord.stationId same)
              rw [ratings, List.mem_append, List.mem_cons, or_iff_right old, ← List.mem_append,
                StationPreferences.placeAbove_append_placeBelow]

end

/-! ## Running on the array -/

private theorem readCells_map (records : List RatingRecord) :
    readCells (records.map some) = .ok records := by
  induction records with
  | nil => rfl
  | cons record records ih =>
      rw [List.map_cons, readCells, ih]
      rfl

namespace RatingArray

variable {array : RatingArray} {records : List RatingRecord}

theorem Holds.records_eq (holds : array.Holds records) : array.records = .ok records := by
  obtain ⟨spare, cells, count⟩ := holds
  have inside : ¬array.ratings.length < array.count := by
    rw [cells, count, List.length_append, List.length_map]
    omega
  have used : array.ratings.take array.count = records.map some := by
    rw [cells, count]
    exact List.take_left' (List.length_map _)
  rw [RatingArray.records, if_neg inside, used, readCells_map]

theorem Holds.recordAt_eq (holds : array.Holds records) {place : Nat} {record : RatingRecord}
    (there : records[place]? = some record) : array.recordAt place = .ok record := by
  obtain ⟨spare, cells, -⟩ := holds
  have found : array.ratings[place]? = some (some record) := by
    rw [cells, List.getElem?_append_left, List.getElem?_map, there]
    · rfl
    · rw [List.length_map]
      exact (List.getElem?_eq_some_iff.mp there).1
  rw [recordAt, found]

/-- Moving up makes room for a record between those below the station and the others. -/
theorem moveUp_eq (stationId : Text) (records : List RatingRecord) (free : Option RatingRecord)
    (spare : List (Option RatingRecord)) (new : RatingRecord) :
    ∃ place cells, moveUp stationId records.length (records.map some ++ free :: spare) =
        .ok (place, cells) ∧ place < cells.length ∧
      cells.set place (some new) =
        (StationPreferences.placeAbove stationId records ++
          new :: StationPreferences.placeBelow stationId records).map some ++ spare := by
  induction records using List.reverseRecOn generalizing free spare with
  | nil => exact ⟨0, free :: spare, rfl, Nat.succ_pos _, rfl⟩
  | append_singleton records last ih =>
      have length : (records ++ [last]).length = records.length + 1 := by simp
      have cells : (records ++ [last]).map some ++ free :: spare =
          records.map some ++ some last :: free :: spare := by simp
      have found : (records.map some ++ some last :: free :: spare)[records.length]? =
          some (some last) := by
        rw [List.getElem?_append_right (by simp), List.length_map, Nat.sub_self]
        rfl
      rw [length, cells, moveUp, found]
      dsimp only
      by_cases above : Text.strcmp stationId last.stationId = .gt
      · have stays : ¬(decide (Text.strcmp stationId last.stationId ≠ .gt)) = true := by
          simp [above]
        rw [if_pos above]
        refine ⟨_, _, rfl, by simp, ?_⟩
        rw [StationPreferences.placeAbove, StationPreferences.placeBelow,
          List.rdropWhile_concat, List.rtakeWhile_concat, if_neg stays, if_neg stays]
        simp
      · have moves : decide (Text.strcmp stationId last.stationId ≠ .gt) = true := by
          simp [above]
        have room : ¬(records.map some ++ some last :: free :: spare).length ≤
            records.length + 1 := by
          simp
        have moved : (records.map some ++ some last :: free :: spare).set (records.length + 1)
            (some last) = records.map some ++ some last :: some last :: spare := by
          simp
        rw [if_neg above, if_neg room, moved, StationPreferences.placeAbove,
          StationPreferences.placeBelow, List.rdropWhile_concat, List.rtakeWhile_concat,
          if_pos moves, if_pos moves]
        obtain ⟨place, after, run, inside, set⟩ := ih (some last) (some last :: spare)
        refine ⟨place, after, run, inside, set.trans ?_⟩
        rw [StationPreferences.placeAbove, StationPreferences.placeBelow]
        simp

/-- There is a free cell after those in use once the array is expanded. -/
theorem Holds.expand (holds : array.Holds records) : ∃ free spare,
    expandcalloc array.ratings (array.count + 1) = records.map some ++ free :: spare := by
  obtain ⟨spare, cells, count⟩ := holds
  cases spare with
  | cons free spare =>
      have room : array.count + 1 ≤ array.ratings.length := by
        rw [cells, count]
        simp
      exact ⟨free, spare, by rw [expandcalloc, if_pos room, cells]⟩
  | nil =>
      have full : array.ratings.length = array.count := by
        rw [cells, count]
        simp
      obtain ⟨added, more⟩ : ∃ added,
          max (array.count + 1) (array.ratings.length * 2 + 25) - array.ratings.length =
            added + 1 := Nat.exists_eq_add_one_of_ne_zero (by omega)
      refine ⟨none, List.replicate added none, ?_⟩
      rw [expandcalloc, if_neg (by omega), more, cells, List.append_nil]
      rfl

/-- A record that is added goes where the sorted list has it. -/
theorem Holds.addRating (holds : array.Holds records) (stationId : Text) (rating : StationRating) :
    ∃ after, array.addRating stationId rating = .ok after ∧
      after.Holds (StationPreferences.placeAbove stationId records ++
        ⟨stationId, rating⟩ :: StationPreferences.placeBelow stationId records) := by
  obtain ⟨free, spare, expanded⟩ := holds.expand
  obtain ⟨place, cells, moved, inside, set⟩ := moveUp_eq stationId records free spare
    ⟨stationId, rating⟩
  obtain ⟨-, -, count⟩ := holds
  have split := congrArg List.length
    (StationPreferences.placeAbove_append_placeBelow stationId records)
  rw [RatingArray.addRating, expanded, count, moved]
  dsimp only
  rw [if_neg (Nat.not_le.mpr inside), set]
  refine ⟨_, rfl, spare, rfl, ?_⟩
  rw [List.length_append] at split
  rw [List.length_append, List.length_cons]
  dsimp only
  omega

/-- A record that is found is updated in its cell. -/
theorem Holds.update (holds : array.Holds records) {place : Nat} (inside : place < records.length)
    (record : RatingRecord) :
    RatingArray.Holds { array with ratings := array.ratings.set place (some record) }
      (records.set place record) := by
  obtain ⟨spare, cells, count⟩ := holds
  refine ⟨spare, ?_, by rw [List.length_set]; exact count⟩
  dsimp only
  rw [cells, List.set_append_left _ _ (by rw [List.length_map]; exact inside), List.map_set]

variable {cells : Option RatingArray} {preferences : Option StationPreferences}

theorem Refines.find_eq (refines : Refines cells preferences) (stationId : Text) :
    findStationRating cells stationId = .ok (Pianod.findStationRating preferences stationId) := by
  cases refines with
  | absent => rfl
  | present holds =>
      rw [findStationRating, holds.records_eq]
      rfl

/-- The array gives the rating of the sorted list. -/
theorem Refines.get_eq (refines : Refines cells preferences) (stationId : Text) :
    getStationRating cells stationId = .ok (Pianod.getStationRating preferences stationId) := by
  rw [getStationRating, refines.find_eq]
  cases refines with
  | absent => rfl
  | @present array preferences holds =>
      cases searched : Pianod.findStationRating (some preferences) stationId with
      | none => simp [Pianod.getStationRating, searched]
      | some place =>
          obtain ⟨rating, there⟩ := StationPreferences.find_eq_some searched
          dsimp only
          rw [holds.recordAt_eq there]
          simp [Pianod.getStationRating, searched, there, Except.map]

private theorem set_eq_self {α : Type*} {items : List α} {place : Nat} {item : α}
    (there : items[place]? = some item) : items.set place item = items := by
  obtain ⟨inside, rfl⟩ := List.getElem?_eq_some_iff.mp there
  exact List.set_getElem_self inside

/-- Setting a rating in the array sets it in the sorted list. -/
theorem Refines.set_eq (refines : Refines cells preferences) (stationId : Text)
    (rating : StationRating) : ∃ after, setStationRating cells stationId rating = .ok after ∧
      Refines after ((changedRatings preferences stationId rating).or preferences) := by
  rw [setStationRating, refines.find_eq]
  cases refines with
  | absent =>
      have start : RatingArray.Holds ⟨[], 0⟩ [] := ⟨[], rfl, rfl⟩
      obtain ⟨after, added, holds⟩ := start.addRating stationId rating
      rw [Pianod.findStationRating, changedRatings]
      dsimp only [Option.getD_none]
      split
      · exact ⟨none, rfl, .absent⟩
      · rw [added]
        exact ⟨some after, rfl, .present holds⟩
  | @present array preferences holds =>
      cases searched : Pianod.findStationRating (some preferences) stationId with
      | some place =>
          obtain ⟨old, there⟩ := StationPreferences.find_eq_some searched
          obtain ⟨changed, same, ratings⟩ := changed_of_found rating searched there
          have inside := (List.getElem?_eq_some_iff.mp there).1
          dsimp only
          rw [holds.recordAt_eq there, same]
          dsimp only
          split
          · rename_i equal
            refine ⟨_, rfl, .present ?_⟩
            rw [ratings, equal, set_eq_self there]
            exact holds
          · refine ⟨_, rfl, .present ?_⟩
            rw [ratings]
            exact holds.update inside ⟨stationId, rating⟩
      | none =>
          dsimp only
          by_cases neutral : rating = .neutral
          · rw [if_pos neutral, changed_of_neutral searched neutral]
            exact ⟨_, rfl, .present holds⟩
          · obtain ⟨changed, same, ratings⟩ := changed_of_missed searched neutral
            obtain ⟨after, added, holds⟩ := holds.addRating stationId rating
            rw [if_neg neutral, Option.getD_some, added, same]
            refine ⟨_, rfl, .present ?_⟩
            rw [ratings]
            exact holds

end RatingArray

/-! ## Every sequence of ratings -/

namespace RatingArray

/-- Set a rating of one user. -/
def setCall (cells : Option RatingArray) (call : Text × StationRating) :
    Except Fault (Option RatingArray) := setStationRating cells call.1 call.2

/-- The rating that was last set for a station. -/
def lastRating (calls : List (Text × StationRating)) (stationId : Text) : StationRating :=
  ((calls.reverse.find? fun call => call.1 == stationId).map Prod.snd).getD .neutral

/-- The station ids of an array are strictly ascending. -/
def SortedIds (cells : Option RatingArray) : Prop :=
  ∀ array ∈ cells, ∃ records, array.records = .ok records ∧
    (records.map RatingRecord.stationId).Pairwise fun before after =>
      Text.strcmp before after = .lt

private theorem lastRating_concat (calls : List (Text × StationRating))
    (call : Text × StationRating) (stationId : Text) :
    lastRating (calls ++ [call]) stationId =
      if stationId = call.1 then call.2 else lastRating calls stationId := by
  rw [lastRating, List.reverse_append, List.reverse_singleton, List.singleton_append,
    List.find?_cons]
  by_cases same : stationId = call.1
  · rw [if_pos same, same, beq_self_eq_true]
    rfl
  · have other : (call.1 == stationId) = false := beq_false_of_ne (Ne.symm same)
    rw [if_neg same, other]
    rfl

private theorem refines_run (calls : List (Text × StationRating)) :
    ∃ cells preferences, FallibleRun.run setCall none calls = .ok cells ∧
      Refines cells preferences ∧
      ∀ stationId, Pianod.getStationRating preferences stationId = lastRating calls stationId := by
  induction calls using List.reverseRecOn with
  | nil => exact ⟨none, none, rfl, .absent, fun _ => rfl⟩
  | append_singleton calls call ih =>
      obtain ⟨cells, preferences, run, refines, rated⟩ := ih
      obtain ⟨after, set, refines'⟩ := refines.set_eq call.1 call.2
      have last : FallibleRun.run setCall cells [call] = .ok after := by
        rw [FallibleRun.run_cons_of_ok set, FallibleRun.run_nil]
      refine ⟨after, _, FallibleRun.run_append_ok_iff.mpr ⟨cells, run, last⟩, refines',
        fun stationId => ?_⟩
      rw [getStationRating_changed, rated, lastRating_concat]

private theorem Refines.sortedIds (refines : Refines cells preferences) : SortedIds cells := by
  cases refines with
  | absent => exact fun array member => nomatch member
  | @present array preferences holds =>
      intro other member
      cases member
      exact ⟨preferences.ratings, holds.records_eq, preferences.sorted⟩

/-- Every sequence of ratings set on a user who has none succeeds and leaves the array strictly
ascending; each station has the rating last set, and one more call leaves those of others. -/
theorem setStationRating_run (calls : List (Text × StationRating)) :
    ∃ cells, FallibleRun.run setCall none calls = .ok cells ∧ SortedIds cells ∧
      (∀ stationId, getStationRating cells stationId = .ok (lastRating calls stationId)) ∧
      ∀ stationId rating, ∃ after, setStationRating cells stationId rating = .ok after ∧
        ∀ other, getStationRating after other =
          if other = stationId then .ok rating else getStationRating cells other := by
  obtain ⟨cells, preferences, run, refines, rated⟩ := refines_run calls
  refine ⟨cells, run, refines.sortedIds, fun stationId => ?_, fun stationId rating => ?_⟩
  · rw [refines.get_eq, rated]
  · obtain ⟨after, set, refines'⟩ := refines.set_eq stationId rating
    refine ⟨after, set, fun other => ?_⟩
    rw [refines'.get_eq, refines.get_eq, getStationRating_changed]
    split <;> rfl

end RatingArray

end Pianod
