import Mathlib.Data.Fintype.EquivFin
import Pianod.Server.TunerCoherence

/-!
# Users without a say

The documentation leaves the disabled, those without influence and the absent without a say in the
mix.  The tuner never looks at a rank, so a disabled user who kept the influence privilege is heard
like any other; nobody else is.  Who is heard first, and how often, makes no difference.
-/

namespace Pianod

open Foundation

/-! ## Two runs -/

namespace TuningContext

/-- The users who should have no influence: they are disabled, lack the influence privilege, or are
neither connected nor flagged present in the autotuning mode. -/
def Disregarded (context : TuningContext) (user : User) : Prop :=
  user.rank = .none ∨ context.users.havePrivilege (some user) .influence = false ∨
    user ∉ context.considered

/-- The same situation with other station ratings. -/
def withRatings (context : TuningContext) (ratings : User → Option StationPreferences) :
    TuningContext :=
  let revise (user : User) := { user with stationPreferences := ratings user }
  { context with
    listeners := context.listeners.map fun listener =>
      { listener with user := listener.user.map revise }
    users := { context.users with
      userList := context.users.userList.map revise
      startscript := revise context.users.startscript } }

/-- The same open connections and the same users, in any order and any number of times; closed
connections do not matter. -/
structure SamePeople (context other : TuningContext) : Prop where
  automatic : other.automaticStations = context.automaticStations
  mode : other.automaticMode = context.automaticMode
  users : other.users = { context.users with userList := other.users.userList }
  listed : ∀ user, user ∈ other.users.userList ↔ user ∈ context.users.userList
  connected : ∀ listener, listener.isOpen = true →
    (listener ∈ other.listeners ↔ listener ∈ context.listeners)

/-- The computation comes out the same, with the same mix flags, whatever the disregarded users
think of the stations, and in whatever order and however often people are visited. -/
def IgnoresDisregarded (context : TuningContext) : Prop :=
  (∀ ratings, (∀ user, ¬context.Disregarded user → ratings user = user.stationPreferences) →
    ∀ tuner, recomputeStations (context.withRatings ratings) tuner =
      recomputeStations context tuner) ∧
  ∀ other, context.SamePeople other →
    ∀ tuner, recomputeStations other tuner = recomputeStations context tuner

end TuningContext

/-! ## What the computation depends on -/

@[simp]
theorem StationSelector.applyRating_included (selector : StationSelector)
    (rating : StationRating) : (selector.applyRating rating).included = selector.included := by
  cases rating <;> rfl

@[simp]
theorem StationSelector.collect_included (electorate : List User) (selector : StationSelector) :
    (selector.collect electorate).included = selector.included := by
  induction electorate generalizing selector with
  | nil => rfl
  | cons user electorate ih => exact (ih _).trans (selector.applyRating_included _)

/-- The flags depend only on who is in the electorate. -/
theorem StationSelector.collect_congr {first second : List User}
    (same : ∀ user, user ∈ first ↔ user ∈ second) (selector : StationSelector) :
    selector.collect first = selector.collect second := by
  obtain ⟨pure, partly, disliked⟩ := selector.collect_flags first
  obtain ⟨pure', partly', disliked'⟩ := selector.collect_flags second
  have liked : LikedByAll first selector.station ↔ LikedByAll second selector.station :=
    forall_congr' fun user => imp_congr_left (same user)
  have tolerated : Tolerable first selector.station ↔ Tolerable second selector.station :=
    forall_congr' fun user => imp_congr_left (same user)
  have supported : (∃ user ∈ first, user.Rates selector.station .good) ↔
      ∃ user ∈ second, user.Rates selector.station .good :=
    exists_congr fun user => and_congr_left' (same user)
  have station : (selector.collect first).station = (selector.collect second).station := by simp
  have included : (selector.collect first).included = (selector.collect second).included := by simp
  have pureGood := Bool.eq_iff_iff.mpr (pure.trans ((and_congr_right' liked).trans pure'.symm))
  have partialGood :=
    Bool.eq_iff_iff.mpr (partly.trans ((or_congr_right supported).trans partly'.symm))
  have bad := Bool.eq_iff_iff.mpr
    (disliked.trans ((or_congr_right (not_congr tolerated)).trans disliked'.symm))
  cases one : selector.collect first
  cases two : selector.collect second
  simp_all

/-- The computation depends only on the mode, on whether anyone listens and on who is in the
electorate. -/
theorem recomputeStations_congr {context other : TuningContext}
    (automatic : other.automaticStations = context.automaticStations)
    (listening : other.anyoneListening = context.anyoneListening)
    (same : ∀ user, user ∈ other.electorate ↔ user ∈ context.electorate) (tuner : Tuner) :
    recomputeStations other tuner = recomputeStations context tuner := by
  cases on : context.automaticStations with
  | false => simp [recomputeStations, on, automatic]
  | true =>
      by_cases stations : tuner.stations = []
      · simp [recomputeStations, on, automatic, stations, pianoListCount]
      · rw [recomputeStations_eq on stations, recomputeStations_eq (automatic.trans on) stations,
          listening]
        have collected : (fun station => (StationSelector.initial station).collect
            other.electorate) = fun station => (StationSelector.initial station).collect
              context.electorate :=
          funext fun station => StationSelector.collect_congr same _
        rw [collected]

namespace TuningContext

theorem mem_considered {context : TuningContext} {user : User} :
    user ∈ context.considered ↔
      (context.automaticMode &&& tuneOnLogins ≠ 0 ∧ ⟨true, some user⟩ ∈ context.listeners) ∨
      (context.automaticMode &&& tuneOnAttribute ≠ 0 ∧ user ∈ context.users.userList ∧
        context.users.havePrivilege (some user) .present = true) := by
  have connected : user ∈ (context.listeners.filter (·.isOpen)).filterMap (·.user) ↔
      ⟨true, some user⟩ ∈ context.listeners := by
    simp only [List.mem_filterMap, List.mem_filter]
    constructor
    · rintro ⟨⟨isOpen, found⟩, ⟨member, opened⟩, rfl⟩
      rw [← opened]
      exact member
    · exact fun member => ⟨_, ⟨member, rfl⟩, rfl⟩
  rw [considered, List.mem_append]
  refine or_congr ?_ ?_
  · split_ifs with logins
    · simp [logins, connected]
    · simp [logins]
  · split_ifs with flags
    · simp [flags]
    · simp [flags]

private theorem anyoneListening_of_mem_considered {context : TuningContext} {user : User}
    (considered : user ∈ context.considered) : context.anyoneListening = true := by
  rw [anyoneListening, Bool.or_eq_true, Bool.and_eq_true, Bool.and_eq_true]
  rcases mem_considered.mp considered with ⟨logins, member⟩ | ⟨flags, member, present⟩
  · exact .inl ⟨decide_eq_true logins, List.any_eq_true.mpr ⟨_, member, rfl⟩⟩
  · exact .inr ⟨decide_eq_true flags, List.any_eq_true.mpr ⟨user, member, present⟩⟩

/-- Whoever is visited, in any order and any number of times, the same electorate is heard. -/
theorem SamePeople.considered {context other : TuningContext} (same : SamePeople context other)
    (user : User) : user ∈ other.considered ↔ user ∈ context.considered := by
  rw [mem_considered, mem_considered, same.mode, same.listed, same.connected _ rfl, same.users]
  rfl

theorem SamePeople.electorate {context other : TuningContext} (same : SamePeople context other)
    (user : User) : user ∈ other.electorate ↔ user ∈ context.electorate := by
  rw [TuningContext.electorate, TuningContext.electorate, List.mem_filter, List.mem_filter,
    same.considered, same.users]
  rfl

theorem SamePeople.anyoneListening {context other : TuningContext}
    (same : SamePeople context other) : other.anyoneListening = context.anyoneListening := by
  have opened : other.listeners.any (·.isOpen) = context.listeners.any (·.isOpen) := by
    rw [Bool.eq_iff_iff, List.any_eq_true, List.any_eq_true]
    exact exists_congr fun listener =>
      ⟨fun ⟨member, opened⟩ => ⟨(same.connected listener opened).mp member, opened⟩,
        fun ⟨member, opened⟩ => ⟨(same.connected listener opened).mpr member, opened⟩⟩
  have present : (other.users.userList.any fun user =>
        other.users.havePrivilege (some user) .present) =
      context.users.userList.any fun user =>
        context.users.havePrivilege (some user) .present := by
    rw [Bool.eq_iff_iff, List.any_eq_true, List.any_eq_true]
    refine exists_congr fun user => and_congr (same.listed user) ?_
    rw [same.users]
    rfl
  rw [TuningContext.anyoneListening, TuningContext.anyoneListening, opened, present, same.mode]

/-! ## Other ratings -/

private theorem considered_withRatings (context : TuningContext)
    (ratings : User → Option StationPreferences) :
    (context.withRatings ratings).considered = context.considered.map fun user =>
      { user with stationPreferences := ratings user } := by
  have mode : (context.withRatings ratings).automaticMode = context.automaticMode := rfl
  rw [considered, considered, List.map_append, mode]
  congr 1
  · split_ifs
    · simp only [withRatings, List.filter_map, List.filterMap_map, List.map_filterMap]
      rfl
    · rfl
  · split_ifs
    · simp only [withRatings, List.filter_map]
      rfl
    · rfl

theorem electorate_withRatings (context : TuningContext)
    (ratings : User → Option StationPreferences) :
    (context.withRatings ratings).electorate = context.electorate.map fun user =>
      { user with stationPreferences := ratings user } := by
  rw [electorate, electorate, considered_withRatings, List.filter_map]
  rfl

theorem anyoneListening_withRatings (context : TuningContext)
    (ratings : User → Option StationPreferences) :
    (context.withRatings ratings).anyoneListening = context.anyoneListening := by
  simp only [anyoneListening, withRatings, List.any_map]
  rfl

private theorem not_disregarded {context : TuningContext}
    (enabled : ∀ user ∈ context.electorate, user.rank ≠ .none) {user : User}
    (member : user ∈ context.electorate) : ¬context.Disregarded user := by
  obtain ⟨considered, influence⟩ := List.mem_filter.mp member
  rintro (disabled | powerless | absent)
  · exact enabled user member disabled
  · rw [powerless] at influence
    cases influence
  · exact absent considered

private theorem electorate_withRatings_eq {context : TuningContext}
    (enabled : ∀ user ∈ context.electorate, user.rank ≠ .none)
    {ratings : User → Option StationPreferences}
    (same : ∀ user, ¬context.Disregarded user → ratings user = user.stationPreferences) :
    (context.withRatings ratings).electorate = context.electorate := by
  rw [electorate_withRatings]
  refine (List.map_congr_left fun user member => ?_).trans (List.map_id _)
  rw [same user (not_disregarded enabled member)]
  rfl

end TuningContext

/-! ## Disabled users are heard -/

/-- Preferences that call one station bad. -/
def dislikeOf (stationId : Text) : StationPreferences :=
  StationPreferences.empty.insertRecord stationId .bad (StationPreferences.absent_empty stationId)

/-- A list of a single ordinary station. -/
def loneStation (stationId : Text) : Tuner where
  stations := [⟨[], stationId, false, false⟩]
  computationHadResults := false
  computationHasListeners := false
  notices := []

theorem loneStation_ne_nil (stationId : Text) : (loneStation stationId).stations ≠ [] :=
  List.cons_ne_nil _ _

/-- Some station is rated by nobody. -/
theorem exists_unrated (electorate : List User) :
    ∃ stationId, ∀ user ∈ electorate, ∀ rating,
      ¬user.Rates ⟨[], stationId, false, false⟩ rating := by
  let rated : List Text := electorate.flatMap fun user =>
    user.stationPreferences.elim [] fun preferences => preferences.ratings.map (·.stationId)
  obtain ⟨stationId, fresh⟩ := Infinite.exists_notMem_finset rated.toFinset
  refine ⟨stationId, fun user member rating rates => fresh ?_⟩
  rw [List.mem_toFinset, List.mem_flatMap]
  refine ⟨user, member, ?_⟩
  rw [User.Rates] at rates
  cases shape : user.stationPreferences with
  | none =>
      rw [shape] at rates
      exact rates.elim
  | some preferences =>
      rw [shape] at rates
      exact List.mem_map.mpr ⟨_, rates, rfl⟩

/-- With listeners, a computation over one station has results if the station is tolerable. -/
theorem hadResults_loneStation {context : TuningContext} {after : Tuner}
    (automatic : context.automaticStations = true) (listening : context.anyoneListening = true)
    {stationId : Text} (computed : recomputeStations context (loneStation stationId) = .ok after) :
    after.computationHadResults = true ↔
      Tolerable context.electorate ⟨[], stationId, false, false⟩ := by
  obtain ⟨found, result, agrees⟩ :=
    recomputeStations_agrees automatic (loneStation_ne_nil stationId)
  obtain rfl := Except.ok.inj (result.symm.trans computed)
  rw [agrees.hadResults, TuningContext.outcome, if_pos listening]
  cases chosen : chosenRound context.electorate (loneStation stationId).stations with
  | none =>
      rw [chosenRound, List.find?_eq_none] at chosen
      have third := chosen 3 (by decide)
      refine iff_of_false Bool.false_ne_true fun tolerable => third ?_
      exact List.any_eq_true.mpr ⟨_, List.mem_cons_self, decide_eq_true tolerable⟩
  | some round =>
      rw [chosenRound] at chosen
      have found := List.find?_some chosen
      obtain ⟨station, member, qualifies⟩ := List.any_eq_true.mp found
      obtain rfl := List.mem_singleton.mp member
      exact iff_of_true rfl (of_decide_eq_true qualifies).tolerable

/-- The disabled user's opinion of a station nobody knows decides whether it is played. -/
theorem not_ignoresDisregarded {context : TuningContext}
    (automatic : context.automaticStations = true) {user : User}
    (member : user ∈ context.electorate) (disabled : user.rank = .none) :
    ¬context.IgnoresDisregarded := by
  rintro ⟨ignores, -⟩
  obtain ⟨stationId, unrated⟩ := exists_unrated context.electorate
  let ratings (other : User) : Option StationPreferences :=
    if other.rank = .none then some (dislikeOf stationId) else other.stationPreferences
  have kept : ∀ other, ¬context.Disregarded other → ratings other = other.stationPreferences :=
    fun other regarded => if_neg fun rank => regarded (.inl rank)
  have same := ignores ratings kept (loneStation stationId)
  have listening := TuningContext.anyoneListening_of_mem_considered (List.mem_of_mem_filter member)
  have listening' := (context.anyoneListening_withRatings ratings).trans listening
  obtain ⟨after, computed, -⟩ :=
    recomputeStations_agrees automatic (loneStation_ne_nil stationId)
  have tolerable : Tolerable context.electorate ⟨[], stationId, false, false⟩ :=
    fun other present => unrated other present .bad
  have before := (hadResults_loneStation automatic listening computed).mpr tolerable
  have still := (@hadResults_loneStation (context.withRatings ratings) after automatic
    listening' stationId (same.trans computed)).mp before
  rw [context.electorate_withRatings ratings] at still
  refine still _ (List.mem_map_of_mem member) ?_
  have rated : ratings user = some (dislikeOf stationId) := if_pos disabled
  rw [User.Rates, rated]
  simp [dislikeOf, StationPreferences.insertRecord]

/-- Users who should have no influence have none, and neither the order of visits nor repeated
visits matter, exactly when no disabled user with the influence privilege is considered. -/
theorem ignoresDisregarded_iff (context : TuningContext) :
    context.IgnoresDisregarded ↔
      (context.automaticStations = true → ∀ user ∈ context.electorate, user.rank ≠ .none) := by
  constructor
  · intro ignores automatic user member disabled
    exact not_ignoresDisregarded automatic member disabled ignores
  · intro enabled
    refine ⟨fun ratings kept tuner => ?_, fun other same tuner =>
      recomputeStations_congr same.automatic same.anyoneListening same.electorate tuner⟩
    cases automatic : context.automaticStations with
    | false =>
        have off : (context.withRatings ratings).automaticStations = false := automatic
        simp [recomputeStations, automatic, off]
    | true =>
        refine @recomputeStations_congr context (context.withRatings ratings) rfl
          (context.anyoneListening_withRatings ratings) (fun user => ?_) tuner
        rw [TuningContext.electorate_withRatings_eq (enabled automatic) kept]

/-- A disabled user with the influence privilege, logged in. -/
def sampleDisabled : User :=
  { sampleRater (ascii "r") .good with
    rank := .none
    privileges := fun privilege => decide (privilege = .influence)
    stationPreferences := none }

/-- Ratings that differ only in what the disabled think of one station. -/
def sampleOpinions (user : User) : Option StationPreferences :=
  if user.rank = .none then some (dislikeOf (ascii "r")) else user.stationPreferences

/-- What a disabled user thinks of a station decides whether there is anything to play. -/
theorem sampleDisabled_heard : ¬(sampleTuning sampleDisabled).IgnoresDisregarded := by
  rintro ⟨ignores, -⟩
  have kept : ∀ user, ¬(sampleTuning sampleDisabled).Disregarded user →
      sampleOpinions user = user.stationPreferences :=
    fun user regarded => if_neg fun rank => regarded (.inl rank)
  have same := ignores sampleOpinions kept (loneStation (ascii "r"))
  have played : (recomputeStations (sampleTuning sampleDisabled) (loneStation (ascii "r"))).map
      (·.computationHadResults) = .ok true := by rfl
  have silenced : (recomputeStations ((sampleTuning sampleDisabled).withRatings sampleOpinions)
      (loneStation (ascii "r"))).map (·.computationHadResults) = .ok false := by rfl
  rw [same, played] at silenced
  cases silenced

end Pianod
