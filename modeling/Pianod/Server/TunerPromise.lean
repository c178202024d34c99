import Pianod.Server.Tuner

/-!
# What autotuning promises

The users whose opinions count form an electorate.  The documentation orders the stations of the
mix by three standards: liked by the whole electorate, liked by some and disliked by nobody, and
disliked by nobody.  The pseudo-station that plays the mix is not a candidate.
-/

namespace Pianod

open Foundation

/-- The user has recorded this rating for the station. -/
def User.Rates (user : User) (station : Station) (rating : StationRating) : Prop :=
  match user.stationPreferences with
  | none => False
  | some preferences => ⟨station.id, rating⟩ ∈ preferences.ratings

instance (user : User) (station : Station) (rating : StationRating) :
    Decidable (user.Rates station rating) := by
  unfold User.Rates
  cases user.stationPreferences with
  | none => exact .isFalse id
  | some preferences => exact List.instDecidableMemOfLawfulBEq _ _

/-- Everyone in the electorate rates the station good. -/
def LikedByAll (electorate : List User) (station : Station) : Prop :=
  ∀ user ∈ electorate, user.Rates station .good

/-- Nobody in the electorate rates the station bad. -/
def Tolerable (electorate : List User) (station : Station) : Prop :=
  ∀ user ∈ electorate, ¬user.Rates station .bad

/-- Someone in the electorate rates the station good and nobody rates it bad. -/
def LikedBySome (electorate : List User) (station : Station) : Prop :=
  (∃ user ∈ electorate, user.Rates station .good) ∧ Tolerable electorate station

/-- The standard applied in each of the three rounds. -/
def Qualifies (electorate : List User) : Nat → Station → Prop
  | 1 => LikedByAll electorate
  | 2 => LikedBySome electorate
  | _ => Tolerable electorate

instance (electorate : List User) (station : Station) :
    Decidable (LikedByAll electorate station) := List.decidableBAll _ _

instance (electorate : List User) (station : Station) :
    Decidable (Tolerable electorate station) := List.decidableBAll _ _

instance (electorate : List User) (station : Station) :
    Decidable (LikedBySome electorate station) := inferInstanceAs (Decidable (_ ∧ _))

instance (electorate : List User) (algorithm : Nat) (station : Station) :
    Decidable (Qualifies electorate algorithm station) :=
  match algorithm with
  | 0 => inferInstanceAs (Decidable (Tolerable electorate station))
  | 1 => inferInstanceAs (Decidable (LikedByAll electorate station))
  | 2 => inferInstanceAs (Decidable (LikedBySome electorate station))
  | _ + 3 => inferInstanceAs (Decidable (Tolerable electorate station))

namespace TuningContext

/-- The users considered under the autotuning mode. -/
def considered (context : TuningContext) : List User :=
  (if context.automaticMode &&& tuneOnLogins ≠ 0 then
    (context.listeners.filter (·.isOpen)).filterMap (·.user) else []) ++
  (if context.automaticMode &&& tuneOnAttribute ≠ 0 then
    context.users.userList.filter fun user => context.users.havePrivilege (some user) .present
  else [])

/-- The considered users whose opinions count. -/
def electorate (context : TuningContext) : List User :=
  context.considered.filter fun user => context.users.havePrivilege (some user) .influence

/-- Whether anyone, possibly a visitor, is listening under the autotuning mode. -/
def anyoneListening (context : TuningContext) : Bool :=
  (context.automaticMode &&& tuneOnLogins ≠ 0 && context.listeners.any (·.isOpen)) ||
  (context.automaticMode &&& tuneOnAttribute ≠ 0 &&
    context.users.userList.any fun user => context.users.havePrivilege (some user) .present)

end TuningContext

/-! ## The flags record the electorate's opinions -/

/-- A selector after counting the ratings of an electorate. -/
def StationSelector.collect (electorate : List User) (selector : StationSelector) :
    StationSelector :=
  electorate.foldl (fun selector user =>
    selector.applyRating (getStationRating user.stationPreferences selector.station.id)) selector

@[simp]
theorem StationSelector.collect_nil (selector : StationSelector) : selector.collect [] = selector :=
  rfl

@[simp]
theorem StationSelector.applyRating_station (selector : StationSelector) (rating : StationRating) :
    (selector.applyRating rating).station = selector.station := by
  cases rating <;> rfl

@[simp]
theorem StationSelector.collect_station (electorate : List User) (selector : StationSelector) :
    (selector.collect electorate).station = selector.station := by
  induction electorate generalizing selector with
  | nil => rfl
  | cons user rest ih => exact (ih _).trans (selector.applyRating_station _)

private theorem StationSelector.collect_append (first second : List User)
    (selector : StationSelector) :
    selector.collect (first ++ second) = (selector.collect first).collect second := by
  simp [StationSelector.collect]

theorem applyStationRatings_eq (users : UserDatabase) (user : User)
    (selectors : List StationSelector) :
    applyStationRatings users user selectors =
      selectors.map (·.collect ([user].filter fun user =>
        users.havePrivilege (some user) .influence)) := by
  by_cases influence : users.havePrivilege (some user) .influence
  · simp [applyStationRatings, influence, StationSelector.collect]
  · simp [applyStationRatings, influence, StationSelector.collect]

private theorem tuneBasedOnLogins_eq (users : UserDatabase) (listeners : List Listener)
    (anyoneListening : Bool) (selectors : List StationSelector) :
    tuneBasedOnLogins users listeners anyoneListening selectors =
      (anyoneListening || listeners.any (·.isOpen),
        selectors.map (·.collect (((listeners.filter (·.isOpen)).filterMap (·.user)).filter
          fun user => users.havePrivilege (some user) .influence))) := by
  induction listeners generalizing anyoneListening selectors with
  | nil => simp [tuneBasedOnLogins, StationSelector.collect]
  | cons listener listeners ih =>
      rcases listener with ⟨isOpen, user⟩
      cases isOpen with
      | false => simp [tuneBasedOnLogins, ih]
      | true =>
          cases user with
          | none => simp [tuneBasedOnLogins, ih]
          | some user =>
              rw [tuneBasedOnLogins, ih, applyStationRatings_eq, List.map_map]
              by_cases influence : users.havePrivilege (some user) .influence
              · simp [influence, StationSelector.collect, Function.comp_def]
              · simp [influence, StationSelector.collect, Function.comp_def]

private theorem tuneBasedOnAttribute_eq (users : UserDatabase) (list : List User)
    (anyoneListening : Bool) (selectors : List StationSelector) :
    tuneBasedOnAttribute users list anyoneListening selectors =
      (anyoneListening || list.any fun user => users.havePrivilege (some user) .present,
        selectors.map (·.collect ((list.filter fun user =>
          users.havePrivilege (some user) .present).filter
            fun user => users.havePrivilege (some user) .influence))) := by
  induction list generalizing anyoneListening selectors with
  | nil => simp [tuneBasedOnAttribute, StationSelector.collect]
  | cons user list ih =>
      by_cases present : users.havePrivilege (some user) .present
      · rw [tuneBasedOnAttribute, if_pos present, ih, applyStationRatings_eq, List.map_map]
        by_cases influence : users.havePrivilege (some user) .influence
        · simp [present, influence, StationSelector.collect, Function.comp_def]
        · simp [present, influence, StationSelector.collect, Function.comp_def]
      · rw [tuneBasedOnAttribute, if_neg present, ih]
        simp [present]

private theorem tune_eq (context : TuningContext) (selectors : List StationSelector) :
    tune context selectors =
      (context.anyoneListening, selectors.map (·.collect context.electorate)) := by
  by_cases logins : context.automaticMode &&& tuneOnLogins = 0 <;>
    by_cases present : context.automaticMode &&& tuneOnAttribute = 0 <;>
      simp [tune, TuningContext.anyoneListening, TuningContext.electorate,
        TuningContext.considered, logins, present, tuneBasedOnLogins_eq,
        tuneBasedOnAttribute_eq, StationSelector.collect_append, Function.comp_def, Bool.or_comm]

private theorem rates_good_iff (user : User) (station : Station) :
    getStationRating user.stationPreferences station.id = .good ↔ user.Rates station .good := by
  unfold User.Rates
  cases user.stationPreferences with
  | none => simp [getStationRating]
  | some preferences => exact getStationRating_eq_iff (by decide)

private theorem rates_bad_iff (user : User) (station : Station) :
    getStationRating user.stationPreferences station.id = .bad ↔ user.Rates station .bad := by
  unfold User.Rates
  cases user.stationPreferences with
  | none => simp [getStationRating]
  | some preferences => exact getStationRating_eq_iff (by decide)

/-- The flags after counting an electorate, from any flags before. -/
theorem StationSelector.collect_flags (electorate : List User) (selector : StationSelector) :
    ((selector.collect electorate).pureGood = true ↔
      selector.pureGood = true ∧ LikedByAll electorate selector.station) ∧
    ((selector.collect electorate).partialGood = true ↔
      selector.partialGood = true ∨ ∃ user ∈ electorate, user.Rates selector.station .good) ∧
    ((selector.collect electorate).bad = true ↔
      selector.bad = true ∨ ¬Tolerable electorate selector.station) := by
  induction electorate generalizing selector with
  | nil => simp [collect, LikedByAll, Tolerable]
  | cons user electorate ih =>
      have unfold_one : selector.collect (user :: electorate) =
          (selector.applyRating (getStationRating user.stationPreferences
            selector.station.id)).collect electorate := rfl
      have good := rates_good_iff user selector.station
      have bad := rates_bad_iff user selector.station
      rw [unfold_one]
      obtain ⟨pure, partly, disliked⟩ := ih
        (selector.applyRating (getStationRating user.stationPreferences selector.station.id))
      rw [pure, partly, disliked]
      simp only [applyRating_station, LikedByAll, Tolerable, List.forall_mem_cons,
        List.exists_mem_cons_iff, ← good, ← bad]
      cases getStationRating user.stationPreferences selector.station.id <;>
        simp [applyRating]

/-- A round includes exactly the stations that meet its standard. -/
theorem includes_iff (electorate : List User) (station : Station) (algorithm : Nat) :
    ((StationSelector.initial station).collect electorate).includes algorithm = true ↔
      Qualifies electorate algorithm station := by
  obtain ⟨pure, partly, disliked⟩ :=
    StationSelector.collect_flags electorate (StationSelector.initial station)
  simp only [StationSelector.initial, true_and, Bool.false_eq_true,
    false_or] at pure partly disliked
  have tolerated := not_congr disliked
  simp only [not_not, Bool.not_eq_true] at tolerated
  unfold StationSelector.includes Qualifies
  split
  · exact pure
  · simp only [Bool.and_eq_true, Bool.not_eq_true', LikedBySome]
    exact and_congr partly tolerated
  · simpa [StationSelector.initial] using tolerated

/-! ## The rounds -/

/-- The stations with the mix flags of one round. -/
def mixOfRound (electorate : List User) (algorithm : Nat) (stations : List Station) :
    List Station :=
  stations.map fun station =>
    { station with useQuickMix := decide (Qualifies electorate algorithm station) }

/-- The rounds stop at the first whose standard some station meets. -/
theorem selectStations_spec (algorithms : List Nat) (last : Nat)
    (selectors : List StationSelector) :
    (∀ algorithm ∈ algorithms, ∀ selector ∈ selectors, selector.includes algorithm = false) ∧
        (selectStations algorithms false last selectors).2.1 = false ∨
    ∃ earlier algorithm later, algorithms = earlier ++ algorithm :: later ∧
      (∀ tried ∈ earlier, ∀ selector ∈ selectors, selector.includes tried = false) ∧
      (∃ selector ∈ selectors, selector.includes algorithm = true) ∧
      selectStations algorithms false last selectors =
        (algorithm, true, selectors.map fun selector =>
          { selector with included := selector.includes algorithm }) := by
  induction algorithms generalizing last selectors with
  | nil => left; simp [selectStations]
  | cons algorithm algorithms ih =>
      by_cases some_included : ∃ selector ∈ selectors, selector.includes algorithm = true
      · right
        refine ⟨[], algorithm, algorithms, rfl, by simp, some_included, ?_⟩
        have any : (selectors.any fun selector => selector.includes algorithm) = true := by
          simpa using some_included
        simp [selectStations, List.any_map, Function.comp_def, any]
      · have none_included : ∀ selector ∈ selectors, selector.includes algorithm = false := by
          simpa using some_included
        have any : (selectors.any fun selector => selector.includes algorithm) = false := by
          simpa using none_included
        -- The flags of this round are overwritten by the next one.
        have next : selectStations (algorithm :: algorithms) false last selectors =
            selectStations algorithms false (algorithm + 1) (selectors.map fun selector =>
              { selector with included := selector.includes algorithm }) := by
          simp [selectStations, List.any_map, Function.comp_def, any]
        rw [next]
        rcases ih (algorithm + 1) (selectors.map fun selector =>
            { selector with included := selector.includes algorithm }) with
          ⟨untouched, result⟩ | ⟨earlier, chosen, later, split, tried, found, result⟩
        · left
          refine ⟨?_, result⟩
          rw [List.forall_mem_cons]
          refine ⟨none_included, fun other member selector present => ?_⟩
          simpa [StationSelector.includes] using untouched other member _
            (List.mem_map_of_mem present)
        · right
          refine ⟨algorithm :: earlier, chosen, later, by rw [split]; rfl, ?_, ?_, ?_⟩
          · rw [List.forall_mem_cons]
            refine ⟨none_included, fun other member selector present => ?_⟩
            simpa [StationSelector.includes] using tried other member _
              (List.mem_map_of_mem present)
          · obtain ⟨selector, member, includes⟩ := found
            obtain ⟨original, present, rfl⟩ := List.mem_map.mp member
            exact ⟨original, present, by simpa [StationSelector.includes] using includes⟩
          · rw [result]
            simp [StationSelector.includes, Function.comp_def]

/-- A non-empty list is computed from the flags of the electorate. -/
theorem recomputeStations_eq {context : TuningContext} {tuner : Tuner}
    (automatic : context.automaticStations = true) (stations : tuner.stations ≠ []) :
    recomputeStations context tuner =
      let outcome := selectStations [1, 2, 3] (!context.anyoneListening) 1
        (tuner.stations.map fun station => (StationSelector.initial station).collect
          context.electorate)
      .ok (publishStations tuner context.anyoneListening outcome.2.1 outcome.1 outcome.2.2) := by
  obtain ⟨first, rest, list⟩ := List.exists_cons_of_ne_nil stations
  have count : pianoListCount tuner.stations = .ok (rest.length + 1) := by
    rw [list]
    rfl
  simp [recomputeStations, automatic, count, tune_eq, Function.comp_def]

private theorem recomputeStations_of_silence {context : TuningContext} {tuner : Tuner}
    (automatic : context.automaticStations = true) (stations : tuner.stations ≠ [])
    (silence : context.anyoneListening = false) :
    ∃ after, recomputeStations context tuner = .ok after ∧ after.stations = tuner.stations ∧
      after.computedStationsIsEmptySet = true :=
  ⟨_, recomputeStations_eq automatic stations, by simp [publishStations, silence],
    by simp [publishStations, silence, Tuner.computedStationsIsEmptySet]⟩

/-- With a listener the first round that any station satisfies decides the mix. -/
theorem recomputeStations_of_listener {context : TuningContext} {tuner : Tuner}
    (automatic : context.automaticStations = true) (stations : tuner.stations ≠ [])
    (listening : context.anyoneListening = true) :
    (∀ round ∈ [1, 2, 3], ∀ station ∈ tuner.stations,
        ¬Qualifies context.electorate round station) ∧
      (∃ after, recomputeStations context tuner = .ok after ∧ after.stations = tuner.stations ∧
        after.computedStationsIsEmptySet = true) ∨
    ∃ round ∈ [1, 2, 3],
      (∀ earlier ∈ [1, 2, 3], earlier < round → ∀ station ∈ tuner.stations,
        ¬Qualifies context.electorate earlier station) ∧
      (∃ station ∈ tuner.stations, Qualifies context.electorate round station) ∧
      ∃ after, recomputeStations context tuner = .ok after ∧
        after.stations = mixOfRound context.electorate round tuner.stations ∧
        after.computedStationsIsEmptySet = false := by
  have computed := recomputeStations_eq automatic stations
  rw [listening] at computed
  have excluded (round : Nat)
      (none_included : ∀ selector ∈ tuner.stations.map fun station =>
        (StationSelector.initial station).collect context.electorate,
          selector.includes round = false) :
      ∀ station ∈ tuner.stations, ¬Qualifies context.electorate round station := by
    intro station member
    rw [← includes_iff, Bool.not_eq_true]
    exact none_included _ (List.mem_map_of_mem member)
  rcases selectStations_spec [1, 2, 3] 1 (tuner.stations.map fun station =>
      (StationSelector.initial station).collect context.electorate) with
    ⟨untouched, result⟩ | ⟨earlier, round, later, split, tried, found, result⟩
  · left
    refine ⟨fun round member => excluded round (untouched round member), _, computed, ?_, ?_⟩
    · simp [publishStations, result]
    · simp [publishStations, result, Tuner.computedStationsIsEmptySet]
  · right
    rw [Bool.not_true, result] at computed
    refine ⟨round, by simp [split], ?_, ?_, _, computed, ?_, ?_⟩
    · intro before listed less
      refine excluded before (tried before ?_)
      rw [split] at listed
      have ascending : (earlier ++ round :: later).Pairwise (· < ·) := by
        rw [← split]
        decide
      obtain ⟨-, tail, -⟩ := List.pairwise_append.mp ascending
      rcases List.mem_append.mp listed with front | back
      · exact front
      · rcases List.mem_cons.mp back with rfl | after
        · omega
        · have := List.rel_of_pairwise_cons tail after
          omega
    · obtain ⟨selector, present, includes⟩ := found
      obtain ⟨station, member, rfl⟩ := List.mem_map.mp present
      exact ⟨station, member, (includes_iff _ _ _).mp includes⟩
    · simp only [publishStations, mixOfRound, Bool.not_true, Bool.and_true, if_true, List.map_map]
      refine List.map_congr_left fun station _ => ?_
      have decided := includes_iff context.electorate station round
      simp [StationSelector.initial, ← decided]
    · simp [publishStations, Tuner.computedStationsIsEmptySet]

/-! ## The documented choice -/

/-- The stations that are real candidates for the mix. -/
def Tuner.ordinaryStations (tuner : Tuner) : List Station :=
  tuner.stations.filter fun station => !station.isQuickMix

/-- The first of the three standards that some candidate meets is the one applied. -/
def DocumentedChoice (electorate : List User) (candidates : List Station) (station : Station) :
    Prop :=
  if ∃ other ∈ candidates, LikedByAll electorate other then LikedByAll electorate station
  else if ∃ other ∈ candidates, LikedBySome electorate other then LikedBySome electorate station
  else Tolerable electorate station

/-- Every ordinary station is in the mix exactly when it is chosen, and no station changes in any
other respect. -/
def MixIs (chosen : Station → Prop) (before after : List Station) : Prop :=
  List.Forall₂ (fun old new => new = { old with useQuickMix := new.useQuickMix } ∧
    (old.isQuickMix = false → (new.useQuickMix = true ↔ chosen old))) before after

/-- One recomputation does what the documentation says: an empty list is left alone; the set is
reported empty exactly when nobody listens or every candidate is disliked by someone, and then the
mix stays as it was; otherwise the mix holds the documented choice. -/
def KeepsAutotunePromise (context : TuningContext) (tuner : Tuner) : Prop :=
  ∃ after, recomputeStations context tuner = .ok after ∧
    (tuner.stations = [] → after = tuner) ∧
    (tuner.stations ≠ [] →
      (after.computedStationsIsEmptySet = true ↔ context.anyoneListening = false ∨
        ∀ station ∈ tuner.ordinaryStations, ∃ user ∈ context.electorate, user.Rates station .bad) ∧
      (after.computedStationsIsEmptySet = true → after.stations = tuner.stations) ∧
      (after.computedStationsIsEmptySet = false →
        MixIs (DocumentedChoice context.electorate tuner.ordinaryStations) tuner.stations
          after.stations))

/-- The pseudo-station never qualifies in a round before some candidate does. -/
def MixFollowsCandidates (context : TuningContext) (tuner : Tuner) : Prop :=
  ∀ mix ∈ tuner.stations, mix.isQuickMix = true →
    ∀ round ∈ [1, 2, 3], Qualifies context.electorate round mix →
      ∃ earlier ∈ [1, 2, 3], earlier ≤ round ∧
        ∃ station ∈ tuner.ordinaryStations, Qualifies context.electorate earlier station

theorem User.Rates.unique {user : User} {station : Station} {first second : StationRating}
    (one : user.Rates station first) (two : user.Rates station second) : first = second := by
  unfold User.Rates at one two
  cases stored : user.stationPreferences with
  | none => simp [stored] at one
  | some preferences =>
      rw [stored] at one two
      exact StationPreferences.rating_unique one two

/-- Each of the three standards asks at least that nobody dislikes the station. -/
theorem Qualifies.tolerable {electorate : List User} {round : Nat} {station : Station}
    (qualifies : Qualifies electorate round station) : Tolerable electorate station := by
  unfold Qualifies at qualifies
  split at qualifies
  · intro user member bad
    cases (qualifies user member).unique bad
  · exact qualifies.2
  · exact qualifies

theorem not_tolerable_iff {electorate : List User} {station : Station} :
    ¬Tolerable electorate station ↔ ∃ user ∈ electorate, user.Rates station .bad := by
  simp [Tolerable]

/-- The documented choice is the standard of the first round that a candidate satisfies. -/
theorem documentedChoice_iff {electorate : List User} {candidates : List Station} {round : Nat}
    (listed : round ∈ [1, 2, 3])
    (satisfied : ∃ other ∈ candidates, Qualifies electorate round other)
    (first : ∀ earlier ∈ [1, 2, 3], earlier < round → ∀ other ∈ candidates,
      ¬Qualifies electorate earlier other) (station : Station) :
    DocumentedChoice electorate candidates station ↔ Qualifies electorate round station := by
  obtain rfl | rfl | rfl : round = 1 ∨ round = 2 ∨ round = 3 := by simpa using listed
  · have liked : ∃ other ∈ candidates, LikedByAll electorate other := satisfied
    simp [DocumentedChoice, if_pos liked, Qualifies]
  · have disputed : ¬∃ other ∈ candidates, LikedByAll electorate other := by
      rintro ⟨other, member, liked⟩
      exact first 1 (by decide) (by decide) other member liked
    have liked : ∃ other ∈ candidates, LikedBySome electorate other := satisfied
    simp [DocumentedChoice, if_neg disputed, if_pos liked, Qualifies]
  · have disputed : ¬∃ other ∈ candidates, LikedByAll electorate other := by
      rintro ⟨other, member, liked⟩
      exact first 1 (by decide) (by decide) other member liked
    have unloved : ¬∃ other ∈ candidates, LikedBySome electorate other := by
      rintro ⟨other, member, liked⟩
      exact first 2 (by decide) (by decide) other member liked
    simp [DocumentedChoice, if_neg disputed, if_neg unloved, Qualifies]

private theorem exists_documentedChoice {electorate : List User} {candidates : List Station}
    (tolerated : ∃ other ∈ candidates, Tolerable electorate other) :
    ∃ station ∈ candidates, DocumentedChoice electorate candidates station := by
  unfold DocumentedChoice
  split
  · assumption
  · split <;> assumption

theorem mixIs_mixOfRound {chosen : Station → Prop} {electorate : List User} {round : Nat}
    {stations : List Station} :
    MixIs chosen stations (mixOfRound electorate round stations) ↔
      ∀ station ∈ stations, station.isQuickMix = false →
        (Qualifies electorate round station ↔ chosen station) := by
  simp [MixIs, mixOfRound, List.forall₂_map_right_iff, List.forall₂_same]

/-- Autotuning keeps its promise exactly on the non-empty lists whose pseudo-station does not
overtake the candidates. -/
theorem keepsAutotunePromise_iff {context : TuningContext} {tuner : Tuner}
    (automatic : context.automaticStations = true) :
    KeepsAutotunePromise context tuner ↔
      tuner.stations ≠ [] ∧
        (context.anyoneListening = true → MixFollowsCandidates context tuner) := by
  constructor
  · rintro ⟨after, result, -, promise⟩
    have stations : tuner.stations ≠ [] := by
      intro empty
      simp [recomputeStations, automatic, empty, pianoListCount] at result
    refine ⟨stations, fun listening mix member pseudo round listed qualifies => ?_⟩
    obtain ⟨empty_iff, -, mix_is⟩ := promise stations
    by_contra overtaken
    rcases recomputeStations_of_listener automatic stations listening with
      ⟨untouched, -⟩ | ⟨chosen, chosen_listed, tried, -, other, result', mixed, nonempty⟩
    · exact untouched round listed mix member qualifies
    · obtain rfl : after = other := by simpa using result.symm.trans result'
      have chosen_le : chosen ≤ round := by
        by_contra later
        exact tried round listed (by omega) mix member qualifies
      -- No candidate meets the standard applied, yet a tolerable one had to be chosen.
      have none_chosen : ∀ station ∈ tuner.ordinaryStations,
          ¬Qualifies context.electorate chosen station := by
        intro station candidate good
        exact overtaken ⟨chosen, chosen_listed, chosen_le, station, candidate, good⟩
      have tolerated : ∃ station ∈ tuner.ordinaryStations,
          Tolerable context.electorate station := by
        by_contra disliked
        push Not at disliked
        have reported := empty_iff.mpr (.inr fun station candidate =>
          not_tolerable_iff.mp (disliked station candidate))
        simp [nonempty] at reported
      obtain ⟨station, candidate, documented⟩ := exists_documentedChoice tolerated
      rw [mixed] at mix_is
      have ordinary : station ∈ tuner.stations ∧ station.isQuickMix = false := by
        simpa [Tuner.ordinaryStations] using candidate
      exact none_chosen station candidate
        ((mixIs_mixOfRound.mp (mix_is nonempty) station ordinary.1 ordinary.2).mpr documented)
  · rintro ⟨stations, follows⟩
    cases listening : context.anyoneListening with
    | false =>
        obtain ⟨after, result, same, empty⟩ :=
          recomputeStations_of_silence automatic stations listening
        exact ⟨after, result, by simp [stations], fun _ => ⟨by simp [empty, listening],
          fun _ => same, by simp [empty]⟩⟩
    | true =>
        rcases recomputeStations_of_listener automatic stations listening with
          ⟨untouched, after, result, same, empty⟩ |
            ⟨round, listed, tried, ⟨witness, present, good⟩, after, result, mixed, nonempty⟩
        · refine ⟨after, result, by simp [stations], fun _ => ⟨?_, fun _ => same, by simp [empty]⟩⟩
          refine iff_of_true empty (.inr fun station candidate => not_tolerable_iff.mp ?_)
          exact untouched 3 (by decide) station (List.mem_of_mem_filter candidate)
        · have satisfied : ∃ station ∈ tuner.ordinaryStations,
              Qualifies context.electorate round station := by
            cases pseudo : witness.isQuickMix with
            | false => exact ⟨witness, by simp [Tuner.ordinaryStations, present, pseudo], good⟩
            | true =>
                obtain ⟨earlier, earlier_listed, le, station, candidate, qualifies⟩ :=
                  follows listening witness present pseudo round listed good
                rcases Nat.lt_or_eq_of_le le with less | rfl
                · exact absurd qualifies
                    (tried earlier earlier_listed less station (List.mem_of_mem_filter candidate))
                · exact ⟨station, candidate, qualifies⟩
          refine ⟨after, result, by simp [stations], fun _ => ⟨?_, by simp [nonempty], fun _ => ?_⟩⟩
          · rw [nonempty, listening]
            refine iff_of_false (by decide) ?_
            rintro (silence | disliked)
            · simp at silence
            · obtain ⟨station, candidate, qualifies⟩ := satisfied
              exact not_tolerable_iff.mpr (disliked station candidate) qualifies.tolerable
          · rw [mixed, mixIs_mixOfRound]
            intro station member ordinary
            refine (documentedChoice_iff listed satisfied ?_ station).symm
            intro earlier earlier_listed less other candidate
            exact tried earlier earlier_listed less other (List.mem_of_mem_filter candidate)

/-! ## One listener, one station -/

/-- A user with the attributes of a new record and one station rating. -/
def sampleRater (stationId : Text) (rating : StationRating) : User where
  serial := 1
  name := ascii "ann"
  password := []
  rank := .standard
  privileges := Privilege.initialValue
  pandoraCredentials := .destroyed
  stationPreferences := some (StationPreferences.empty.insertRecord stationId rating
    (StationPreferences.absent_empty stationId))

/-- Autotuning by login while a single user is connected. -/
def sampleTuning (user : User) : TuningContext where
  automaticStations := true
  automaticMode := tuneOnLogins
  listeners := [⟨true, some user⟩]
  users :=
    { userList := [user]
      startscript := user
      dirty := false
      visitorRank := .listener
      ownershipRule := .administrator
      nextSerial := 2 }

/-- The pseudo-station and one ordinary station, which is in the mix. -/
def sampleStations : Tuner where
  stations := [⟨ascii "QuickMix", ascii "q", true, false⟩, ⟨ascii "Rock", ascii "r", false, true⟩]
  computationHadResults := false
  computationHasListeners := false
  notices := []

/-- A listener who likes the only station gets it. -/
theorem sampleTuning_liked :
    KeepsAutotunePromise (sampleTuning (sampleRater (ascii "r") .good)) sampleStations :=
  (keepsAutotunePromise_iff rfl).mpr ⟨by decide, fun _ => by unfold MixFollowsCandidates; decide⟩

/-- A listener who dislikes the only station is left with a mix of the pseudo-station alone, and
the computation reports a result. -/
theorem sampleTuning_disliked :
    ¬KeepsAutotunePromise (sampleTuning (sampleRater (ascii "r") .bad)) sampleStations := by
  rintro ⟨after, result, -, promise⟩
  have computed : recomputeStations (sampleTuning (sampleRater (ascii "r") .bad)) sampleStations =
      .ok
        { stations := [⟨ascii "QuickMix", ascii "q", true, true⟩,
            ⟨ascii "Rock", ascii "r", false, false⟩]
          computationHadResults := true
          computationHasListeners := true
          notices := [.setQuickmix, .mixChanged,
            .status "autotuner selected tolerable stations"] } := by rfl
  obtain rfl := Except.ok.inj (result.symm.trans computed)
  have reported := (promise (by decide)).1.mpr (.inr (by decide))
  simp [Tuner.computedStationsIsEmptySet] at reported

end Pianod
