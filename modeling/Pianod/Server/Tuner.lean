import Pianod.Server.Stations
import Pianod.Server.Users

/-!
# Autotuning

The tuner collects the opinions of the considered users into flags on each station and then
tries three rules, from the most demanding to the most tolerant, until some station qualifies.
-/

namespace Pianod

open Foundation

/-- A connection as the service iterator reports it. -/
structure Listener where
  /-- Whether the connection is still open. -/
  isOpen : Bool
  /-- The user logged in on the connection; visitors have none. -/
  user : Option User

/-- Everything the tuner reads. -/
structure TuningContext where
  /-- Whether the stations are chosen by the ratings. -/
  automaticStations : Bool
  /-- Whose ratings count. -/
  automaticMode : UInt32
  /-- Who is connected. -/
  listeners : List Listener
  users : UserDatabase

/-- What the tuner sends out. -/
inductive TunerNotice where
  | status (text : String)
  | setQuickmix
  | mixChanged
deriving DecidableEq, Repr

/-- The station list, the outcome of the last computation, and the notices it sent. -/
structure Tuner where
  stations : List Station
  computationHadResults : Bool
  computationHasListeners : Bool
  notices : List TunerNotice
deriving DecidableEq, Repr

def tuneOnLogins : UInt32 := 0x4000

def tuneOnAttribute : UInt32 := 0x8000

def tuneOnAll : UInt32 := 0xffff

/-- A station with the flags accumulated over the considered users. -/
structure StationSelector where
  station : Station
  /-- Whether all of them rated it good. -/
  pureGood : Bool
  /-- Whether one of them rated it good. -/
  partialGood : Bool
  /-- Whether one of them rated it bad. -/
  bad : Bool
  /-- Whether the station is in the mix. -/
  included : Bool

/-- The flags before any user was considered. -/
def StationSelector.initial (station : Station) : StationSelector :=
  ⟨station, true, false, false, false⟩

/-- Count one rating. -/
def StationSelector.applyRating (selector : StationSelector) : StationRating → StationSelector
  | .good => { selector with partialGood := true }
  | .bad => { selector with bad := true, pureGood := false }
  | .neutral => { selector with pureGood := false }

/-- Count a user's ratings, if the user has influence. -/
def applyStationRatings (users : UserDatabase) (user : User) (selectors : List StationSelector) :
    List StationSelector :=
  if users.havePrivilege (some user) .influence then
    selectors.map fun selector =>
      selector.applyRating (getStationRating user.stationPreferences selector.station.id)
  else
    selectors

/-- Count the ratings of the users on open connections; report whether anyone is connected. -/
def tuneBasedOnLogins (users : UserDatabase) :
    List Listener → Bool → List StationSelector → Bool × List StationSelector
  | [], anyoneListening, selectors => (anyoneListening, selectors)
  | ⟨true, some user⟩ :: listeners, _, selectors =>
      tuneBasedOnLogins users listeners true (applyStationRatings users user selectors)
  | ⟨isOpen, _⟩ :: listeners, anyoneListening, selectors =>
      tuneBasedOnLogins users listeners (anyoneListening || isOpen) selectors

/-- Count the ratings of the users marked present; report whether there is one. -/
def tuneBasedOnAttribute (users : UserDatabase) :
    List User → Bool → List StationSelector → Bool × List StationSelector
  | [], anyoneListening, selectors => (anyoneListening, selectors)
  | user :: rest, anyoneListening, selectors =>
      if users.havePrivilege (some user) .present then
        tuneBasedOnAttribute users rest true (applyStationRatings users user selectors)
      else
        tuneBasedOnAttribute users rest anyoneListening selectors

/-- Apply the selected autotuning sources. -/
def tune (context : TuningContext) (selectors : List StationSelector) :
    Bool × List StationSelector :=
  let (loggedIn, selectors) :=
    if context.automaticMode &&& tuneOnLogins ≠ 0 then
      tuneBasedOnLogins context.users context.listeners false selectors
    else (false, selectors)
  let (present, selectors) :=
    if context.automaticMode &&& tuneOnAttribute ≠ 0 then
      tuneBasedOnAttribute context.users context.users.userList false selectors
    else (false, selectors)
  (present || loggedIn, selectors)

/-- The inclusion rule of one round. -/
def StationSelector.includes (selector : StationSelector) (algorithm : Nat) : Bool :=
  match algorithm with
  | 1 => selector.pureGood
  | 2 => selector.partialGood && !selector.bad
  | _ => !selector.bad

/-- Try the rounds in turn until there are results. -/
def selectStations : List Nat → Bool → Nat → List StationSelector →
    Nat × Bool × List StationSelector
  | [], hadResults, last, selectors => (last, hadResults, selectors)
  | algorithm :: algorithms, hadResults, _, selectors =>
      let selectors := selectors.map fun selector =>
        { selector with included := selector.includes algorithm }
      let hadResults := hadResults || selectors.any (·.included)
      if hadResults then (algorithm, hadResults, selectors)
      else selectStations algorithms hadResults (algorithm + 1) selectors

/-- libpiano's element count. -/
def pianoListCount {α : Type} : List α → Except Fault Nat
  | [] => .error (.assertion "l != NULL")
  | items => .ok items.length

/-- What the tuner announces when the mix has changed. -/
def mixChangedStatus (algorithm : Nat) : String :=
  if algorithm = 1 then "autotuner selected stations everyone likes"
  else if algorithm = 2 then "autotuner selected stations somebody likes"
  else "autotuner selected tolerable stations"

/-- Copy the computed stations back and tell the clients. -/
def publishStations (tuner : Tuner) (hasListeners hadResults : Bool) (algorithm : Nat)
    (selectors : List StationSelector) : Tuner :=
  let computed := { tuner with
    computationHadResults := hadResults
    computationHasListeners := hasListeners }
  if !hasListeners then
    { computed with notices := tuner.notices ++ [.status "No listeners."] }
  else if hadResults && hasListeners then
    let changed := selectors.any fun selector => selector.station.useQuickMix != selector.included
    { computed with
      stations := selectors.map fun selector =>
        { selector.station with useQuickMix := selector.included }
      notices := tuner.notices ++
        if changed then [.setQuickmix, .mixChanged, .status (mixChangedStatus algorithm)] else [] }
  else
    { computed with notices := tuner.notices ++
      [.status "current listener station preferences are incompatible"] }

/-- Change the mix stations according to the considered users' ratings. -/
def recomputeStations (context : TuningContext) (tuner : Tuner) : Except Fault Tuner :=
  if !context.automaticStations then .ok tuner
  else
    match pianoListCount tuner.stations with
    | .error fault => .error fault
    | .ok stationCount =>
        if stationCount = 0 then .ok tuner
        else
          let (hasListeners, flagged) := tune context (tuner.stations.map .initial)
          let (algorithm, hadResults, selectors) :=
            selectStations [1, 2, 3] (!hasListeners) 1 flagged
          .ok (publishStations tuner hasListeners hadResults algorithm selectors)

/-- Whether the last computation found nothing to play. -/
def Tuner.computedStationsIsEmptySet (tuner : Tuner) : Bool :=
  !tuner.computationHadResults || !tuner.computationHasListeners

end Pianod
