import Mathlib.Tactic.Common
import Pianod.Server.Application

/-!
# Calls to the Pandora server

A call repeats its HTTP exchange for as long as the server wants.  When the authentication token is
rejected it logs in, by a call of its own, and starts over; nothing limits how often.
-/

namespace Pianod

inductive PianoRequestType where
  | login | getStations | getPlaylist | rateSong | addFeedback | renameStation | deleteStation
  | search | createStation | addSeed | addTiredSong | setQuickmix | getGenreStations
  | transformStation | explain | bookmarkSong | bookmarkArtist | getStationInfo | deleteFeedback
  | deleteSeed
deriving DecidableEq, Repr

/-- A return code; those from the offset on are error codes of the server. -/
abbrev PianoReturn := Int

def pianoRetErr : PianoReturn := 0
def pianoRetOk : PianoReturn := 1
def pianoRetInvalidResponse : PianoReturn := 2
def pianoRetContinueRequest : PianoReturn := 3
def pianoRetOutOfMemory : PianoReturn := 4
def pianoRetInvalidLogin : PianoReturn := 5
def pianoRetQualityUnavailable : PianoReturn := 6
def pianoRetOffset : PianoReturn := 1024
def pianoRetInvalidAuthToken : PianoReturn := pianoRetOffset + 1001
def pianoRetInvalidPartnerLogin : PianoReturn := pianoRetOffset + 1002

/-- What reading the result of a successful request comes to. -/
inductive ParsedResult where
  | complete
  | outOfMemory
  | qualityUnavailable
deriving DecidableEq, Repr

def ParsedResult.ret : ParsedResult → PianoReturn
  | complete => pianoRetOk
  | outOfMemory => pianoRetOutOfMemory
  | qualityUnavailable => pianoRetQualityUnavailable

/-- An answer of the server. -/
inductive PianoAnswer where
  /-- One without a status. -/
  | noStatus
  /-- Any status but `ok`, and its error code if it has one. -/
  | failed (code : Option Int)
  /-- The status `ok`; the time stamp matters to a login only. -/
  | ok (timestampDecrypts : Bool) (parsed : ParsedResult)
deriving DecidableEq, Repr

/-- Read an answer; the second component is the login's step. -/
def pianoResponse (type : PianoRequestType) (step : Nat) : PianoAnswer → PianoReturn × Nat
  | .noStatus => (pianoRetInvalidResponse, step)
  | .failed none => (pianoRetInvalidResponse, step)
  | .failed (some code) =>
      let ret := code + pianoRetOffset
      if ret = pianoRetInvalidPartnerLogin ∧ type = .login ∧ step = 1 then
        (pianoRetInvalidLogin, step)
      else (ret, step)
  | .ok timestampDecrypts parsed =>
      if type = .login then
        match step with
        | 0 => (if timestampDecrypts then pianoRetContinueRequest else pianoRetErr, 1)
        | step => (pianoRetOk, step)
      else (parsed.ret, step)

/-- What becomes of one request. -/
inductive Exchange where
  /-- It could not be put together. -/
  | unprepared
  | networkFailed
  | answered (answer : PianoAnswer)
deriving DecidableEq, Repr

/-- What a call returns, what everyone is told about a failure, and the exchanges by then. -/
structure CallResult where
  success : Bool
  told : Option ResponseCode
  exchanges : Nat
deriving DecidableEq, Repr

/-- Prepare and execute HTTP requests as long as there are any to do, with fuel for the loop and for
the call that logs in again. -/
def barUiPianoCall (server : Nat → Exchange) :
    Nat → PianoRequestType → Nat → Nat → Option CallResult
  | 0, _, _, _ => none
  | fuel + 1, type, step, exchanges =>
      match server exchanges with
      | .unprepared => some ⟨false, some .eFailure, exchanges⟩
      | .networkFailed => some ⟨false, some .eNetworkFailure, exchanges + 1⟩
      | .answered answer =>
          let (pRet, step) := pianoResponse type step answer
          if pRet = pianoRetContinueRequest then
            barUiPianoCall server fuel type step (exchanges + 1)
          else if pRet = pianoRetInvalidAuthToken ∧ type ≠ .login then
            match barUiPianoCall server fuel .login 0 (exchanges + 1) with
            | none => none
            | some reauthenticated =>
                if reauthenticated.success then
                  barUiPianoCall server fuel type step reauthenticated.exchanges
                else some reauthenticated
          else if pRet ≠ pianoRetOk then some ⟨false, some .eAuthentication, exchanges + 1⟩
          else some ⟨true, none, exchanges + 1⟩

/-! ## What keeps a call going -/

/-- The error code that the offset makes a request to continue. -/
def Continues (exchange : Exchange) : Prop := exchange = .answered (.failed (some (-1021)))

/-- The token is not accepted. -/
def RejectsToken (exchange : Exchange) : Prop := exchange = .answered (.failed (some 1001))

/-- The first half of a login succeeds. -/
def AcceptsPartner (exchange : Exchange) : Prop :=
  ∃ parsed, exchange = .answered (.ok true parsed)

/-- The error code that the offset makes a success. -/
def PassesForSuccess (exchange : Exchange) : Prop :=
  exchange = .answered (.failed (some (-1023)))

/-- The second half of a login succeeds. -/
def AcceptsUser (exchange : Exchange) : Prop :=
  PassesForSuccess exchange ∨ ∃ timestampDecrypts parsed,
    exchange = .answered (.ok timestampDecrypts parsed)

/-- A round after which the request is made once more: it is to be continued, or the token was
rejected and the login succeeded. -/
inductive Retry : List Exchange → Prop where
  | continued {exchange} : Continues exchange → Retry [exchange]
  | passed {rejection waits success} : RejectsToken rejection → (∀ wait ∈ waits, Continues wait) →
      PassesForSuccess success → Retry (rejection :: waits ++ [success])
  | loggedIn {rejection waits partner more user} : RejectsToken rejection →
      (∀ wait ∈ waits, Continues wait) → AcceptsPartner partner →
      (∀ wait ∈ more, Continues wait) → AcceptsUser user →
      Retry (rejection :: waits ++ partner :: more ++ [user])

/-- The beginning of a round. -/
inductive Unfinished : List Exchange → Prop where
  | between : Unfinished []
  | rejected {rejection waits} : RejectsToken rejection → (∀ wait ∈ waits, Continues wait) →
      Unfinished (rejection :: waits)
  | halfway {rejection waits partner more} : RejectsToken rejection →
      (∀ wait ∈ waits, Continues wait) → AcceptsPartner partner →
      (∀ wait ∈ more, Continues wait) → Unfinished (rejection :: waits ++ partner :: more)

/-- Exchanges that are nothing but rounds of retrying. -/
def OnlyRetries (exchanges : List Exchange) : Prop :=
  ∃ (retries : List (List Exchange)) (unfinished : List Exchange),
    exchanges = retries.flatten ++ unfinished ∧ (∀ retry ∈ retries, Retry retry) ∧
      Unfinished unfinished

/-- The first exchanges of an endless behaviour. -/
def firstExchanges (server : Nat → Exchange) (count : Nat) : List Exchange :=
  (List.range count).map server

/-! ## One exchange -/

/-- What a call is waiting for. -/
inductive CallPhase where
  | request
  | login (step : Nat)
deriving DecidableEq, Repr

/-- What the call waits for after an exchange; nothing once it has returned. -/
def advance (type : PianoRequestType) : CallPhase → Exchange → Option CallPhase
  | .request, .answered answer =>
      let pRet := (pianoResponse type 0 answer).1
      if pRet = pianoRetContinueRequest then some .request
      else if pRet = pianoRetInvalidAuthToken then some (.login 0)
      else none
  | .login step, .answered answer =>
      let (pRet, step) := pianoResponse .login step answer
      if pRet = pianoRetContinueRequest then some (.login step)
      else if pRet = pianoRetOk then some .request
      else none
  | _, _ => none

private theorem pianoResponse_step {type : PianoRequestType} (notLogin : type ≠ .login) (step : Nat)
    (answer : PianoAnswer) : (pianoResponse type step answer).2 = step := by
  cases answer with
  | noStatus => rfl
  | failed code =>
      cases code with
      | none => rfl
      | some code => simp [pianoResponse, notLogin]
  | ok timestampDecrypts parsed => simp [pianoResponse, notLogin]

section Run

variable (server : Nat → Exchange) {type : PianoRequestType}

/-- One round of the loop of a request other than a login. -/
theorem request_cases (notLogin : type ≠ .login) (fuel exchanges : Nat) :
    (advance type .request (server exchanges) = some .request ∧
      barUiPianoCall server (fuel + 1) type 0 exchanges =
        barUiPianoCall server fuel type 0 (exchanges + 1)) ∨
    (advance type .request (server exchanges) = some (.login 0) ∧
      barUiPianoCall server (fuel + 1) type 0 exchanges =
        (barUiPianoCall server fuel .login 0 (exchanges + 1)).bind fun reauthenticated =>
          if reauthenticated.success then
            barUiPianoCall server fuel type 0 reauthenticated.exchanges
          else some reauthenticated) ∨
    (advance type .request (server exchanges) = none ∧
      ∃ result, barUiPianoCall server (fuel + 1) type 0 exchanges = some result) := by
  cases received : server exchanges with
  | unprepared => exact .inr (.inr ⟨rfl, by simp [barUiPianoCall, received]⟩)
  | networkFailed => exact .inr (.inr ⟨rfl, by simp [barUiPianoCall, received]⟩)
  | answered answer =>
      have same := pianoResponse_step notLogin 0 answer
      simp only [advance, barUiPianoCall, received]
      rcases read : pianoResponse type 0 answer with ⟨pRet, step⟩
      rw [read] at same
      obtain rfl : step = 0 := same
      by_cases continues : pRet = pianoRetContinueRequest
      · rw [if_pos continues, if_pos continues]
        exact .inl ⟨rfl, rfl⟩
      · rw [if_neg continues, if_neg continues]
        by_cases rejected : pRet = pianoRetInvalidAuthToken
        · rw [if_pos rejected, if_pos ⟨rejected, notLogin⟩]
          refine .inr (.inl ⟨rfl, ?_⟩)
          cases barUiPianoCall server fuel .login 0 (exchanges + 1) <;> rfl
        · rw [if_neg rejected, if_neg fun both => rejected both.1]
          refine .inr (.inr ⟨rfl, ?_⟩)
          split <;> exact ⟨_, rfl⟩

/-- One round of the loop of a login. -/
theorem login_cases (fuel step exchanges : Nat) :
    (∃ next, advance type (.login step) (server exchanges) = some (.login next) ∧
      barUiPianoCall server (fuel + 1) .login step exchanges =
        barUiPianoCall server fuel .login next (exchanges + 1)) ∨
    (advance type (.login step) (server exchanges) = some .request ∧
      barUiPianoCall server (fuel + 1) .login step exchanges =
        some ⟨true, none, exchanges + 1⟩) ∨
    (advance type (.login step) (server exchanges) = none ∧
      ∃ result, barUiPianoCall server (fuel + 1) .login step exchanges = some result ∧
        result.success = false) := by
  cases received : server exchanges with
  | unprepared => exact .inr (.inr ⟨rfl, by simp [barUiPianoCall, received]⟩)
  | networkFailed => exact .inr (.inr ⟨rfl, by simp [barUiPianoCall, received]⟩)
  | answered answer =>
      simp only [advance, barUiPianoCall, received]
      rcases pianoResponse .login step answer with ⟨pRet, next⟩
      have noLogin : ¬(pRet = pianoRetInvalidAuthToken ∧ PianoRequestType.login ≠ .login) :=
        fun both => both.2 rfl
      by_cases continues : pRet = pianoRetContinueRequest
      · rw [if_pos continues, if_pos continues]
        exact .inl ⟨next, rfl, rfl⟩
      · rw [if_neg continues, if_neg continues, if_neg noLogin]
        by_cases good : pRet = pianoRetOk
        · rw [if_pos good, if_neg fun bad => bad good]
          exact .inr (.inl ⟨rfl, rfl⟩)
        · rw [if_neg good, if_pos good]
          exact .inr (.inr ⟨rfl, _, rfl, rfl⟩)

/-! ## Whole calls -/

variable (type)

/-- What a call waits for after its first exchanges. -/
def phaseAfter : Nat → Option CallPhase
  | 0 => some .request
  | count + 1 => (phaseAfter count).bind fun phase => advance type phase (server count)

variable {server type}

theorem phaseAfter_succ {count : Nat} {phase : CallPhase}
    (before : phaseAfter server type count = some phase) :
    phaseAfter server type (count + 1) = advance type phase (server count) := by
  rw [phaseAfter, before]
  rfl

theorem phaseAfter_none_mono {count later : Nat} (ended : phaseAfter server type count = none)
    (after : count ≤ later) : phaseAfter server type later = none := by
  induction later, after using Nat.le_induction with
  | base => exact ended
  | succ later _ induction => rw [phaseAfter, induction, Option.bind_none]

/-- A call that returns has come to an exchange after which it waits for nothing. -/
theorem ended_of_returns (notLogin : type ≠ .login) (fuel exchanges : Nat) :
    (phaseAfter server type exchanges = some .request →
      (barUiPianoCall server fuel type 0 exchanges).isSome →
        ∃ count, phaseAfter server type count = none) ∧
    ∀ step result, phaseAfter server type exchanges = some (.login step) →
      barUiPianoCall server fuel .login step exchanges = some result →
        if result.success then phaseAfter server type result.exchanges = some .request
        else ∃ count, phaseAfter server type count = none := by
  induction fuel generalizing exchanges with
  | zero => simp [barUiPianoCall]
  | succ fuel induction =>
      refine ⟨fun before returned => ?_, fun step result before returned => ?_⟩
      · have next := phaseAfter_succ before
        rcases request_cases server notLogin fuel exchanges with
          ⟨continues, unfolded⟩ | ⟨rejected, unfolded⟩ | ⟨ended, -⟩
        · exact (induction (exchanges + 1)).1 (next.trans continues) (unfolded ▸ returned)
        · cases login : barUiPianoCall server fuel .login 0 (exchanges + 1) with
          | none => simp [unfolded, login] at returned
          | some reauthenticated =>
              have outcome := (induction (exchanges + 1)).2 0 reauthenticated
                (next.trans rejected) login
              by_cases success : reauthenticated.success = true
              · rw [if_pos success] at outcome
                apply (induction reauthenticated.exchanges).1 outcome
                simpa [unfolded, login, success] using returned
              · rwa [if_neg success] at outcome
        · exact ⟨exchanges + 1, next.trans ended⟩
      · have next := phaseAfter_succ before
        rcases @login_cases server type fuel step exchanges with
          ⟨step, continues, unfolded⟩ | ⟨loggedIn, unfolded⟩ | ⟨ended, other, unfolded, failed⟩
        · exact (induction (exchanges + 1)).2 step result (next.trans continues)
            (unfolded ▸ returned)
        · obtain rfl := Option.some.inj (unfolded.symm.trans returned)
          exact next.trans loggedIn
        · obtain rfl := Option.some.inj (unfolded.symm.trans returned)
          rw [failed]
          exact ⟨exchanges + 1, next.trans ended⟩

/-- A call that waits for nothing after some exchanges returns, given more fuel than these. -/
theorem returns_of_ended (notLogin : type ≠ .login) (distance exchanges : Nat)
    (ended : phaseAfter server type (exchanges + distance) = none) :
    (phaseAfter server type exchanges = some .request → ∀ fuel, distance < fuel →
      (barUiPianoCall server fuel type 0 exchanges).isSome) ∧
    ∀ step, phaseAfter server type exchanges = some (.login step) → ∀ fuel, distance < fuel →
      ∃ result, barUiPianoCall server fuel .login step exchanges = some result ∧
        (result.success = true → exchanges < result.exchanges ∧
          phaseAfter server type result.exchanges = some .request) := by
  induction distance using Nat.strong_induction_on generalizing exchanges with
  | _ distance induction =>
      cases distance with
      | zero =>
          rw [Nat.add_zero] at ended
          simp [ended]
      | succ distance =>
          have ended' : phaseAfter server type (exchanges + 1 + distance) = none := by
            rwa [Nat.add_right_comm, Nat.add_assoc]
          obtain ⟨requestReturns, loginReturns⟩ :=
            induction distance (Nat.lt_succ_self _) (exchanges + 1) ended'
          refine ⟨fun before fuel enough => ?_, fun step before fuel enough => ?_⟩
          all_goals
            obtain ⟨fuel, rfl⟩ : ∃ less, fuel = less + 1 := ⟨fuel - 1, by omega⟩
            have next := phaseAfter_succ before
          · rcases request_cases server notLogin fuel exchanges with
              ⟨continues, unfolded⟩ | ⟨rejected, unfolded⟩ | ⟨-, result, returned⟩
            · rw [unfolded]
              exact requestReturns (next.trans continues) fuel (by omega)
            · obtain ⟨reauthenticated, login, resumes⟩ :=
                loginReturns 0 (next.trans rejected) fuel (by omega)
              rw [unfolded, login, Option.bind_some]
              split
              case isTrue success =>
                obtain ⟨later, resumed⟩ := resumes success
                have within : reauthenticated.exchanges < exchanges + (distance + 1) := by
                  by_contra beyond
                  simp [phaseAfter_none_mono ended (not_lt.mp beyond)] at resumed
                obtain ⟨rest, rest_eq⟩ := Nat.exists_eq_add_of_le within.le
                exact (induction rest (by omega) _ (rest_eq ▸ ended)).1 resumed fuel (by omega)
              case isFalse => rfl
            · rw [returned]
              rfl
          · rcases @login_cases server type fuel step exchanges with
              ⟨step, continues, unfolded⟩ | ⟨loggedIn, unfolded⟩ | ⟨-, result, unfolded, failed⟩
            · rw [unfolded]
              obtain ⟨result, returned, resumes⟩ :=
                loginReturns step (next.trans continues) fuel (by omega)
              refine ⟨result, returned, fun success => ?_⟩
              obtain ⟨later, resumed⟩ := resumes success
              exact ⟨by omega, resumed⟩
            · exact ⟨_, unfolded, fun _ => ⟨Nat.lt_succ_self _, next.trans loggedIn⟩⟩
            · exact ⟨result, unfolded, fun success => by simp [failed] at success⟩

theorem returns_iff_ended (notLogin : type ≠ .login) :
    (∃ fuel result, barUiPianoCall server fuel type 0 0 = some result) ↔
      ∃ count, phaseAfter server type count = none := by
  constructor
  · rintro ⟨fuel, result, returned⟩
    exact (ended_of_returns notLogin fuel 0).1 rfl (by simp [returned])
  · rintro ⟨count, ended⟩
    have returned := (returns_of_ended notLogin count 0 (by rwa [Nat.zero_add])).1 rfl (count + 1)
      (Nat.lt_succ_self _)
    exact ⟨count + 1, Option.isSome_iff_exists.mp returned⟩

end Run

/-! ## The exchanges of a call that goes on -/

section Grammar

variable {type : PianoRequestType}

theorem pianoResponse_failed (type : PianoRequestType) (step : Nat) (code : Int) :
    (pianoResponse type step (.failed (some code))).2 = step ∧
      ((pianoResponse type step (.failed (some code))).1 = pianoRetContinueRequest ↔
        code = -1021) ∧
      ((pianoResponse type step (.failed (some code))).1 = pianoRetInvalidAuthToken ↔
        code = 1001) ∧
      ((pianoResponse type step (.failed (some code))).1 = pianoRetOk ↔ code = -1023) := by
  have read : pianoResponse type step (.failed (some code)) = (pianoRetInvalidLogin, step) ∧
      code = 1002 ∨ pianoResponse type step (.failed (some code)) =
        (code + pianoRetOffset, step) := by
    simp only [pianoResponse]
    split
    case isTrue ambiguous =>
      have same : code + 1024 = 1024 + 1002 := ambiguous.1
      exact .inl ⟨rfl, by omega⟩
    case isFalse => exact .inr rfl
  rcases read with ⟨read, rfl⟩ | read
  · rw [read]
    have others : pianoRetInvalidLogin ≠ pianoRetContinueRequest ∧
        pianoRetInvalidLogin ≠ pianoRetInvalidAuthToken ∧ pianoRetInvalidLogin ≠ pianoRetOk := by
      decide
    exact ⟨rfl, iff_of_false others.1 (by decide), iff_of_false others.2.1 (by decide),
      iff_of_false others.2.2 (by decide)⟩
  · rw [read]
    refine ⟨rfl, ?_, ?_, ?_⟩
    · show code + 1024 = 3 ↔ code = -1021
      omega
    · show code + 1024 = 1024 + 1001 ↔ code = 1001
      omega
    · show code + 1024 = 1 ↔ code = -1023
      omega

private theorem advance_request (notLogin : type ≠ .login) (exchange : Exchange) :
    Continues exchange ∧ advance type .request exchange = some .request ∨
      RejectsToken exchange ∧ advance type .request exchange = some (.login 0) ∨
      advance type .request exchange = none := by
  cases exchange with
  | unprepared => simp [advance]
  | networkFailed => simp [advance]
  | answered answer =>
      cases answer with
      | noStatus => exact .inr (.inr rfl)
      | failed code =>
          cases code with
          | none => exact .inr (.inr rfl)
          | some code =>
              obtain ⟨-, continues, rejected, -⟩ := pianoResponse_failed type 0 code
              simp only [advance, continues, rejected, Continues, RejectsToken]
              by_cases again : code = -1021
              · simp [again]
              · by_cases refused : code = 1001 <;> simp [again, refused]
      | ok timestampDecrypts parsed =>
          right; right
          simp only [advance, pianoResponse, if_neg notLogin]
          cases parsed <;> rfl

private theorem advance_firstStep (exchange : Exchange) :
    Continues exchange ∧ advance type (.login 0) exchange = some (.login 0) ∨
      AcceptsPartner exchange ∧ advance type (.login 0) exchange = some (.login 1) ∨
      PassesForSuccess exchange ∧ advance type (.login 0) exchange = some .request ∨
      advance type (.login 0) exchange = none := by
  cases exchange with
  | unprepared => simp [advance]
  | networkFailed => simp [advance]
  | answered answer =>
      cases answer with
      | noStatus => exact .inr (.inr (.inr rfl))
      | failed code =>
          cases code with
          | none => exact .inr (.inr (.inr rfl))
          | some code =>
              obtain ⟨step, continues, -, passed⟩ := pianoResponse_failed .login 0 code
              simp only [advance, continues, passed, step, Continues, PassesForSuccess]
              by_cases again : code = -1021
              · simp [again]
              · by_cases success : code = -1023 <;> simp [again, success]
      | ok timestampDecrypts parsed =>
          cases timestampDecrypts with
          | true => exact .inr (.inl ⟨⟨parsed, rfl⟩, rfl⟩)
          | false => exact .inr (.inr (.inr rfl))

private theorem advance_secondStep (exchange : Exchange) :
    Continues exchange ∧ advance type (.login 1) exchange = some (.login 1) ∨
      AcceptsUser exchange ∧ advance type (.login 1) exchange = some .request ∨
      advance type (.login 1) exchange = none := by
  cases exchange with
  | unprepared => simp [advance]
  | networkFailed => simp [advance]
  | answered answer =>
      cases answer with
      | noStatus => exact .inr (.inr rfl)
      | failed code =>
          cases code with
          | none => exact .inr (.inr rfl)
          | some code =>
              obtain ⟨step, continues, -, passed⟩ := pianoResponse_failed .login 1 code
              simp only [advance, continues, passed, step, Continues, AcceptsUser,
                PassesForSuccess]
              by_cases again : code = -1021
              · simp [again]
              · by_cases success : code = -1023 <;> simp [again, success]
      | ok timestampDecrypts parsed => exact .inr (.inl ⟨.inr ⟨_, _, rfl⟩, rfl⟩)

variable (type) in
/-- What a call in some phase waits for after some exchanges. -/
def waitsFor : CallPhase → List Exchange → Option CallPhase
  | phase, [] => some phase
  | phase, exchange :: exchanges =>
      (advance type phase exchange).bind fun phase => waitsFor phase exchanges

theorem waitsFor_append (phase : CallPhase) (earlier later : List Exchange) :
    waitsFor type phase (earlier ++ later) =
      (waitsFor type phase earlier).bind fun phase => waitsFor type phase later := by
  induction earlier generalizing phase with
  | nil => rfl
  | cons exchange earlier induction =>
      simp only [List.cons_append, waitsFor]
      cases advance type phase exchange with
      | none => rfl
      | some next => exact induction next

theorem waitsFor_concat (phase : CallPhase) (earlier : List Exchange) (exchange : Exchange) :
    waitsFor type phase (earlier ++ [exchange]) =
      (waitsFor type phase earlier).bind fun phase => advance type phase exchange := by
  rw [waitsFor_append]
  congr 1
  funext phase
  simp [waitsFor]

private theorem phaseAfter_eq_waitsFor (server : Nat → Exchange) (count : Nat) :
    phaseAfter server type count = waitsFor type .request (firstExchanges server count) := by
  induction count with
  | zero => rfl
  | succ count induction =>
      rw [phaseAfter, induction, firstExchanges, firstExchanges, List.range_succ, List.map_append]
      exact (waitsFor_concat _ _ _).symm

/-! ### Words that keep a call going -/

private theorem advance_of_continues {exchange : Exchange} (continues : Continues exchange)
    (phase : CallPhase) : advance type phase exchange = some phase := by
  obtain rfl := continues
  cases phase <;> rfl

theorem advance_of_rejects {exchange : Exchange} (rejects : RejectsToken exchange) :
    advance type .request exchange = some (.login 0) := by
  obtain rfl := rejects
  rfl

theorem advance_of_acceptsPartner {exchange : Exchange} (accepts : AcceptsPartner exchange) :
    advance type (.login 0) exchange = some (.login 1) := by
  obtain ⟨parsed, rfl⟩ := accepts
  rfl

theorem advance_of_passes {exchange : Exchange} (passes : PassesForSuccess exchange) (step : Nat) :
    advance type (.login step) exchange = some .request := by
  obtain rfl := passes
  rfl

private theorem advance_of_acceptsUser {exchange : Exchange} (accepts : AcceptsUser exchange) :
    advance type (.login 1) exchange = some .request := by
  rcases accepts with passes | ⟨timestampDecrypts, parsed, rfl⟩
  · exact advance_of_passes passes 1
  · rfl

theorem waitsFor_of_continues {exchanges : List Exchange}
    (continues : ∀ exchange ∈ exchanges, Continues exchange) (phase : CallPhase) :
    waitsFor type phase exchanges = some phase := by
  induction exchanges with
  | nil => rfl
  | cons exchange exchanges induction =>
      rw [waitsFor, advance_of_continues (continues exchange (by simp)), Option.bind_some]
      exact induction fun other member => continues other (by simp [member])

theorem Unfinished.waitsFor {exchanges : List Exchange} (unfinished : Unfinished exchanges) :
    (waitsFor type .request exchanges).isSome := by
  cases unfinished with
  | between => rfl
  | rejected rejects continues =>
      simp [Pianod.waitsFor, advance_of_rejects rejects, waitsFor_of_continues continues]
  | halfway rejects continues accepts more =>
      simp [Pianod.waitsFor, waitsFor_append, advance_of_rejects rejects,
        waitsFor_of_continues continues, advance_of_acceptsPartner accepts,
        waitsFor_of_continues more]

theorem Retry.waitsFor {exchanges : List Exchange} (retry : Retry exchanges) :
    waitsFor type .request exchanges = some .request := by
  cases retry with
  | continued continues => exact waitsFor_of_continues (by simpa using continues) .request
  | passed rejects continues passes =>
      simp [Pianod.waitsFor, waitsFor_append, advance_of_rejects rejects,
        waitsFor_of_continues continues, advance_of_passes passes]
  | loggedIn rejects continues accepts more accepted =>
      simp [Pianod.waitsFor, waitsFor_append, advance_of_rejects rejects,
        waitsFor_of_continues continues, advance_of_acceptsPartner accepts,
        waitsFor_of_continues more, advance_of_acceptsUser accepted]

private theorem waitsFor_retries {retries : List (List Exchange)}
    (all : ∀ retry ∈ retries, Retry retry) :
    waitsFor type .request retries.flatten = some .request := by
  induction retries with
  | nil => rfl
  | cons retry retries induction =>
      rw [List.flatten_cons, waitsFor_append, (all retry (by simp)).waitsFor, Option.bind_some]
      exact induction fun other member => all other (by simp [member])

/-- The exchanges of a call in each of its phases. -/
def ReadBy : CallPhase → List Exchange → Prop
  | .request, exchanges => ∃ retries : List (List Exchange),
      exchanges = retries.flatten ∧ ∀ retry ∈ retries, Retry retry
  | .login 0, exchanges => ∃ (retries : List (List Exchange)) (rejection : Exchange)
      (waits : List Exchange), exchanges = retries.flatten ++ rejection :: waits ∧
        (∀ retry ∈ retries, Retry retry) ∧ RejectsToken rejection ∧ ∀ wait ∈ waits, Continues wait
  | .login 1, exchanges => ∃ (retries : List (List Exchange)) (rejection partner : Exchange)
      (waits more : List Exchange),
        exchanges = retries.flatten ++ (rejection :: waits ++ partner :: more) ∧
        (∀ retry ∈ retries, Retry retry) ∧ RejectsToken rejection ∧
        (∀ wait ∈ waits, Continues wait) ∧ AcceptsPartner partner ∧ ∀ wait ∈ more, Continues wait
  | .login _, _ => False

theorem readBy_request_concat {retries : List (List Exchange)} {retry : List Exchange}
    (all : ∀ retry ∈ retries, Retry retry) (last : Retry retry) :
    ReadBy .request (retries.flatten ++ retry) := by
  refine ⟨retries ++ [retry], by simp, fun other member => ?_⟩
  rcases List.mem_append.mp member with member | member
  · exact all other member
  · rwa [List.mem_singleton.mp member]

theorem all_concat {exchanges : List Exchange} {exchange : Exchange}
    (all : ∀ wait ∈ exchanges, Continues wait) (last : Continues exchange) :
    ∀ wait ∈ exchanges ++ [exchange], Continues wait := by
  intro wait member
  rcases List.mem_append.mp member with member | member
  · exact all wait member
  · rwa [List.mem_singleton.mp member]

private theorem readBy_of_waitsFor (notLogin : type ≠ .login) {exchanges : List Exchange}
    {phase : CallPhase} (waiting : waitsFor type .request exchanges = some phase) :
    ReadBy phase exchanges := by
  induction exchanges using List.reverseRecOn generalizing phase with
  | nil =>
      obtain rfl := Option.some.inj waiting
      exact ⟨[], rfl, by simp⟩
  | append_singleton exchanges exchange induction =>
      rw [waitsFor_concat] at waiting
      obtain ⟨before, earlier, moved⟩ := Option.bind_eq_some_iff.mp waiting
      have read := induction earlier
      match before, read with
      | .request, ⟨retries, split, all⟩ =>
          rcases advance_request notLogin exchange with
            ⟨continues, next⟩ | ⟨rejects, next⟩ | next
          · obtain rfl := Option.some.inj (next.symm.trans moved)
            exact split ▸ readBy_request_concat all (.continued continues)
          · obtain rfl := Option.some.inj (next.symm.trans moved)
            exact ⟨retries, exchange, [], by rw [split], all, rejects, by simp⟩
          · simp [next] at moved
      | .login 0, ⟨retries, rejection, waits, split, all, rejects, held⟩ =>
          rcases @advance_firstStep type exchange with
            ⟨continues, next⟩ | ⟨accepts, next⟩ | ⟨passes, next⟩ | next
          · obtain rfl := Option.some.inj (next.symm.trans moved)
            exact ⟨retries, rejection, waits ++ [exchange], by simp [split], all, rejects,
              all_concat held continues⟩
          · obtain rfl := Option.some.inj (next.symm.trans moved)
            exact ⟨retries, rejection, exchange, waits, [], by simp [split], all, rejects, held,
              accepts, by simp⟩
          · obtain rfl := Option.some.inj (next.symm.trans moved)
            rw [split, List.append_assoc]
            exact readBy_request_concat all (.passed rejects held passes)
          · simp [next] at moved
      | .login 1, ⟨retries, rejection, partner, waits, more, split, all, rejects, held, accepts,
          after⟩ =>
          rcases @advance_secondStep type exchange with
            ⟨continues, next⟩ | ⟨accepted, next⟩ | next
          · obtain rfl := Option.some.inj (next.symm.trans moved)
            exact ⟨retries, rejection, partner, waits, more ++ [exchange], by simp [split], all,
              rejects, held, accepts, all_concat after continues⟩
          · obtain rfl := Option.some.inj (next.symm.trans moved)
            rw [split, List.append_assoc]
            exact readBy_request_concat all (.loggedIn rejects held accepts after accepted)
          · simp [next] at moved

private theorem waitsFor_isSome_iff (notLogin : type ≠ .login) (exchanges : List Exchange) :
    (waitsFor type .request exchanges).isSome ↔ OnlyRetries exchanges := by
  constructor
  · intro waiting
    obtain ⟨phase, waiting⟩ := Option.isSome_iff_exists.mp waiting
    match phase, readBy_of_waitsFor notLogin waiting with
    | .request, ⟨retries, split, all⟩ => exact ⟨retries, [], by simp [split], all, .between⟩
    | .login 0, ⟨retries, _, _, split, all, rejects, continues⟩ =>
        exact ⟨retries, _, split, all, .rejected rejects continues⟩
    | .login 1, ⟨retries, _, _, _, _, split, all, rejects, continues, accepts, more⟩ =>
        exact ⟨retries, _, split, all, .halfway rejects continues accepts more⟩
  · rintro ⟨retries, unfinished, rfl, all, rest⟩
    rw [waitsFor_append, waitsFor_retries all]
    exact rest.waitsFor

end Grammar

/-- A call for anything but a login returns exactly when the exchanges are not endless retries. -/
theorem barUiPianoCall_returns_iff {type : PianoRequestType} (notLogin : type ≠ .login)
    (server : Nat → Exchange) :
    (∃ fuel result, barUiPianoCall server fuel type 0 0 = some result) ↔
      ∃ count, ¬OnlyRetries (firstExchanges server count) := by
  rw [returns_iff_ended notLogin]
  apply exists_congr
  intro count
  rw [← waitsFor_isSome_iff notLogin, ← phaseAfter_eq_waitsFor, Option.not_isSome_iff_eq_none]

theorem barUiPianoCall_returns_failure :
    (∃ fuel result, barUiPianoCall (fun _ => .networkFailed) fuel .getPlaylist 0 0 =
      some result) ↔ ∃ count, ¬OnlyRetries (firstExchanges (fun _ => .networkFailed) count) :=
  barUiPianoCall_returns_iff (by decide) fun _ => .networkFailed

/-- A server that accepts every login and rejects the token it issued. -/
def rejectingServer (exchanges : Nat) : Exchange :=
  if exchanges % 3 = 0 then .answered (.failed (some 1001)) else .answered (.ok true .complete)

private theorem phaseAfter_rejectingServer (rounds : Nat) :
    phaseAfter rejectingServer .getPlaylist (3 * rounds) = some .request := by
  induction rounds with
  | zero => rfl
  | succ rounds induction =>
      have first : rejectingServer (3 * rounds) = .answered (.failed (some 1001)) := by
        simp [rejectingServer]
      have second : rejectingServer (3 * rounds + 1) = .answered (.ok true .complete) := by
        simp [rejectingServer, Nat.add_mod]
      have third : rejectingServer (3 * rounds + 2) = .answered (.ok true .complete) := by
        simp [rejectingServer, Nat.add_mod]
      rw [show 3 * (rounds + 1) = 3 * rounds + 2 + 1 by omega, phaseAfter, phaseAfter, phaseAfter,
        induction, first, second, third]
      rfl

/-- The call for a playlist goes on for ever against such a server. -/
theorem barUiPianoCall_rejectingServer :
    ¬∃ fuel result, barUiPianoCall rejectingServer fuel .getPlaylist 0 0 = some result := by
  rw [returns_iff_ended (by decide)]
  rintro ⟨count, ended⟩
  have later := phaseAfter_none_mono ended (show count ≤ 3 * count by omega)
  rw [phaseAfter_rejectingServer] at later
  exact nomatch later

end Pianod
