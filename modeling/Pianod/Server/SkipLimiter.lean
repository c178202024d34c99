import Pianod.Foundation.SlidingWindow
import Pianod.Server.PlaybackCommands

/-!
# The skip limiter

`skips_are_available` keeps the skips of all stations in one list, most recent first, and forgets
the expired ones while it counts those of a station.  It is a sliding window for each station.
-/

namespace Pianod

open Foundation

/-- Scan the historic skips, counting for a station and forgetting all from the first expired. -/
def scanSkips (now : Nat) (station : Text) : List (Text × Nat) → Nat → List (Text × Nat) × Nat
  | [], skipCount => ([], skipCount)
  | skip :: skips, skipCount =>
      if skip.2 + Server.skipPeriod ≤ now then ([], skipCount)
      else
        let scanned := scanSkips now station skips
          (if Text.strcmp skip.1 station = .eq then skipCount + 1 else skipCount)
        (skip :: scanned.1, scanned.2)

private theorem scanSkips_eq (now : Nat) (station : Text) (skips : List (Text × Nat))
    (skipCount : Nat) : scanSkips now station skips skipCount =
      (SlidingWindow.recent Server.skipPeriod now skips,
        skipCount + (SlidingWindow.recent Server.skipPeriod now skips).countP
          fun skip => Text.strcmp skip.1 station = .eq) := by
  induction skips generalizing skipCount with
  | nil => rfl
  | cons skip skips induction =>
      by_cases expired : skip.2 + Server.skipPeriod ≤ now
      · simp [scanSkips, SlidingWindow.recent, expired]
      · have fresh : now < skip.2 + Server.skipPeriod := not_le.mp expired
        simp only [SlidingWindow.recent] at induction
        simp only [scanSkips, expired, if_false, induction, SlidingWindow.recent,
          List.takeWhile_cons, fresh, decide_true, if_true, List.countP_cons, decide_eq_true_eq]
        congr 1
        split <;> omega

/-- One call: the state of the rest of the program, the time and the station. -/
structure SkipCall where
  world : World
  server : Server
  session : Nat
  station : Text

namespace SkipCall

def ask (call : SkipCall) : Text × Nat := (call.station, call.world.now)

/-- The call with the skips that earlier ones left behind. -/
def perform (call : SkipCall) (skipHistory : List (Text × Nat)) : List (Text × Nat) × Bool :=
  let called := (call.server.withApp { call.server.app with
    skipHistory := skipHistory }).skipsAreAvailable call.world call.session call.station
  (called.1.app.skipHistory, called.2)

/-- A sequence of calls, each with its answer. -/
def performAll : List (Text × Nat) → List SkipCall → List (SkipCall × Bool)
  | _, [] => []
  | skipHistory, call :: calls =>
      (call, (call.perform skipHistory).2) :: performAll (call.perform skipHistory).1 calls

/-- Whether an earlier call counts as a skip of a station at some time. -/
def usedBy (station : Text) (now : Nat) (answered : SkipCall × Bool) : Bool :=
  answered.2 && decide (answered.1.station = station ∧ now < answered.1.world.now + 3600)

/-- Whether a call was granted for a station in the hour from some time on. -/
def grantedWithin (station : Text) (start : Nat) (answered : SkipCall × Bool) : Bool :=
  answered.2 && decide (answered.1.station = station ∧ start ≤ answered.1.world.now ∧
    answered.1.world.now < start + 3600)

/-- The call by the scan of the list, as the source has it. -/
theorem perform_eq_scan (call : SkipCall) (skipHistory : List (Text × Nat)) :
    call.perform skipHistory =
      let scanned := scanSkips call.world.now call.station skipHistory 0
      if scanned.2 < Server.maxSkips then (call.ask :: scanned.1, true)
      else (scanned.1, false) := by
  simp only [perform, Server.skipsAreAvailable, Server.reply_app, Server.withApp_app, scanSkips_eq,
    SlidingWindow.recent, Nat.zero_add]
  by_cases available :
      (skipHistory.takeWhile fun skip => call.world.now < skip.2 + Server.skipPeriod).countP
        (fun skip => Text.strcmp skip.1 call.station = .eq) < Server.maxSkips
  · simp only [available, decide_true, if_true, ask]
  · simp only [available, decide_false, Bool.false_eq_true, if_false]

private theorem perform_eq_request (call : SkipCall) (skipHistory : List (Text × Nat)) :
    call.perform skipHistory =
      SlidingWindow.request Server.maxSkips Server.skipPeriod skipHistory call.ask := by
  have sameStation (skip : Text × Nat) :
      Text.strcmp skip.1 call.station = .eq ↔ skip.1 = call.station :=
    Std.LawfulEqCmp.compare_eq_iff_eq
  simp only [perform, Server.skipsAreAvailable, Server.reply_app, Server.withApp_app, sameStation,
    SlidingWindow.request, SlidingWindow.recent, ask]
  rfl

private theorem performAll_eq_run (skipHistory : List (Text × Nat)) (calls : List SkipCall) :
    performAll skipHistory calls =
      SlidingWindow.run Server.maxSkips Server.skipPeriod ask skipHistory calls := by
  induction calls generalizing skipHistory with
  | nil => rfl
  | cons call calls induction =>
      simp only [performAll, SlidingWindow.run, perform_eq_request, induction]

/-- The limiter as an exact sliding window, in three parts: a call is granted when fewer than six
earlier ones for its station were granted within the last hour, no hour holds more than six skips
of a station, and the answers for a station are those it would get alone. -/
theorem skipsAreAvailable_window (calls : List SkipCall)
    (ordered : calls.Pairwise fun before after => before.world.now ≤ after.world.now) :
    (∀ earlier call later, calls = earlier ++ call :: later →
      (performAll [] calls)[earlier.length]? = some (call,
        decide ((performAll [] earlier).countP (usedBy call.station call.world.now) < 6))) ∧
    (∀ station start, (performAll [] calls).countP (grantedWithin station start) ≤ 6) ∧
    ∀ station, (performAll [] calls).filter (fun answered => answered.1.station = station) =
      performAll [] (calls.filter fun call => call.station = station) := by
  simp only [performAll_eq_run]
  refine ⟨?_, fun station start => ?_, fun station => ?_⟩
  · rintro earlier call later rfl
    have inOrder : SlidingWindow.InOrder ask (earlier ++ [call]) :=
      ordered.sublist (by simp)
    rw [List.append_cons, SlidingWindow.run_append, SlidingWindow.run_concat,
      SlidingWindow.request_granted inOrder, SlidingWindow.countP_grants,
      List.append_assoc, List.getElem?_append_right (by simp [SlidingWindow.length_run])]
    simp only [SlidingWindow.length_run, Nat.sub_self]
    rfl
  · have within := @SlidingWindow.grants_within_window _ _ _ Server.maxSkips Server.skipPeriod ask
      calls ordered station start
    rw [SlidingWindow.countP_grants] at within
    exact within
  · exact @SlidingWindow.run_filter _ _ _ _ _ ask _ ordered station

/-- Skips of two stations, the second a while after the first. -/
def sampleSkips : List SkipCall :=
  [⟨sampleWorld [], ⟨sampleApplication .standard, []⟩, 0, ascii "r"⟩,
    ⟨{ sampleWorld [] with now := 200 }, ⟨sampleApplication .standard, []⟩, 0, ascii "f"⟩]

theorem skipsAreAvailable_window_sample :
    (∀ earlier call later, sampleSkips = earlier ++ call :: later →
      (performAll [] sampleSkips)[earlier.length]? = some (call,
        decide ((performAll [] earlier).countP (usedBy call.station call.world.now) < 6))) ∧
    (∀ station start, (performAll [] sampleSkips).countP (grantedWithin station start) ≤ 6) ∧
    ∀ station, (performAll [] sampleSkips).filter (fun answered => answered.1.station = station) =
      performAll [] (sampleSkips.filter fun call => call.station = station) :=
  skipsAreAvailable_window sampleSkips (by simp [sampleSkips, sampleWorld])

end SkipCall

end Pianod
