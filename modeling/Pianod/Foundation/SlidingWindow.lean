import Mathlib.Data.List.TakeWhile
import Mathlib.Data.List.Induction
import Mathlib.Tactic.Common

/-!
# Sliding windows

A limiter grants at most so many requests for one key within a period.  It keeps one list of grants
for all keys, newest first, and forgets the expired ones whenever it is asked.  Nothing that still
counts is ever forgotten, so its answers are those of a ledger of all grants.
-/

namespace Foundation.SlidingWindow

section Expiry

variable {κ : Type*} (period : Nat)

/-- The grants before the first expired one. -/
def recent (now : Nat) (history : List (κ × Nat)) : List (κ × Nat) :=
  history.takeWhile fun grant => now < grant.2 + period

/-- The history serves every later request as the ledger would. -/
def Agrees (last : Nat) (history ledger : List (κ × Nat)) : Prop :=
  ∀ now, last ≤ now → recent period now history = recent period now ledger

variable {period}

theorem recent_recent {now later : Nat} (ordered : now ≤ later) (history : List (κ × Nat)) :
    recent period later (recent period now history) = recent period later history := by
  induction history with
  | nil => rfl
  | cons grant history induction =>
      simp only [recent, List.takeWhile_cons] at induction ⊢
      by_cases fresh : now < grant.2 + period
      · by_cases stillFresh : later < grant.2 + period <;> simp [fresh, stillFresh, induction]
      · have expired : ¬later < grant.2 + period := by omega
        simp [fresh, expired]

theorem recent_cons_congr {now : Nat} {left right : List (κ × Nat)}
    (same : recent period now left = recent period now right) (grant : κ × Nat) :
    recent period now (grant :: left) = recent period now (grant :: right) := by
  simp only [recent] at same
  simp [recent, List.takeWhile_cons, same]

/-- Of a ledger in order, the grants before the first expired one are all that are not expired. -/
theorem recent_eq_filter {ledger : List (κ × Nat)}
    (newestFirst : ledger.Pairwise fun newer older => older.2 ≤ newer.2) (now : Nat) :
    recent period now ledger = ledger.filter fun grant => now < grant.2 + period := by
  induction ledger with
  | nil => rfl
  | cons grant ledger induction =>
      obtain ⟨older, newestFirst⟩ := List.pairwise_cons.mp newestFirst
      by_cases fresh : now < grant.2 + period
      · simpa [recent, fresh] using induction newestFirst
      · have expired : ledger.filter (fun grant => now < grant.2 + period) = [] := by
          rw [List.filter_eq_nil_iff]
          intro other member
          have := older other member
          simp
          omega
        simp [recent, fresh, expired]

end Expiry

variable {κ ρ : Type*} [DecidableEq κ] (limit period : Nat) (ask : ρ → κ × Nat)

/-- Whether a grant counts for a request. -/
def Counts (key : κ) (now : Nat) (grant : κ × Nat) : Prop := grant.1 = key ∧ now < grant.2 + period

instance (key : κ) (now : Nat) (grant : κ × Nat) : Decidable (Counts period key now grant) :=
  inferInstanceAs (Decidable (_ ∧ _))

/-- Ask for a grant; expired grants are forgotten. -/
def request (history : List (κ × Nat)) (asked : κ × Nat) : List (κ × Nat) × Bool :=
  let kept := recent period asked.2 history
  let available := decide (kept.countP (fun grant => grant.1 = asked.1) < limit)
  (if available then asked :: kept else kept, available)

/-- The history after some requests. -/
def historyAfter (history : List (κ × Nat)) (requests : List ρ) : List (κ × Nat) :=
  requests.foldl (fun history asking => (request limit period history (ask asking)).1) history

/-- The requests with their answers. -/
def run : List (κ × Nat) → List ρ → List (ρ × Bool)
  | _, [] => []
  | history, asking :: requests =>
      (asking, (request limit period history (ask asking)).2) ::
        run (request limit period history (ask asking)).1 requests

/-- What was granted, oldest first. -/
def grants (answered : List (ρ × Bool)) : List (κ × Nat) :=
  (answered.filter Prod.snd).map fun answer => ask answer.1

/-- The times of some requests do not decrease. -/
def InOrder (requests : List ρ) : Prop :=
  requests.Pairwise fun before after => (ask before).2 ≤ (ask after).2

omit [DecidableEq κ] in
theorem grants_append (left right : List (ρ × Bool)) :
    grants ask (left ++ right) = grants ask left ++ grants ask right := by
  simp [grants]

omit [DecidableEq κ] in
theorem countP_grants (answered : List (ρ × Bool)) (test : κ × Nat → Bool) :
    (grants ask answered).countP test =
      answered.countP fun answer => answer.2 && test (ask answer.1) := by
  rw [grants, List.countP_map, List.countP_filter]
  apply List.countP_congr
  simp [and_comm]

theorem run_append (history : List (κ × Nat)) (earlier later : List ρ) :
    run limit period ask history (earlier ++ later) =
      run limit period ask history earlier ++
        run limit period ask (historyAfter limit period ask history earlier) later := by
  induction earlier generalizing history with
  | nil => rfl
  | cons asking earlier induction => simp [run, historyAfter, induction]

/-- The last request and its answer. -/
theorem run_concat (history : List (κ × Nat)) (earlier : List ρ) (asking : ρ) :
    run limit period ask history (earlier ++ [asking]) = run limit period ask history earlier ++
      [(asking,
        (request limit period (historyAfter limit period ask history earlier)
          (ask asking)).2)] := by
  rw [run_append]
  rfl

theorem historyAfter_concat (history : List (κ × Nat)) (earlier : List ρ) (asking : ρ) :
    historyAfter limit period ask history (earlier ++ [asking]) =
      (request limit period (historyAfter limit period ask history earlier) (ask asking)).1 := by
  simp [historyAfter]

theorem map_fst_run (history : List (κ × Nat)) (requests : List ρ) :
    (run limit period ask history requests).map Prod.fst = requests := by
  induction requests generalizing history with
  | nil => rfl
  | cons asking requests induction => simp [run, induction]

theorem length_run (history : List (κ × Nat)) (requests : List ρ) :
    (run limit period ask history requests).length = requests.length := by
  rw [← @List.length_map _ _ (run limit period ask history requests) Prod.fst, map_fst_run]

theorem grants_sublist (history : List (κ × Nat)) (requests : List ρ) :
    (grants ask (run limit period ask history requests)).Sublist (requests.map ask) := by
  have all : (grants ask (run limit period ask history requests)).Sublist
      ((run limit period ask history requests).map (ask ∘ Prod.fst)) := List.filter_sublist.map _
  rwa [← List.map_map, map_fst_run] at all

/-! ## The ledger of all grants -/

variable {limit period ask}

theorem countP_recent {ledger : List (κ × Nat)}
    (newestFirst : ledger.Pairwise fun newer older => older.2 ≤ newer.2) (key : κ) (now : Nat) :
    (recent period now ledger).countP (fun grant => grant.1 = key) =
      ledger.countP (fun grant => Counts period key now grant) := by
  rw [recent_eq_filter newestFirst, List.countP_filter]
  apply List.countP_congr
  intro grant _
  simp only [Bool.and_eq_true, decide_eq_true_eq]
  exact Iff.rfl

/-- A request is answered from the ledger, and the two go on agreeing. -/
theorem request_agrees {asked : κ × Nat} {history ledger : List (κ × Nat)}
    (agrees : Agrees period asked.2 history ledger)
    (newestFirst : ledger.Pairwise fun newer older => older.2 ≤ newer.2) :
    (request limit period history asked).2 =
        decide (ledger.countP (fun grant => Counts period asked.1 asked.2 grant) < limit) ∧
      Agrees period asked.2 (request limit period history asked).1
        (if (request limit period history asked).2 then asked :: ledger else ledger) := by
  have kept := agrees asked.2 le_rfl
  have pruned (later : Nat) (after : asked.2 ≤ later) :
      recent period later (recent period asked.2 history) = recent period later ledger := by
    rw [kept, recent_recent after]
  refine ⟨by simp only [request, kept, countP_recent newestFirst], fun later after => ?_⟩
  simp only [request]
  by_cases available :
      (recent period asked.2 history).countP (fun grant => grant.1 = asked.1) < limit
  · simpa [available] using recent_cons_congr (pruned later after) asked
  · simpa [available] using pruned later after

/-- The ledger of a run, newest first. -/
theorem ledger_newestFirst {requests : List ρ} (ordered : InOrder ask requests) :
    (grants ask (run limit period ask [] requests)).reverse.Pairwise fun newer older =>
      older.2 ≤ newer.2 := by
  have asked : (requests.map ask).Pairwise fun before after => before.2 ≤ after.2 :=
    List.pairwise_map.mpr ordered
  exact List.pairwise_reverse.mpr (asked.sublist (grants_sublist limit period ask [] requests))

/-- The history of a run agrees with the ledger from the last request on. -/
theorem historyAfter_agrees {requests : List ρ} (ordered : InOrder ask requests) {now : Nat}
    (past : ∀ asking ∈ requests, (ask asking).2 ≤ now) :
    Agrees period now (historyAfter limit period ask [] requests)
      (grants ask (run limit period ask [] requests)).reverse := by
  induction requests using List.reverseRecOn generalizing now with
  | nil => exact fun _ _ => rfl
  | append_singleton requests asking induction =>
      obtain ⟨ordered, -, before⟩ := List.pairwise_append.mp ordered
      have earlier := induction ordered fun other member => before other member asking (by simp)
      have last : (ask asking).2 ≤ now := past asking (by simp)
      have agrees := (@request_agrees _ _ limit _ _ _ _ earlier (ledger_newestFirst ordered)).2
      intro later after
      rw [historyAfter_concat, run_concat, grants_append, agrees later (last.trans after)]
      congr 1
      cases (request limit period (historyAfter limit period ask [] requests) (ask asking)).2 <;>
        simp [grants]

/-- A request is granted exactly when fewer than `limit` earlier ones for its key were granted
within the period before it. -/
theorem request_granted {earlier : List ρ} {asking : ρ}
    (ordered : InOrder ask (earlier ++ [asking])) :
    (request limit period (historyAfter limit period ask [] earlier) (ask asking)).2 =
      decide ((grants ask (run limit period ask [] earlier)).countP
        (fun grant => Counts period (ask asking).1 (ask asking).2 grant) < limit) := by
  obtain ⟨ordered, -, before⟩ := List.pairwise_append.mp ordered
  have agrees := @historyAfter_agrees _ _ _ limit period ask _ ordered _
    fun other member => before other member asking (by simp)
  rw [(request_agrees agrees (ledger_newestFirst ordered)).1, List.countP_reverse]

/-- No window of the period's length holds more than `limit` grants for one key. -/
theorem grants_within_window {requests : List ρ} (ordered : InOrder ask requests) (key : κ)
    (start : Nat) :
    (grants ask (run limit period ask [] requests)).countP
      (fun grant => grant.1 = key ∧ start ≤ grant.2 ∧ grant.2 < start + period) ≤ limit := by
  induction requests using List.reverseRecOn with
  | nil => simp [run, grants]
  | append_singleton requests asking induction =>
      have answer := @request_granted _ _ _ limit period ask _ _ ordered
      have earlier := induction (List.pairwise_append.mp ordered).1
      rw [run_concat, grants_append, List.countP_append, answer]
      by_cases granted : (grants ask (run limit period ask [] requests)).countP
          (fun grant => Counts period (ask asking).1 (ask asking).2 grant) < limit
      · by_cases inside : (ask asking).1 = key ∧ start ≤ (ask asking).2 ∧
            (ask asking).2 < start + period
        · -- What lies in the window still counts for the new request.
          have counted : (grants ask (run limit period ask [] requests)).countP
              (fun grant => grant.1 = key ∧ start ≤ grant.2 ∧ grant.2 < start + period) ≤
              (grants ask (run limit period ask [] requests)).countP
                (fun grant => Counts period (ask asking).1 (ask asking).2 grant) := by
            apply List.countP_mono_left
            intro grant _
            simp only [decide_eq_true_eq]
            rintro ⟨same, after, -⟩
            exact ⟨same.trans inside.1.symm, by omega⟩
          have one : (grants ask [(asking, true)]).countP
              (fun grant => grant.1 = key ∧ start ≤ grant.2 ∧ grant.2 < start + period) ≤ 1 :=
            List.countP_le_length
          rw [decide_eq_true granted]
          omega
        · have none : (grants ask [(asking, true)]).countP
              (fun grant => grant.1 = key ∧ start ≤ grant.2 ∧ grant.2 < start + period) = 0 := by
            rw [grants, List.countP_eq_zero]
            simpa using inside
          rw [decide_eq_true granted, none]
          exact earlier
      · rw [decide_eq_false granted]
        exact earlier

theorem grants_filter (answered : List (ρ × Bool)) (key : κ) :
    grants ask (answered.filter fun answer => (ask answer.1).1 = key) =
      (grants ask answered).filter fun grant => grant.1 = key := by
  simp [grants, List.filter_map, List.filter_filter, Function.comp_def, Bool.and_comm]

theorem countP_filter_key (ledger : List (κ × Nat)) (key : κ) (now : Nat) :
    (ledger.filter fun grant => grant.1 = key).countP (fun grant => Counts period key now grant) =
      ledger.countP (fun grant => Counts period key now grant) := by
  rw [List.countP_filter]
  apply List.countP_congr
  intro grant _
  simp only [Bool.and_eq_true, decide_eq_true_eq, and_iff_left_iff_imp]
  exact And.left

/-- The requests for one key are answered as if there were no others. -/
theorem run_filter {requests : List ρ} (ordered : InOrder ask requests) (key : κ) :
    (run limit period ask [] requests).filter (fun answer => (ask answer.1).1 = key) =
      run limit period ask [] (requests.filter fun asking => (ask asking).1 = key) := by
  induction requests using List.reverseRecOn with
  | nil => rfl
  | append_singleton requests asking induction =>
      have earlier := induction (List.pairwise_append.mp ordered).1
      rw [run_concat, List.filter_append, earlier, List.filter_append]
      by_cases same : (ask asking).1 = key
      · have ordered' : InOrder ask
            (requests.filter (fun asking => (ask asking).1 = key) ++ [asking]) :=
          ordered.sublist (List.filter_sublist.append (List.Sublist.refl _))
        have asked : [asking].filter (fun asking => (ask asking).1 = key) = [asking] := by
          simp [same]
        rw [asked, run_concat, request_granted ordered, request_granted ordered', ← earlier,
          grants_filter, same, countP_filter_key]
        simp [same]
      · simp [same]

end Foundation.SlidingWindow
