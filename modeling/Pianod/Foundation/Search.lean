import Mathlib.Tactic.Common

/-!
# Binary search

The C library's `bsearch` halves an interval under a three-way comparison.  On a list that the
comparison has sorted it finds exactly the elements that compare equal to the key.
-/

namespace Foundation

variable {α : Type*}

/-- Halve the interval `[lower, upper)` towards an index where the key compares equal. -/
def searchBetween (probe : Nat → Ordering) : Nat → Nat → Nat → Option Nat
  | 0, _, _ => none
  | fuel + 1, lower, upper =>
      if lower < upper then
        let middle := (lower + upper) / 2
        match probe middle with
        | .lt => searchBetween probe fuel lower middle
        | .gt => searchBetween probe fuel (middle + 1) upper
        | .eq => some middle
      else
        none

/-- The comparison of the key with the element at an index; nothing is read past the end. -/
def probeAt (compareKey : α → Ordering) (items : List α) (index : Nat) : Ordering :=
  match items[index]? with
  | some item => compareKey item
  | none => .lt

/-- The C library's `bsearch`, returning the index of a matching element. -/
def bsearch (compareKey : α → Ordering) (items : List α) : Option Nat :=
  searchBetween (probeAt compareKey items) items.length 0 items.length

/-- The key compares against the items as against an ascending sequence: larger than the items
before a boundary, equal in the middle, smaller afterwards. -/
def Ascending (compareKey : α → Ordering) (items : List α) : Prop :=
  items.Pairwise fun before after =>
    (compareKey before = .lt → compareKey after = .lt) ∧
      (compareKey after = .gt → compareKey before = .gt)

theorem searchBetween_some {probe : Nat → Ordering} {fuel lower upper index : Nat}
    (found : searchBetween probe fuel lower upper = some index) :
    index < upper ∧ probe index = .eq := by
  induction fuel generalizing lower upper with
  | zero => simp [searchBetween] at found
  | succ fuel ih =>
      simp only [searchBetween] at found
      split at found
      · split at found
        · have inner := ih found
          exact ⟨by omega, inner.2⟩
        · exact ih found
        · rename_i nonempty equal
          obtain rfl : (lower + upper) / 2 = index := by simpa using found
          exact ⟨by omega, equal⟩
      · simp at found

/-- A failed search leaves no equal index in its interval, provided the probe is monotone. -/
theorem searchBetween_none {probe : Nat → Ordering} {fuel lower upper : Nat}
    (enough : upper ≤ lower + fuel)
    (descends : ∀ i j, i < j → j < upper → probe i = .lt → probe j = .lt)
    (ascends : ∀ i j, i < j → j < upper → probe j = .gt → probe i = .gt)
    (missed : searchBetween probe fuel lower upper = none) :
    ∀ index, lower ≤ index → index < upper → probe index ≠ .eq := by
  induction fuel generalizing lower upper with
  | zero => intro index after before; omega
  | succ fuel ih =>
      intro index after before equal
      have nonempty : lower < upper := by omega
      simp only [searchBetween, nonempty, if_true] at missed
      split at missed
      · rename_i below
        -- The key is below the middle, so an equal index lies to its left.
        rcases Nat.lt_or_ge index ((lower + upper) / 2) with left | right
        · exact ih (by omega) (fun i j less bound => descends i j less (by omega))
            (fun i j less bound => ascends i j less (by omega)) missed index after left equal
        · rcases Nat.eq_or_lt_of_le right with same | past
          · rw [← same, below] at equal
            cases equal
          · rw [descends _ _ past before below] at equal
            cases equal
      · rename_i above
        rcases Nat.lt_or_ge index ((lower + upper) / 2 + 1) with left | right
        · rcases Nat.eq_or_lt_of_le (Nat.le_of_lt_succ left) with same | before'
          · rw [same, above] at equal
            cases equal
          · rw [ascends _ _ before' (by omega) above] at equal
            cases equal
        · exact ih (by omega) descends ascends missed index right before equal
      · simp at missed

/-- A match reported by the search is an element that compares equal to the key. -/
theorem bsearch_some {compareKey : α → Ordering} {items : List α} {index : Nat}
    (found : bsearch compareKey items = some index) :
    ∃ item, items[index]? = some item ∧ compareKey item = .eq := by
  obtain ⟨bound, equal⟩ := searchBetween_some found
  refine ⟨items[index], List.getElem?_eq_getElem bound, ?_⟩
  simpa [probeAt, List.getElem?_eq_getElem bound] using equal

/-- On an ascending list a failed search means that no element compares equal. -/
theorem bsearch_none {compareKey : α → Ordering} {items : List α}
    (sorted : Ascending compareKey items) (missed : bsearch compareKey items = none) :
    ∀ item ∈ items, compareKey item ≠ .eq := by
  intro item member equal
  obtain ⟨index, bound, rfl⟩ := List.getElem_of_mem member
  rw [Ascending, List.pairwise_iff_getElem] at sorted
  have probe_eq (i : Nat) (h : i < items.length) :
      probeAt compareKey items i = compareKey items[i] := by
    simp [probeAt, List.getElem?_eq_getElem h]
  refine searchBetween_none (by omega) ?_ ?_ missed index (by omega) bound
    (by rw [probe_eq index bound, equal])
  · intro i j less limit below
    have first : i < items.length := by omega
    rw [probe_eq i first] at below
    rw [probe_eq j limit]
    exact (sorted i j first limit less).1 below
  · intro i j less limit above
    have first : i < items.length := by omega
    rw [probe_eq j limit] at above
    rw [probe_eq i first]
    exact (sorted i j first limit less).2 above

/-- A list sorted by a transitive comparison is ascending for every key. -/
theorem Ascending.of_sorted {cmp : α → α → Ordering} [Std.TransCmp cmp] {items : List α}
    (sorted : items.Pairwise fun before after => cmp before after = .lt) (key : α) :
    Ascending (cmp key) items := by
  refine sorted.imp ?_
  intro before after less
  constructor
  · intro below
    exact Std.TransCmp.lt_trans below less
  · intro above
    rw [Std.OrientedCmp.gt_iff_lt] at above ⊢
    exact Std.TransCmp.lt_trans less above

end Foundation
