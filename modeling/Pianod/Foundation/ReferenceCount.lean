import Mathlib.Data.Multiset.AddSub
import Mathlib.Data.Set.Insert

/-!
# Reference counts

Blocks carry the number of references to them.  A block that loses its last reference goes onto a
free list, from where it may be taken again.  The references are a multiset, so that each rule
below names only the one reference its operation adds or drops and carries all others along.
-/

namespace Foundation

variable {α : Type*} [DecidableEq α]

/-- Each use count is the number of references, and the free list holds exactly the blocks without
one, each of them once. -/
structure Accounted (usecount : α → ℕ) (allocated : Set α) (free : List α)
    (references : Multiset α) : Prop where
  counted : ∀ block, usecount block = references.count block
  within : ∀ block ∈ references, block ∈ allocated
  once : free.Nodup
  idle : ∀ block, block ∈ free ↔ block ∈ allocated ∧ block ∉ references

namespace Accounted

variable {usecount : α → ℕ} {allocated : Set α} {free : List α} {references : Multiset α}
  {block : α}

/-- Nothing is allocated and nothing refers to anything. -/
theorem empty : Accounted (fun _ : α => 0) ∅ [] 0 where
  counted := fun _ => (Multiset.count_zero _).symm
  within := fun _ member => absurd member (Multiset.notMem_zero _)
  once := List.nodup_nil
  idle := fun _ => by simp

/-- A block that is referred to is not on the free list. -/
theorem notMem_free (accounted : Accounted usecount allocated free references)
    (member : block ∈ references) : block ∉ free :=
  fun idle => ((accounted.idle block).mp idle).2 member

/-- The count of a block changes with the references to it. -/
theorem update_counted {count : ℕ} {others : Multiset α}
    (accounted : Accounted usecount allocated free references)
    (here : count = others.count block)
    (elsewhere : ∀ other, other ≠ block → references.count other = others.count other)
    (other : α) : Function.update usecount block count other = others.count other := by
  by_cases same : other = block
  · rw [same, Function.update_self, here]
  · rw [Function.update_of_ne same, accounted.counted, elsewhere other same]

/-- A new block starts with one reference. -/
theorem fresh (accounted : Accounted usecount allocated free references)
    (new : block ∉ allocated) :
    Accounted (Function.update usecount block 1) (insert block allocated) free
      (block ::ₘ references) := by
  have unused : block ∉ references := fun member => new (accounted.within block member)
  refine ⟨accounted.update_counted ?_ ?_, ?_, accounted.once, ?_⟩
  · rw [Multiset.count_cons_self, Multiset.count_eq_zero_of_notMem unused]
  · exact fun other different => (Multiset.count_cons_of_ne different references).symm
  · intro other member
    rcases Multiset.mem_cons.mp member with same | old
    · exact Or.inl same
    · exact Or.inr (accounted.within other old)
  · intro other
    rw [accounted.idle, Multiset.mem_cons, Set.mem_insert_iff]
    constructor
    · rintro ⟨held, absent⟩
      have different : other ≠ block := fun same => new (same ▸ held)
      exact ⟨Or.inr held, not_or.mpr ⟨different, absent⟩⟩
    · rintro ⟨held, absent⟩
      obtain ⟨different, none⟩ := not_or.mp absent
      exact ⟨held.resolve_left different, none⟩

/-- A block taken off the free list starts with one reference. -/
theorem reuse (accounted : Accounted usecount allocated (block :: free) references) :
    Accounted (Function.update usecount block 1) allocated free (block ::ₘ references) := by
  obtain ⟨held, unused⟩ := (accounted.idle block).mp List.mem_cons_self
  obtain ⟨alone, once⟩ := List.nodup_cons.mp accounted.once
  refine ⟨accounted.update_counted ?_ ?_, ?_, once, ?_⟩
  · rw [Multiset.count_cons_self, Multiset.count_eq_zero_of_notMem unused]
  · exact fun other different => (Multiset.count_cons_of_ne different references).symm
  · intro other member
    rcases Multiset.mem_cons.mp member with same | old
    · exact same ▸ held
    · exact accounted.within other old
  · intro other
    have before := accounted.idle other
    rw [List.mem_cons] at before
    rw [Multiset.mem_cons]
    constructor
    · intro member
      have different : other ≠ block := fun same => alone (same ▸ member)
      obtain ⟨inside, absent⟩ := before.mp (Or.inr member)
      exact ⟨inside, not_or.mpr ⟨different, absent⟩⟩
    · rintro ⟨inside, absent⟩
      obtain ⟨different, none⟩ := not_or.mp absent
      exact (before.mpr ⟨inside, none⟩).resolve_left different

/-- One more reference to a block that is referred to already. -/
theorem retain (accounted : Accounted usecount allocated free references)
    (member : block ∈ references) :
    Accounted (Function.update usecount block (usecount block + 1)) allocated free
      (block ::ₘ references) := by
  refine ⟨accounted.update_counted ?_ ?_, ?_, accounted.once, ?_⟩
  · rw [Multiset.count_cons_self, accounted.counted]
  · exact fun other different => (Multiset.count_cons_of_ne different references).symm
  · intro other held
    rcases Multiset.mem_cons.mp held with same | old
    · exact same ▸ accounted.within block member
    · exact accounted.within other old
  · intro other
    rw [accounted.idle, Multiset.mem_cons]
    constructor
    · rintro ⟨inside, absent⟩
      have different : other ≠ block := fun same => absent (same ▸ member)
      exact ⟨inside, not_or.mpr ⟨different, absent⟩⟩
    · exact fun ⟨inside, absent⟩ => ⟨inside, (not_or.mp absent).2⟩

/-- A block has a positive count as long as a reference to it is left. -/
theorem usecount_cons (accounted : Accounted usecount allocated free (block ::ₘ references)) :
    usecount block = references.count block + 1 := by
  rw [accounted.counted, Multiset.count_cons_self]

/-- Dropping a reference that is not the last one. -/
theorem drop (accounted : Accounted usecount allocated free (block ::ₘ references))
    (more : block ∈ references) :
    Accounted (Function.update usecount block (usecount block - 1)) allocated free
      references := by
  refine ⟨accounted.update_counted ?_ ?_, ?_, accounted.once, ?_⟩
  · rw [accounted.usecount_cons, Nat.add_sub_cancel]
  · exact fun other different => Multiset.count_cons_of_ne different references
  · exact fun other member => accounted.within other (Multiset.mem_cons_of_mem member)
  · intro other
    rw [accounted.idle, Multiset.mem_cons]
    constructor
    · exact fun ⟨inside, absent⟩ => ⟨inside, (not_or.mp absent).2⟩
    · rintro ⟨inside, absent⟩
      have different : other ≠ block := fun same => absent (same ▸ more)
      exact ⟨inside, not_or.mpr ⟨different, absent⟩⟩

/-- Dropping the last reference sends the block to the free list. -/
theorem release (accounted : Accounted usecount allocated free (block ::ₘ references))
    (last : block ∉ references) :
    Accounted (Function.update usecount block 0) allocated (block :: free) references := by
  have held := accounted.within block (Multiset.mem_cons_self block references)
  have busy := accounted.notMem_free (Multiset.mem_cons_self block references)
  refine ⟨accounted.update_counted ?_ ?_, ?_, List.nodup_cons.mpr ⟨busy, accounted.once⟩, ?_⟩
  · rw [Multiset.count_eq_zero_of_notMem last]
  · exact fun other different => Multiset.count_cons_of_ne different references
  · exact fun other member => accounted.within other (Multiset.mem_cons_of_mem member)
  · intro other
    rw [List.mem_cons, accounted.idle, Multiset.mem_cons]
    constructor
    · rintro (same | ⟨inside, absent⟩)
      · exact same ▸ ⟨held, last⟩
      · exact ⟨inside, (not_or.mp absent).2⟩
    · rintro ⟨inside, absent⟩
      by_cases same : other = block
      · exact Or.inl same
      · exact Or.inr ⟨inside, not_or.mpr ⟨same, absent⟩⟩

/-- Only one multiset of references agrees with given use counts. -/
theorem references_unique {others : Multiset α}
    (accounted : Accounted usecount allocated free references)
    (also : Accounted usecount allocated free others) : references = others :=
  Multiset.ext' fun block => (accounted.counted block).symm.trans (also.counted block)

end Accounted

end Foundation
