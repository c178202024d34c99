import Mathlib.Tactic.Common

/-!
# The first matching record

A linked list of records is searched from its head.  Changing the record that a search finds
leaves all others in place.
-/

namespace Foundation

variable {α β : Type*}

/-- Change the first record that matches. -/
def modifyFirst (matches? : α → Bool) (change : α → α) : List α → List α
  | [] => []
  | record :: records =>
      if matches? record then change record :: records
      else record :: modifyFirst matches? change records

/-- A view that the change does not touch is the same before and after. -/
theorem map_modifyFirst {matches? : α → Bool} {change : α → α} {view : α → β} {records : List α}
    (untouched : ∀ record, records.find? matches? = some record →
      view (change record) = view record) :
    (modifyFirst matches? change records).map view = records.map view := by
  induction records with
  | nil => rfl
  | cons record records ih =>
      cases found : matches? record with
      | true => simp [modifyFirst, found, untouched record (by simp [found])]
      | false =>
          simp only [modifyFirst, found, Bool.false_eq_true, if_false, List.map_cons]
          rw [ih fun other later => untouched other (by simp [found, later])]

/-- A record after the change is either an old one or the changed first match. -/
theorem mem_modifyFirst {matches? : α → Bool} {change : α → α} {records : List α} {record : α}
    (member : record ∈ modifyFirst matches? change records) :
    record ∈ records ∨ ∃ found ∈ records, matches? found = true ∧ record = change found := by
  induction records with
  | nil => simp [modifyFirst] at member
  | cons head records ih =>
      cases found : matches? head with
      | true =>
          simp only [modifyFirst, found, if_true, List.mem_cons] at member
          rcases member with rfl | later
          · exact .inr ⟨head, List.mem_cons_self, found, rfl⟩
          · exact .inl (List.mem_cons_of_mem _ later)
      | false =>
          simp only [modifyFirst, found, Bool.false_eq_true, if_false, List.mem_cons] at member
          rcases member with rfl | later
          · exact .inl List.mem_cons_self
          · rcases ih later with old | ⟨other, there, good, same⟩
            · exact .inl (List.mem_cons_of_mem _ old)
            · exact .inr ⟨other, List.mem_cons_of_mem _ there, good, same⟩

/-- A wider search finds the same record unless it stops early at one the narrower passes over. -/
theorem find?_eq_find?_iff {wider narrower : α → Bool}
    (within : ∀ record, narrower record = true → wider record = true) (records : List α) :
    records.find? wider = records.find? narrower ↔
      ∀ earlier record later, records = earlier ++ record :: later → wider record = true →
        narrower record = false → ∃ other ∈ earlier, narrower other = true := by
  constructor
  · intro same earlier record later split wide notNarrow
    obtain ⟨found, first⟩ : ∃ found, (earlier ++ [record]).find? wider = some found :=
      Option.isSome_iff_exists.mp (List.find?_isSome.mpr ⟨record, by simp, wide⟩)
    have foundWide : records.find? wider = some found := by
      rw [split, List.append_cons, List.find?_append, first]
      rfl
    have foundNarrow : narrower found = true := List.find?_some (same ▸ foundWide)
    rcases List.mem_append.mp (List.mem_of_find?_eq_some first) with early | atRecord
    · exact ⟨found, early, foundNarrow⟩
    · obtain rfl := List.mem_singleton.mp atRecord
      simp [notNarrow] at foundNarrow
  · intro preceded
    induction records with
    | nil => rfl
    | cons record records ih =>
        cases narrow : narrower record with
        | true => rw [List.find?_cons_of_pos narrow, List.find?_cons_of_pos (within record narrow)]
        | false =>
            have notWide : wider record = false := by
              by_contra wide
              obtain ⟨other, member, -⟩ :=
                preceded [] record records rfl (by simpa using wide) narrow
              simp at member
            rw [List.find?_cons, List.find?_cons, narrow, notWide]
            apply ih
            intro earlier other later split wide notNarrow
            obtain ⟨matching, member, narrows⟩ :=
              preceded (record :: earlier) other later (by simp [split]) wide notNarrow
            rcases List.mem_cons.mp member with rfl | member
            · simp [narrow] at narrows
            · exact ⟨matching, member, narrows⟩

end Foundation
