import Mathlib.Data.List.Nodup

/-!
The values of a list, each of them once and in the order in which they first occur.
-/

namespace ParentalCoord

variable {α : Type} [DecidableEq α] {values distinct : List α} {first second : α}

/-- The second list has the values of the first, in the order of their first occurrences. -/
structure FirstOccurrences (values distinct : List α) : Prop where
  mem_iff : ∀ value, value ∈ distinct ↔ value ∈ values
  ordered : distinct.Pairwise fun first second => values.idxOf first < values.idxOf second

theorem FirstOccurrences.nodup (occurrences : FirstOccurrences values distinct) : distinct.Nodup :=
  occurrences.ordered.imp fun before same => absurd (same ▸ before) (Nat.lt_irrefl _)

/-- Two values that are kept stay in their order. -/
theorem idxOf_lt_of_filter {keep : α → Bool} (kept : keep first) (kept' : keep second)
    (before : (values.filter keep).idxOf first < (values.filter keep).idxOf second) :
    values.idxOf first < values.idxOf second := by
  induction values with
  | nil => exact absurd before (Nat.lt_irrefl _)
  | cons value rest ih =>
    rw [List.filter_cons] at before
    by_cases here : keep value
    · rw [if_pos here] at before
      by_cases same : value = second
      · rw [same, List.idxOf_cons_self] at before
        exact absurd before (Nat.not_lt_zero _)
      · by_cases same' : value = first
        · rw [same', List.idxOf_cons_self, List.idxOf_cons_ne _ (same' ▸ same)]
          exact Nat.succ_pos _
        · rw [List.idxOf_cons_ne _ same, List.idxOf_cons_ne _ same'] at before ⊢
          exact Nat.succ_lt_succ (ih (Nat.lt_of_succ_lt_succ before))
    · have apart : value ≠ first := fun same => here (same ▸ kept)
      have apart' : value ≠ second := fun same => here (same ▸ kept')
      rw [if_neg here] at before
      rw [List.idxOf_cons_ne _ apart, List.idxOf_cons_ne _ apart']
      exact Nat.succ_lt_succ (ih before)

theorem firstOccurrences_eraseDups (values : List α) : FirstOccurrences values values.eraseDups := by
  refine ⟨fun value => List.mem_eraseDups, ?_⟩
  induction length : values.length using Nat.strongRecOn generalizing values with
  | ind n ih =>
    cases values with
    | nil => exact .nil
    | cons first rest =>
      have shorter : (rest.filter fun other => !other == first).length < n := by
        have bound := List.length_filter_le (fun other => !other == first) rest
        rw [← length, List.length_cons]
        omega
      have of_tail : ∀ value ∈ (rest.filter fun other => !other == first).eraseDups, value ≠ first := by
        intro value member
        rw [List.mem_eraseDups, List.mem_filter] at member
        simpa using member.2
      rw [List.eraseDups_cons, List.pairwise_cons]
      refine ⟨fun value member => ?_, ?_⟩
      · rw [List.idxOf_cons_self, List.idxOf_cons_ne _ (of_tail value member).symm]
        exact Nat.succ_pos _
      · refine List.Pairwise.imp_of_mem (fun {a b} left right before => ?_) (ih _ shorter _ rfl)
        have apart := of_tail a left
        have apart' := of_tail b right
        rw [List.idxOf_cons_ne _ apart.symm, List.idxOf_cons_ne _ apart'.symm]
        exact Nat.succ_lt_succ (idxOf_lt_of_filter (by simpa using apart) (by simpa using apart') before)

theorem nodup_eraseDups (values : List α) : values.eraseDups.Nodup :=
  (firstOccurrences_eraseDups values).nodup

end ParentalCoord
