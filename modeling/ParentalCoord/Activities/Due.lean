import ParentalCoord.Activities.Discipline

/-!
The rows that are due, as each of those who look for them tells.

The statement of the sweep selects them, the sweep picks the status they go to, a timer of
some kind is for that status, and the map of transitions lets the system go there.
-/

namespace ParentalCoord.Activities

variable {row : ActivityEntity} {now : Instant} {kind : TimerKind} {to_ : ActivityStatus}

/-- A timer of the kind is valid in the status. -/
def Expects (kind : TimerKind) (status : ActivityStatus) : Prop :=
  ∃ sources, expectedSourceFor kind = some sources ∧ status ∈ sources

/-- The timer that waits in the status of a row is for a target and has come. -/
structure Ripe (kind : TimerKind) (row : ActivityEntity) (now : Instant) (to_ : ActivityStatus) : Prop where
  target : targetStatusFor kind = some to_
  come : ∃ instant, timerTarget kind row = some instant ∧ instant ≤ now

/-- All that tell whether a row is due tell the same. -/
structure DueAgrees (row : ActivityEntity) (now : Instant) : Prop where
  selected : dueForTransition now row = true ↔ row.deletedAt = none ∧ dueTargetFor row now ≠ none
  system : ∀ to_, dueTargetFor row now = some to_ →
    ∃ rule, resolveTransition row.status to_ = some rule ∧ .system ∈ rule.actors
  timer : ∀ to_, dueTargetFor row now = some to_ →
    (∃! kind, Expects kind row.status) ∧ ∀ kind, Expects kind row.status → Ripe kind row now to_

theorem dueForTransition_iff :
    dueForTransition now row = true ↔ row.deletedAt = none ∧ dueTargetFor row now ≠ none := by
  unfold dueForTransition dueTargetFor
  cases row.status <;> simp

/-- The kind whose timer waits for the status that a due row leaves. -/
theorem exists_expects (due : dueTargetFor row now = some to_) : ∃ kind, Expects kind row.status := by
  unfold dueTargetFor at due
  cases status : row.status <;> simp [status] at due
  · exact ⟨.responseTimeout, _, rfl, by simp⟩
  · exact ⟨.responseTimeout, _, rfl, by simp⟩
  · exact ⟨.start, _, rfl, by simp⟩
  · exact ⟨.end_, _, rfl, by simp⟩
  · exact ⟨.verifyTimeout, _, rfl, by simp⟩

/-- A timer that is valid in the status of a due row is for the same. -/
theorem Expects.ripe (expects : Expects kind row.status) (due : dueTargetFor row now = some to_) :
    Ripe kind row now to_ := by
  obtain ⟨sources, expected, valid⟩ := expects
  obtain ⟨instant, timed, come⟩ := anchor_of_dueTargetFor due
  refine ⟨?_, instant, (anchor_of_expectedSource expected valid).symm.trans timed, come⟩
  unfold dueTargetFor at due
  cases kind <;> cases expected
  · rcases List.mem_pair.mp valid with status | status <;> simp [status] at due <;> exact congrArg some due.2
  all_goals
    simp [List.mem_singleton.mp valid] at due
    exact congrArg some due.2

/-- **The definitions of a due row agree.** -/
theorem due_agrees (row : ActivityEntity) (now : Instant) : DueAgrees row now where
  selected := dueForTransition_iff
  system to_ due := by
    obtain ⟨rule, resolved, system⟩ := (Option.any_eq_true _ _).mp (systemRule_of_dueTargetFor due)
    exact ⟨rule, resolved, of_decide_eq_true system⟩
  timer to_ due := by
    refine ⟨?_, fun kind expects => expects.ripe due⟩
    obtain ⟨kind, sources, expected, valid⟩ := exists_expects due
    refine ⟨kind, ⟨sources, expected, valid⟩, fun other expects => ?_⟩
    obtain ⟨sources', expected', valid'⟩ := expects
    exact kind_of_source expected' valid' expected valid

end ParentalCoord.Activities
