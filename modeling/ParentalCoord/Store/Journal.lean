import Mathlib.Data.List.Basic

/-!
Logs that replay to a state.

`Replays` is the relation between a log and the state it leads to: the first
entry opens a state, and each later entry moves it.  From it follow the facts
that readers of the log count on: where it opens and where it ends, that two
adjacent entries meet in a state, and what a counter in the entries does.
-/

namespace Store

variable {ε σ : Type} {opens : ε → σ → Prop} {moves : ε → σ → σ → Prop}

/-- The log, oldest entry first, leads to the state. -/
inductive Replays (opens : ε → σ → Prop) (moves : ε → σ → σ → Prop) : List ε → σ → Prop where
  | opened {entry : ε} {state : σ} : opens entry state → Replays opens moves [entry] state
  | moved {log : List ε} {entry : ε} {state state' : σ} :
      Replays opens moves log state → moves entry state state' →
      Replays opens moves (log ++ [entry]) state'

variable {log : List ε} {state : σ}

/-- The state an entry left behind. -/
def Leaves (opens : ε → σ → Prop) (moves : ε → σ → σ → Prop) (entry : ε) (state : σ) : Prop :=
  opens entry state ∨ ∃ earlier, moves entry earlier state

namespace Replays

/-- The log begins with an entry that opens a state. -/
theorem head (replays : Replays opens moves log state) :
    ∃ entry opened, log.head? = some entry ∧ opens entry opened := by
  induction replays with
  | opened opening => exact ⟨_, _, rfl, opening⟩
  | moved replays _ ih =>
    obtain ⟨entry, opened, first, opening⟩ := ih
    exact ⟨entry, opened, by rw [List.head?_append, first]; rfl, opening⟩

/-- The last entry left the state behind. -/
theorem last (replays : Replays opens moves log state) :
    ∃ entry, log.getLast? = some entry ∧ Leaves opens moves entry state := by
  cases replays with
  | opened opening => exact ⟨_, rfl, .inl opening⟩
  | moved _ moving => exact ⟨_, by simp, .inr ⟨_, moving⟩⟩

/-- Every entry after the first moved the state the one before it had left. -/
theorem adjacent (replays : Replays opens moves log state) {k : ℕ} {entry next : ε}
    (first : log[k]? = some entry) (second : log[k + 1]? = some next) :
    ∃ between later, Leaves opens moves entry between ∧ moves next between later := by
  induction replays with
  | opened => simp at second
  | @moved log added state state' replays moving ih =>
    rcases Nat.lt_trichotomy (k + 1) log.length with inside | here | beyond
    · rw [List.getElem?_append_left (by omega)] at first
      rw [List.getElem?_append_left inside] at second
      exact ih first second
    · rw [List.getElem?_append_left (by omega)] at first
      rw [here, List.getElem?_concat_length, Option.some.injEq] at second
      subst second
      obtain ⟨final, ends, left⟩ := replays.last
      rw [List.getLast?_eq_getElem?, ← here, Nat.add_sub_cancel, first] at ends
      cases ends
      exact ⟨state, state', left, moving⟩
    · rw [List.getElem?_eq_none (by simp; omega)] at second
      cases second

/-- Every entry opened a state or moved one. -/
theorem of_mem (replays : Replays opens moves log state) {entry : ε} (member : entry ∈ log) :
    (∃ opened, opens entry opened) ∨ ∃ earlier later, moves entry earlier later := by
  induction replays with
  | opened opening =>
    rw [List.mem_singleton] at member
    exact .inl ⟨_, member ▸ opening⟩
  | moved _ moving ih =>
    rcases List.mem_append.mp member with earlier | last
    · exact ih earlier
    · rw [List.mem_singleton] at last
      exact .inr ⟨_, _, last ▸ moving⟩

/-- A counter that starts at one and goes up by one numbers the log. -/
theorem numbered (replays : Replays opens moves log state) {number : ε → ℕ} {count : σ → ℕ}
    (starts : ∀ entry state, opens entry state → number entry = 1 ∧ count state = 1)
    (goes : ∀ entry state state', moves entry state state' →
      number entry = count state + 1 ∧ count state' = count state + 1) :
    log.map number = List.range' 1 (count state) := by
  induction replays with
  | opened opening =>
    obtain ⟨one, starts⟩ := starts _ _ opening
    simp [one, starts]
  | moved _ moving ih =>
    obtain ⟨next, goes⟩ := goes _ _ _ moving
    rw [List.map_append, ih, goes, List.range'_1_concat]
    simp [next, Nat.add_comm]

/-- What every opening establishes and every move keeps holds of the state. -/
theorem invariant (replays : Replays opens moves log state) {inv : σ → Prop}
    (starts : ∀ entry state, opens entry state → inv state)
    (keeps : ∀ entry state state', inv state → moves entry state state' → inv state') :
    inv state := by
  induction replays with
  | opened opening => exact starts _ _ opening
  | moved _ moving ih => exact keeps _ _ _ ih moving

end Replays

end Store
