import Mathlib.Data.List.Perm.Subperm
import ParentalCoord.Store.Pages

/-!
Pages that are asked for one after the other, of rows that come and go.

A row stands where the number of rows before it says.  New rows before it move it to a later
page, where it will still be met; only rows that leave before it could move it to a page that
has been read already.
-/

namespace Store

variable {ρ κ : Type} [LinearOrder κ] {key : ρ → κ} {rows rows' first second answer : List ρ}
  {limit number count : ℕ} {value : κ} {row : ρ}

/-- How many rows come before a key. -/
def rank (key : ρ → κ) (rows : List ρ) (value : κ) : ℕ := rows.countP (value < key ·)

/-- Without equal keys there is one answer. -/
theorem Sorts.unique (sorts : Sorts key rows first) (sorts' : Sorts key rows second)
    (unique : (rows.map key).Nodup) : first = second := by
  refine (sorts.perm.trans sorts'.perm.symm).eq_of_pairwise ?_ sorts.ordered sorts'.ordered
  intro before after there here down up
  exact List.inj_on_of_nodup_map unique (sorts.perm.mem_iff.mp there) (sorts'.perm.mem_iff.mp here)
    (le_antisymm up down)

/-- A row stands after as many as come before its key. -/
theorem getElem?_rank (sorts : Sorts key rows answer) (unique : (rows.map key).Nodup) (member : row ∈ rows) :
    answer[rank key rows (key row)]? = some row := by
  obtain ⟨front, rest, rfl⟩ := List.append_of_mem (sorts.perm.mem_iff.mpr member)
  have distinct := ((sorts.perm.map key).nodup_iff).mpr unique
  rw [List.map_append, List.map_cons, List.nodup_append] at distinct
  obtain ⟨-, ordered, earlier⟩ := List.pairwise_append.mp sorts.ordered
  obtain ⟨later, -⟩ := List.pairwise_cons.mp ordered
  have before : front.countP (key row < key ·) = front.length :=
    List.countP_eq_length.mpr fun other there => decide_eq_true <|
      lt_of_le_of_ne (earlier other there row List.mem_cons_self) fun same =>
        distinct.2.2 _ (List.mem_map_of_mem there) _ List.mem_cons_self same.symm
  have after : (row :: rest).countP (key row < key ·) = 0 := by
    refine List.countP_eq_zero.mpr fun other there => ?_
    rw [decide_eq_true_eq, not_lt]
    rcases List.mem_cons.mp there with rfl | there
    · exact le_rfl
    · exact later other there
  rw [rank, ← sorts.perm.countP_eq, List.countP_append, before, after, Nat.add_zero,
    List.getElem?_append_right le_rfl, Nat.sub_self, List.getElem?_cons_zero]

theorem rank_lt (member : row ∈ rows) : rank key rows (key row) < rows.length := by
  refine lt_of_le_of_ne List.countP_le_length fun all => ?_
  exact absurd (of_decide_eq_true (List.countP_eq_length.mp all row member)) (lt_irrefl _)

/-- A key moves back at most, as long as what comes before it stays. -/
theorem rank_le (unique : (rows.map key).Nodup)
    (ahead : ∀ other ∈ rows.map key, value < other → other ∈ rows'.map key) :
    rank key rows value ≤ rank key rows' value := by
  have counted (rows : List ρ) : rank key rows value = ((rows.map key).filter (value < ·)).length := by
    rw [← List.countP_eq_length_filter, List.countP_map]
    rfl
  rw [counted, counted]
  refine (List.subperm_of_subset (unique.filter _) fun other member => ?_).length_le
  obtain ⟨there, beyond⟩ := List.mem_filter.mp member
  exact List.mem_filter.mpr ⟨ahead other there (of_decide_eq_true beyond), beyond⟩

/-- **No row that stays is missed.**  Each page is read when the rows are others, but those before
the row stay while it does, and the last page reaches the end. -/
theorem exists_page {rows answers : ℕ → List ρ}
    (sorts : ∀ number ≤ count, Sorts key (rows number) (answers number))
    (unique : ∀ number ≤ count, ((rows number).map key).Nodup)
    (there : ∀ number ≤ count, value ∈ (rows number).map key)
    (ahead : ∀ number < count, ∀ other ∈ (rows number).map key, value < other →
      other ∈ (rows (number + 1)).map key)
    (last : (rows count).length ≤ (count + 1) * limit) :
    ∃ number ≤ count, value ∈ (page limit number (answers number)).map key := by
  by_contra missed
  push Not at missed
  -- what has not been met so far stands behind the pages that have been read
  have behind : ∀ number ≤ count, (number + 1) * limit ≤ rank key (rows number) value := by
    intro number within
    have start : number * limit ≤ rank key (rows number) value := by
      induction number with
      | zero => simp
      | succ number ih =>
        have earlier : (number + 1) * limit ≤ rank key (rows number) value := by
          by_contra before
          obtain ⟨row, member, rfl⟩ := List.mem_map.mp (there number (by omega))
          have here := getElem?_rank (sorts number (by omega)) (unique number (by omega)) member
          exact missed number (by omega) (List.mem_map_of_mem
            (mem_page _ here (ih (by omega)) (not_le.mp before)))
        exact earlier.trans (rank_le (unique number (by omega)) (ahead number (by omega)))
    by_contra before
    obtain ⟨row, member, rfl⟩ := List.mem_map.mp (there number within)
    have here := getElem?_rank (sorts number within) (unique number within) member
    exact missed number within (List.mem_map_of_mem (mem_page _ here start (not_le.mp before)))
  obtain ⟨row, member, rfl⟩ := List.mem_map.mp (there count le_rfl)
  have few : rank key (rows count) (key row) < (rows count).length := rank_lt member
  have many := behind count le_rfl
  omega

end Store
