import Mathlib.Algebra.BigOperators.Group.List.Basic
import Mathlib.Data.List.Dedup
import ParentalCoord.Store.Entries

/-!
Grouping rows by a key, and a map that is filled key by key.

The entry of a key is made of an initial value the first time the key is met.
-/

namespace Store

variable {κ ρ β : Type} [DecidableEq κ]

/-- The groups of the rows by a key, one for each key there is. -/
def groupBy (key : ρ → κ) (rows : List ρ) : List (κ × List ρ) :=
  (rows.map key).dedup.map fun k => (k, rows.filter fun row => key row = k)

theorem keys_groupBy (key : ρ → κ) (rows : List ρ) :
    (groupBy key rows).map (·.1) = (rows.map key).dedup := by
  simp [groupBy, Function.comp_def]

theorem mem_groupBy {key : ρ → κ} {rows : List ρ} {k : κ} {group : List ρ} :
    (k, group) ∈ groupBy key rows ↔
      k ∈ rows.map key ∧ group = rows.filter fun row => key row = k := by
  simp only [groupBy, List.mem_map, List.mem_dedup, Prod.mk.injEq]
  constructor
  · rintro ⟨k', there, rfl, rfl⟩
    exact ⟨there, rfl⟩
  · rintro ⟨there, rfl⟩
    exact ⟨k, there, rfl, rfl⟩

theorem lookup_groupBy (key : ρ → κ) (rows : List ρ) (k : κ) :
    (groupBy key rows).lookup k =
      if k ∈ rows.map key then some (rows.filter fun row => key row = k) else none := by
  have listed : ∀ keys : List κ,
      (keys.map fun k => (k, rows.filter fun row => key row = k)).lookup k =
        if k ∈ keys then some (rows.filter fun row => key row = k) else none := by
    intro keys
    induction keys with
    | nil => rfl
    | cons first rest ih =>
      by_cases asked : k = first
      · simp [asked]
      · simp [lookup_cons_of_ne asked, asked, ih]
  rw [groupBy, listed]
  simp only [List.mem_dedup]

/-- A group alone is what is left of the groups by a test that only its key meets. -/
theorem filter_groupBy {key : ρ → κ} {rows : List ρ} {k : κ} (there : k ∈ rows.map key)
    (keep : κ → Bool) (only : ∀ row ∈ rows, keep (key row) = decide (key row = k)) :
    (groupBy key rows).filter (fun group => keep group.1) =
      [(k, rows.filter fun row => key row = k)] := by
  have kept : (rows.map key).dedup.filter keep = [k] := by
    have once : (rows.map key).dedup.count k = 1 :=
      List.count_eq_one_of_mem (List.nodup_dedup _) (List.mem_dedup.mpr there)
    calc (rows.map key).dedup.filter keep
        = (rows.map key).dedup.filter (· == k) := by
          refine List.filter_congr fun name member => ?_
          obtain ⟨row, listed, rfl⟩ := List.mem_map.mp (List.mem_dedup.mp member)
          exact only row listed
      _ = [k] := by
          rw [List.filter_beq, once]
          rfl
  rw [groupBy, List.filter_map]
  exact congrArg (List.map _) kept

/-- A test of what the rows come from. -/
theorem filter_flatMap {α : Type} {f : α → List ρ} {keep : ρ → Bool} {source : α → Bool}
    (inherited : ∀ a, ∀ row ∈ f a, keep row = source a) (rows : List α) :
    (rows.flatMap f).filter keep = (rows.filter source).flatMap f := by
  induction rows with
  | nil => rfl
  | cons a rest ih =>
    rw [List.flatMap_cons, List.filter_append, ih]
    by_cases kept : source a
    · have whole : (f a).filter keep = f a :=
        List.filter_eq_self.mpr fun row member => (inherited a row member).trans kept
      rw [whole, List.filter_cons_of_pos kept, List.flatMap_cons]
    · have nothing : (f a).filter keep = [] :=
        List.filter_eq_nil_iff.mpr fun row member => by rw [inherited a row member]; exact kept
      rw [nothing, List.filter_cons_of_neg kept, List.nil_append]

/-- The rows of two tests that no row meets both of. -/
theorem length_filter_or {first second whole : ρ → Bool} {rows : List ρ}
    (either : ∀ row ∈ rows, whole row = (first row || second row))
    (apart : ∀ row ∈ rows, ¬(first row ∧ second row)) :
    (rows.filter whole).length = (rows.filter first).length + (rows.filter second).length := by
  induction rows with
  | nil => rfl
  | cons row rest ih =>
    have counted := ih (fun row member => either row (List.mem_cons_of_mem _ member))
      (fun row member => apart row (List.mem_cons_of_mem _ member))
    have here := either row List.mem_cons_self
    have alone := apart row List.mem_cons_self
    simp only [List.filter_cons, here, Bool.or_eq_true]
    by_cases one : first row <;> by_cases two : second row
    · exact absurd ⟨one, two⟩ alone
    · simp only [one, two, true_or, if_true, List.length_cons, Bool.false_eq_true, if_false, counted]
      omega
    · simp only [one, two, or_true, if_true, List.length_cons, Bool.false_eq_true, if_false, counted]
      omega
    · simp only [one, two, or_self, Bool.false_eq_true, if_false, counted]

/-! ## Filling a map from rows -/

/-- Changes the entry of each row's key, one row after the other. -/
def tally (key : ρ → κ) (initial : κ → β) (change : ρ → β → β) (rows : List ρ)
    (entries : List (κ × β)) : List (κ × β) :=
  rows.foldl (fun entries row => alter (key row) (initial (key row)) (change row) entries) entries

section Tally

variable {key : ρ → κ} {initial : κ → β} {change : ρ → β → β}

theorem nodup_tally (rows : List ρ) {entries : List (κ × β)}
    (distinct : (entries.map (·.1)).Nodup) :
    ((tally key initial change rows entries).map (·.1)).Nodup := by
  induction rows generalizing entries with
  | nil => exact distinct
  | cons row rest ih => exact ih (nodup_alter _ _ _ distinct)

theorem nodup_tally_nil (rows : List ρ) :
    ((tally key initial change rows []).map (·.1)).Nodup :=
  nodup_tally rows List.nodup_nil

/-- The entry of a key is what the rows of that key make of it. -/
theorem lookup_tally (k : κ) (rows : List ρ) (entries : List (κ × β)) :
    (tally key initial change rows entries).lookup k =
      if rows.filter (fun row => key row = k) = [] then entries.lookup k
      else some ((rows.filter fun row => key row = k).foldl (fun value row => change row value)
        ((entries.lookup k).getD (initial k))) := by
  induction rows generalizing entries with
  | nil => rfl
  | cons row rest ih =>
    rw [tally, List.foldl_cons, ← tally, ih, lookup_alter]
    by_cases own : key row = k
    · subst own
      simp only [if_true, List.filter_cons_of_pos, decide_true, reduceCtorEq, if_false,
        List.foldl_cons, Option.getD_some]
      split
      · rename_i last
        rw [last, List.foldl_nil]
      · rfl
    · have apart : ¬k = key row := Ne.symm own
      rw [List.filter_cons_of_neg (by simpa using own), if_neg apart]

/-- What an alteration adds to a measure of the entries. -/
theorem sum_alter {M : Type} [AddCommMonoid M] (measure : κ × β → M) {k : κ} {first : β}
    {f : β → β} {weight : M} (blank : measure (k, first) = 0)
    (adds : ∀ value, measure (k, f value) = measure (k, value) + weight)
    (entries : List (κ × β)) :
    ((alter k first f entries).map measure).sum = (entries.map measure).sum + weight := by
  induction entries with
  | nil => simp [alter, adds, blank]
  | cons entry rest ih =>
    obtain ⟨name, value⟩ := entry
    by_cases here : name = k
    · subst here
      rw [alter, if_pos rfl, List.map_cons, List.sum_cons, adds, List.map_cons, List.sum_cons,
        add_right_comm]
    · rw [alter, if_neg here, List.map_cons, List.sum_cons, ih, List.map_cons, List.sum_cons,
        add_assoc]

/-- The entries hold what the rows weigh. -/
theorem sum_tally {M : Type} [AddCommMonoid M] (measure : κ × β → M) (weight : ρ → M)
    (blank : ∀ k, measure (k, initial k) = 0)
    (adds : ∀ row value, measure (key row, change row value) =
      measure (key row, value) + weight row)
    (rows : List ρ) (entries : List (κ × β)) :
    ((tally key initial change rows entries).map measure).sum =
      (entries.map measure).sum + (rows.map weight).sum := by
  induction rows generalizing entries with
  | nil => simp [tally]
  | cons row rest ih =>
    rw [tally, List.foldl_cons, ← tally, ih, sum_alter measure (blank _) (adds row),
      List.map_cons, List.sum_cons, add_assoc]

theorem sum_tally_nil {M : Type} [AddCommMonoid M] {measure : κ × β → M} {weight : ρ → M}
    {rows : List ρ} (blank : ∀ k, measure (k, initial k) = 0)
    (adds : ∀ row value, measure (key row, change row value) =
      measure (key row, value) + weight row) :
    ((tally key initial change rows []).map measure).sum = (rows.map weight).sum := by
  rw [sum_tally measure weight blank adds, List.map_nil, List.sum_nil, zero_add]

theorem mem_tally {k : κ} {value : β} {rows : List ρ} :
    (k, value) ∈ tally key initial change rows [] ↔
      rows.filter (fun row => key row = k) ≠ [] ∧
        value = (rows.filter fun row => key row = k).foldl (fun value row => change row value)
          (initial k) := by
  rw [mem_iff_lookup (nodup_tally_nil rows), lookup_tally]
  by_cases none : rows.filter (fun row => key row = k) = []
  · simp [none]
  · rw [if_neg none, Option.some_inj, eq_comm]
    exact (and_iff_right none).symm

/-- The order of the rows does not matter where changes commute. -/
theorem tally_perm (commute : ∀ first second value,
      change first (change second value) = change second (change first value))
    {rows other : List ρ} (perm : rows.Perm other) :
    (tally key initial change rows []).Perm (tally key initial change other []) := by
  apply perm_of_lookup (nodup_tally_nil rows) (nodup_tally_nil other)
  intro k
  have groups := perm.filter fun row => decide (key row = k)
  rw [lookup_tally, lookup_tally]
  by_cases none : rows.filter (fun row => key row = k) = []
  · have none' : other.filter (fun row => key row = k) = [] := by
      apply List.eq_nil_of_length_eq_zero
      rw [← groups.length_eq, none, List.length_nil]
    rw [if_pos none, if_pos none']
  · have some' : ¬other.filter (fun row => key row = k) = [] := by
      intro empty
      apply none
      apply List.eq_nil_of_length_eq_zero
      rw [groups.length_eq, empty, List.length_nil]
    rw [if_neg none, if_neg some', groups.foldl_eq' (fun first _ second _ value =>
      commute second first value)]

end Tally

end Store
