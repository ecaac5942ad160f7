import Mathlib.Algebra.GroupWithZero.Nat
import Mathlib.Data.List.Nodup

/-!
A table with a primary key: a list of rows that no two rows share a key in.

The field `unique` is the key constraint, so a table that breaks it cannot be
built; `insert` refuses a row whose key is taken, as a database does.
-/

namespace Store

variable {κ ρ : Type} [DecidableEq κ] {key : ρ → κ}

structure Table (key : ρ → κ) where
  rows : List ρ
  unique : (rows.map key).Nodup

namespace Table

def empty : Table key := ⟨[], by simp⟩

def singleton (row : ρ) : Table key := ⟨[row], List.nodup_singleton _⟩

/-- The row of a key. -/
def get (table : Table key) (k : κ) : Option ρ := table.rows.find? fun row => key row = k

private theorem keys_map_if (rows : List ρ) (row : ρ) :
    (rows.map fun old => if key old = key row then row else old).map key = rows.map key := by
  rw [List.map_map]
  refine List.map_congr_left fun old _ => ?_
  by_cases same : key old = key row <;> simp [same]

/-- Writes a row over the one of its key; nothing when there is none. -/
def put (table : Table key) (row : ρ) : Table key where
  rows := table.rows.map fun old => if key old = key row then row else old
  unique := by rw [keys_map_if]; exact table.unique

/-- Adds a row; `none` when its key is taken. -/
def insert (table : Table key) (row : ρ) : Option (Table key) :=
  if free : key row ∉ table.rows.map key then
    some ⟨table.rows ++ [row], by
      rw [List.map_append, List.nodup_append]
      refine ⟨table.unique, by simp, fun k member k' last => ?_⟩
      rw [List.map_singleton, List.mem_singleton] at last
      rintro rfl
      exact free (last ▸ member)⟩
  else none

/-- Keeps the rows that `keep` holds of. -/
def filter (table : Table key) (keep : ρ → Bool) : Table key where
  rows := table.rows.filter keep
  unique := (List.filter_sublist.map key).nodup table.unique

variable {table table' : Table key} {row old : ρ} {k : κ}

@[simp] theorem get_empty : (empty : Table key).get k = none := rfl

omit [DecidableEq κ] in
@[simp] theorem rows_singleton (row : ρ) : (singleton row : Table key).rows = [row] := rfl

theorem key_of_get (found : table.get k = some row) : key row = k := by
  simpa using List.find?_some found

theorem mem_of_get (found : table.get k = some row) : row ∈ table.rows :=
  List.mem_of_find?_eq_some found

private theorem find_of_mem {rows : List ρ} (unique : (rows.map key).Nodup)
    (member : row ∈ rows) : rows.find? (fun old => key old = key row) = some row := by
  induction rows with
  | nil => cases member
  | cons first rest ih =>
    obtain ⟨fresh, unique⟩ := List.nodup_cons.mp unique
    rcases List.mem_cons.mp member with rfl | later
    · simp
    · have apart : key first ≠ key row := fun same =>
        fresh (same ▸ List.mem_map_of_mem later)
      simp [apart, ih unique later]

/-- A row stands under its own key. -/
theorem get_of_mem (member : row ∈ table.rows) : table.get (key row) = some row :=
  find_of_mem table.unique member

/-- No other row stands under a row's key. -/
theorem filter_of_get (found : table.get k = some row) :
    (table.rows.filter fun old => key old = k) = [row] := by
  obtain ⟨rows, unique⟩ := table
  simp only [get] at found
  induction rows with
  | nil => cases found
  | cons first rest ih =>
    obtain ⟨fresh, unique⟩ := List.nodup_cons.mp unique
    by_cases here : key first = k
    · simp only [here, decide_true, List.find?_cons_of_pos, Option.some.injEq] at found
      subst found
      have absent : rest.filter (fun old => key old = k) = [] := by
        rw [List.filter_eq_nil_iff]
        intro old member same
        exact fresh (List.mem_map.mpr ⟨old, member, (of_decide_eq_true same).trans here.symm⟩)
      simp [here, absent]
    · simp only [here, decide_false, Bool.false_eq_true, not_false_eq_true, List.find?_cons_of_neg]
        at found
      simpa [here] using ih unique found

theorem get_eq_none : table.get k = none ↔ k ∉ table.rows.map key := by
  simp [get]

/-- A write changes the row of its key and no other. -/
theorem get_put :
    (table.put row).get k = if k = key row then (table.get k).map fun _ => row else table.get k := by
  obtain ⟨rows, unique⟩ := table
  simp only [get, put]
  clear unique
  induction rows with
  | nil => simp
  | cons first rest ih =>
    by_cases written : key first = key row
    · by_cases asked : k = key row
      · simp [written, asked]
      · simp [written, asked, Ne.symm asked, ih]
    · by_cases here : key first = k
      · subst here
        simp [written]
      · simp [written, here, ih]

theorem get_put_self (found : table.get (key row) = some old) :
    (table.put row).get (key row) = some row := by
  simp [get_put, found]

theorem get_put_other (other : k ≠ key row) : (table.put row).get k = table.get k := by
  simp [get_put, other]

/-- A write takes no key away. -/
theorem isSome_get_put : ((table.put row).get k).isSome = (table.get k).isSome := by
  rw [get_put]
  split <;> simp

theorem mem_put {other : ρ} (member : other ∈ (table.put row).rows) :
    other ∈ table.rows ∨ other = row := by
  obtain ⟨old, there, rfl⟩ := List.mem_map.mp member
  by_cases same : key old = key row
  · rw [if_pos same]
    exact .inr rfl
  · rw [if_neg same]
    exact .inl there

/-- The rows after a write: the new one over the one of its key, and the others. -/
theorem mem_put_iff (found : table.get (key row) = some old) {other : ρ} :
    other ∈ (table.put row).rows ↔ other = row ∨ other ∈ table.rows ∧ key other ≠ key row := by
  simp only [put, List.mem_map]
  constructor
  · rintro ⟨before, there, rfl⟩
    by_cases same : key before = key row
    · rw [if_pos same]
      exact .inl rfl
    · rw [if_neg same]
      exact .inr ⟨there, same⟩
  · rintro (rfl | ⟨there, apart⟩)
    · exact ⟨old, mem_of_get found, if_pos (key_of_get found)⟩
    · exact ⟨other, there, if_neg apart⟩

/-- A write replaces the share of its row in a sum over the rows. -/
theorem sum_put (measure : ρ → ℕ) (found : table.get (key row) = some old) :
    ((table.put row).rows.map measure).sum + measure old = (table.rows.map measure).sum + measure row := by
  obtain ⟨rows, unique⟩ := table
  simp only [get] at found
  simp only [put]
  induction rows with
  | nil => cases found
  | cons first rest ih =>
    obtain ⟨fresh, unique⟩ := List.nodup_cons.mp unique
    by_cases here : key first = key row
    · rw [List.find?_cons_of_pos (by simpa using here)] at found
      cases found
      have others : (rest.map fun old => if key old = key row then row else old) = rest := by
        refine (List.map_congr_left fun old member => if_neg fun same => fresh ?_).trans (List.map_id' rest)
        exact (same.trans here.symm) ▸ List.mem_map_of_mem member
      simp only [List.map_cons, here, if_true, others, List.sum_cons]
      omega
    · rw [List.find?_cons_of_neg (by simpa using here)] at found
      have tail := ih unique found
      simp only [List.map_cons, here, if_false, List.sum_cons]
      omega

theorem rows_insert (accepted : table.insert row = some table') :
    table'.rows = table.rows ++ [row] := by
  unfold insert at accepted
  split at accepted
  · cases accepted
    rfl
  · cases accepted

/-- Rows that are added one after the other stand after those that were there. -/
theorem rows_of_inserted {rows : List ρ} (inserted : rows.foldlM insert table = some table') :
    table'.rows = table.rows ++ rows := by
  induction rows generalizing table with
  | nil =>
    cases inserted
    exact (List.append_nil _).symm
  | cons row rest ih =>
    obtain ⟨next, accepted, more⟩ := Option.bind_eq_some_iff.mp inserted
    rw [ih more, rows_insert accepted, List.append_assoc]
    rfl

/-- An accepted row had a free key, and is all that was added. -/
theorem get_insert (accepted : table.insert row = some table') :
    table.get (key row) = none ∧
      ∀ k, table'.get k = if k = key row then some row else table.get k := by
  unfold insert at accepted
  split at accepted
  · rename_i free
    cases accepted
    refine ⟨get_eq_none.mpr free, fun k => ?_⟩
    simp only [get, List.find?_append]
    by_cases asked : k = key row
    · subst asked
      have absent : table.rows.find? (fun old => key old = key row) = none := get_eq_none.mpr free
      simp [absent]
    · simp [asked, Ne.symm asked]
  · cases accepted

/-- An added row takes no key away. -/
theorem isSome_get_insert (accepted : table.insert row = some table')
    (there : (table.get k).isSome) : (table'.get k).isSome := by
  rw [(get_insert accepted).2]
  split
  · rfl
  · exact there

/-- A refused row had a key that is taken. -/
theorem get_of_refused (refused : table.insert row = none) :
    ∃ old, table.get (key row) = some old := by
  unfold insert at refused
  split at refused
  · cases refused
  · rename_i taken
    exact Option.ne_none_iff_exists'.mp fun absent => taken (get_eq_none.mp absent)

theorem get_filter (keep : ρ → Bool) : (table.filter keep).get k = (table.get k).filter keep := by
  obtain ⟨rows, unique⟩ := table
  simp only [get, filter]
  induction rows with
  | nil => rfl
  | cons first rest ih =>
    obtain ⟨fresh, unique⟩ := List.nodup_cons.mp unique
    by_cases here : key first = k
    · subst here
      by_cases kept : keep first
      · simp [kept, Option.filter]
      · have absent : (rest.filter keep).find? (fun row => key row = key first) = none := by
          refine List.find?_eq_none.mpr fun row member same => fresh ?_
          simp only [decide_eq_true_eq] at same
          exact same ▸ List.mem_map_of_mem (List.mem_of_mem_filter member)
        simp [kept, absent, Option.filter]
    · by_cases kept : keep first <;> simp [kept, here, ih unique]

end Table

end Store
