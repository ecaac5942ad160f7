import Mathlib.Data.List.Nodup
import Mathlib.Data.List.Perm.Basic

/-!
A map as a list of entries, in the order their keys came first, as an object or a `Map` of
JavaScript keeps them.
-/

namespace Store

variable {κ β : Type} [DecidableEq κ]

/-- Changes the entry of a key in place; a new one comes last. -/
def alter (key : κ) (initial : β) (change : β → β) : List (κ × β) → List (κ × β)
  | [] => [(key, change initial)]
  | (name, value) :: rest =>
      if name = key then (name, change value) :: rest
      else (name, value) :: alter key initial change rest

theorem lookup_cons_of_ne {k name : κ} (apart : k ≠ name) (value : β) (entries : List (κ × β)) :
    ((name, value) :: entries).lookup k = entries.lookup k := by
  rw [List.lookup_cons, beq_false_of_ne apart]

theorem lookup_alter (key k : κ) (initial : β) (change : β → β) (entries : List (κ × β)) :
    (alter key initial change entries).lookup k =
      if k = key then some (change ((entries.lookup key).getD initial)) else entries.lookup k := by
  induction entries with
  | nil =>
    by_cases asked : k = key
    · simp [alter, asked]
    · simp [alter, asked, lookup_cons_of_ne]
  | cons entry rest ih =>
    obtain ⟨name, value⟩ := entry
    by_cases here : name = key
    · subst here
      by_cases asked : k = name
      · simp [alter, asked]
      · simp [alter, asked, lookup_cons_of_ne]
    · by_cases asked : k = name
      · subst asked
        simp [alter, here]
      · have apart : ¬key = name := Ne.symm here
        simp [alter, here, lookup_cons_of_ne asked, lookup_cons_of_ne apart, ih]

theorem keys_alter (k : κ) (first : β) (f : β → β) (entries : List (κ × β)) :
    (alter k first f entries).map (·.1) =
      if k ∈ entries.map (·.1) then entries.map (·.1) else entries.map (·.1) ++ [k] := by
  induction entries with
  | nil => rfl
  | cons entry rest ih =>
    obtain ⟨name, value⟩ := entry
    by_cases here : name = k
    · simp [alter, here]
    · have apart : k ≠ name := Ne.symm here
      rw [alter, if_neg here, List.map_cons, ih]
      simp only [List.map_cons, List.mem_cons, apart, false_or]
      split <;> rfl

theorem nodup_alter (k : κ) (first : β) (f : β → β) {entries : List (κ × β)}
    (distinct : (entries.map (·.1)).Nodup) : ((alter k first f entries).map (·.1)).Nodup := by
  rw [keys_alter]
  split
  · exact distinct
  · rename_i fresh
    apply List.Nodup.append distinct (List.nodup_singleton k)
    intro name listed same
    rw [List.mem_singleton] at same
    exact fresh (same ▸ listed)

/-- One entry is changed for each group, and the others stay. -/
theorem lookup_foldl_alter {γ : Type} (initial : β) (change : γ → β → β) (k : κ)
    (groups : List (κ × γ)) (distinct : (groups.map (·.1)).Nodup) (entries : List (κ × β)) :
    (groups.foldl (fun entries group => alter group.1 initial (change group.2) entries)
      entries).lookup k =
      match groups.lookup k with
      | some group => some (change group ((entries.lookup k).getD initial))
      | none => entries.lookup k := by
  induction groups generalizing entries with
  | nil => rfl
  | cons group rest ih =>
    obtain ⟨name, first⟩ := group
    obtain ⟨fresh, distinct⟩ := List.nodup_cons.mp distinct
    rw [List.foldl_cons, ih distinct, lookup_alter]
    by_cases asked : k = name
    · subst asked
      have absent : rest.lookup k = none := by
        rw [List.lookup_eq_none_iff]
        intro group member
        have apart : k ≠ group.1 := by
          rintro rfl
          exact fresh (List.mem_map.mpr ⟨group, member, rfl⟩)
        simpa using apart
      simp [absent]
    · simp [asked, lookup_cons_of_ne asked]

/-- Of a map, an entry is what its key is looked up to. -/
theorem mem_iff_lookup {entries : List (κ × β)} (distinct : (entries.map (·.1)).Nodup) {k : κ}
    {value : β} : (k, value) ∈ entries ↔ entries.lookup k = some value := by
  induction entries with
  | nil => simp
  | cons entry rest ih =>
    obtain ⟨name, first⟩ := entry
    obtain ⟨fresh, distinct⟩ := List.nodup_cons.mp distinct
    by_cases own : k = name
    · subst own
      have alone : (k, value) ∉ rest := by
        intro listed
        exact fresh (List.mem_map.mpr ⟨(k, value), listed, rfl⟩)
      simp [alone, eq_comm]
    · simp [own, lookup_cons_of_ne own, ih distinct]

/-- Two maps are one if every key is looked up to the same. -/
theorem perm_of_lookup {entries other : List (κ × β)} (distinct : (entries.map (·.1)).Nodup)
    (distinct' : (other.map (·.1)).Nodup)
    (same : ∀ k, entries.lookup k = other.lookup k) : entries.Perm other := by
  apply (List.perm_ext_iff_of_nodup (List.Nodup.of_map _ distinct)
    (List.Nodup.of_map _ distinct')).mpr
  rintro ⟨k, value⟩
  rw [mem_iff_lookup distinct, mem_iff_lookup distinct', same k]

/-- Picked in the order of the keys, the entries are as they were in that order. -/
theorem pick_of_sublist {keys : List κ} {entries : List (κ × β)} (distinct : keys.Nodup)
    (ordered : (entries.map (·.1)).Sublist keys) :
    (keys.filterMap fun key => (entries.lookup key).map fun value => (key, value)) = entries := by
  induction keys generalizing entries with
  | nil =>
    rw [List.sublist_nil, List.map_eq_nil_iff] at ordered
    rw [ordered]
    rfl
  | cons key keys ih =>
    obtain ⟨fresh, others⟩ := List.nodup_cons.mp distinct
    by_cases listed : key ∈ entries.map (·.1)
    · cases entries with
      | nil => cases listed
      | cons entry rest =>
        obtain ⟨name, value⟩ := entry
        rw [List.map_cons] at ordered
        cases ordered with
        | cons _ ordered => exact absurd (ordered.subset listed) fresh
        | cons_cons _ ordered =>
          have apart : ∀ other ∈ keys, other ≠ name := fun other member same => fresh (same ▸ member)
          have later : (keys.filterMap fun key => (((name, value) :: rest).lookup key).map fun value => (key, value)) =
              keys.filterMap fun key => (rest.lookup key).map fun value => (key, value) :=
            List.filterMap_congr fun other member => by rw [lookup_cons_of_ne (apart other member)]
          rw [List.filterMap_cons, later, ih others ordered]
          simp
    · have absent : entries.lookup key = none := by
        rw [List.lookup_eq_none_iff]
        intro entry member
        have apart : key ≠ entry.1 := by
          rintro rfl
          exact listed (List.mem_map.mpr ⟨entry, member, rfl⟩)
        simpa using apart
      rw [List.filterMap_cons, absent]
      rcases List.sublist_cons_iff.mp ordered with ordered | ⟨rest, same, -⟩
      · exact ih others ordered
      · rw [same] at listed
        exact absurd List.mem_cons_self listed

end Store
