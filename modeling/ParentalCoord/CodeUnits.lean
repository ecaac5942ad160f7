import Mathlib.Data.List.Sort
import ParentalCoord.Js

/-!
Strings by their code units.

No two strings have the same code units, so sorting by them leaves one order only of strings
that are all different.
-/

namespace ParentalCoord

/-- A unit that is no half of a pair is a character by itself. -/
theorem storedChars_cons_of_lone {unit : ℕ} (lone : unit < 0xD800 ∨ 0xDFFF < unit) (rest : CodeUnits) :
    storedChars (unit :: rest) = Char.ofNat unit :: storedChars rest := by
  have self : loneUnit unit = Char.ofNat unit := if_neg (by omega)
  cases rest with
  | nil => exact congrArg (fun c => [c]) self
  | cons low rest =>
    rw [storedChars, if_neg (by omega), self]

/-- Two halves are put together again. -/
theorem storedChars_pair {code : ℕ} (high : 0x10000 ≤ code) (valid : code < 0x110000) (rest : CodeUnits) :
    storedChars ((0xD800 + (code - 0x10000) / 0x400) :: (0xDC00 + (code - 0x10000) % 0x400) :: rest) =
      Char.ofNat code :: storedChars rest := by
  have joined : 0x10000 + (0xD800 + (code - 0x10000) / 0x400 - 0xD800) * 0x400 +
      (0xDC00 + (code - 0x10000) % 0x400 - 0xDC00) = code := by omega
  rw [storedChars, if_pos (by omega), joined]

/-- What is stored of the units of a string is the string. -/
theorem storedChars_utf16 (value : String) : storedChars (utf16 value) = value.toList := by
  unfold utf16
  induction value.toList with
  | nil => rfl
  | cons c rest ih =>
    have valid : c.toNat < 0xD800 ∨ 0xDFFF < c.toNat ∧ c.toNat < 0x110000 := c.valid
    rw [List.flatMap_cons]
    dsimp only
    split
    · rw [List.singleton_append, storedChars_cons_of_lone (by omega), ih, Char.ofNat_toNat]
    · rw [List.cons_append, List.cons_append, List.nil_append, storedChars_pair (by omega) (by omega), ih,
        Char.ofNat_toNat]

theorem utf16_injective {first second : String} (same : utf16 first = utf16 second) : first = second := by
  rw [← String.toList_inj, ← storedChars_utf16, same, storedChars_utf16]

/-- Strings that are all different are sorted strictly. -/
theorem jsSort_increasing {values : List String} (unique : values.Nodup) :
    (jsSort values).Pairwise (utf16 · < utf16 ·) := by
  have total : Std.Total fun first second : String => utf16 first ≤ utf16 second :=
    ⟨fun first second => le_total (utf16 first) (utf16 second)⟩
  have trans : IsTrans String fun first second => utf16 first ≤ utf16 second :=
    ⟨fun _ _ _ before after => before.trans after⟩
  have sorted := List.pairwise_insertionSort (fun first second : String => utf16 first ≤ utf16 second) values
  have apart : (jsSort values).Nodup := (List.perm_insertionSort _ _).nodup_iff.mpr unique
  refine (sorted.and apart).imp fun ⟨le, apart⟩ => ?_
  exact lt_of_le_of_ne le (mt utf16_injective apart)

/-- The strings of a list fix their strict order. -/
theorem eq_of_increasing {first second : List String} (increasing : first.Pairwise (utf16 · < utf16 ·))
    (increasing' : second.Pairwise (utf16 · < utf16 ·)) (same : ∀ value, value ∈ first ↔ value ∈ second) :
    first = second := by
  have irrefl : Std.Irrefl fun first second : String => utf16 first < utf16 second :=
    ⟨fun value => lt_irrefl (utf16 value)⟩
  have antisymm : Std.Antisymm fun first second : String => utf16 first < utf16 second :=
    ⟨fun _ _ before after => absurd after before.not_gt⟩
  exact increasing.eq_of_mem_iff increasing' same

end ParentalCoord
