import Mathlib.Data.List.Infix

/-!
Replacing the first occurrence of a pattern in a text.

Where the pattern is not found there is nothing to replace, and where it is found early what
comes after it does not matter.  It cannot be found across an element that it does not have.
-/

namespace ParentalCoord

section Replacing

variable {α : Type} {pattern replacement text rest : List α} {opening stop : α}

/-- An occurrence does not reach over an element that the pattern does not have. -/
theorem prefix_of_apart (apart : stop ∉ pattern) (found : pattern <+: text ++ stop :: rest) :
    pattern <+: text := by
  rcases List.prefix_or_prefix_of_prefix found (List.prefix_append text _) with within | ⟨more, rfl⟩
  · exact within
  · cases more with
    | nil => simp
    | cons next more =>
      obtain ⟨last, same⟩ := found
      rw [List.append_assoc, List.append_cancel_left_eq] at same
      cases same
      simp at apart

/-- What is written before a separator is told from what follows it. -/
theorem append_cons_inj_of_apart {front front' rest' : List α} (apart : stop ∉ front) (apart' : stop ∉ front')
    (same : front ++ stop :: rest = front' ++ stop :: rest') : front = front' ∧ rest = rest' := by
  have within : front <+: front' := prefix_of_apart apart ⟨stop :: rest, same⟩
  have within' : front' <+: front := prefix_of_apart apart' ⟨stop :: rest', same.symm⟩
  obtain rfl := within.eq_of_length_le within'.length_le
  exact ⟨rfl, (List.cons.inj (List.append_cancel_left same)).2⟩

theorem infix_of_apart (apart : stop ∉ pattern) (found : pattern <:+: text ++ [stop]) :
    pattern <:+: text := by
  rcases List.infix_concat_iff.mp found with last | within
  · rcases List.suffix_concat_iff.mp last with rfl | ⟨body, rfl, -⟩
    · exact List.nil_infix
    · simp at apart
  · exact within

variable [DecidableEq α]

/-- `text.replace(pattern, () => replacement)`: the first occurrence. -/
def replaceFirst (pattern replacement : List α) : List α → List α
  | [] => if pattern = [] then replacement else []
  | first :: rest =>
      if pattern <+: first :: rest then replacement ++ (first :: rest).drop pattern.length
      else first :: replaceFirst pattern replacement rest

theorem replaceFirst_prefix : replaceFirst pattern replacement (pattern ++ rest) = replacement ++ rest := by
  cases shape : pattern ++ rest with
  | nil =>
    obtain ⟨rfl, rfl⟩ := List.append_eq_nil_iff.mp shape
    simp [replaceFirst]
  | cons first others =>
    unfold replaceFirst
    rw [← shape, if_pos (List.prefix_append _ _), List.drop_left]

/-- A text in which the pattern cannot begin is kept. -/
theorem replaceFirst_of_opening (plain : opening ∉ text) :
    replaceFirst (opening :: pattern) replacement (text ++ rest) =
      text ++ replaceFirst (opening :: pattern) replacement rest := by
  induction text with
  | nil => rfl
  | cons first others ih =>
    obtain ⟨apart, plain⟩ := (not_or.mp fun there => plain (List.mem_cons.mpr there))
    rw [List.cons_append, replaceFirst, if_neg, ih plain, List.cons_append]
    exact fun found => apart (List.cons_prefix_cons.mp found).1

/-- A text without the pattern is kept, up to an element that the pattern does not have. -/
theorem replaceFirst_of_apart (absent : ¬pattern <:+: text) (apart : stop ∉ pattern) :
    replaceFirst pattern replacement (text ++ stop :: rest) =
      text ++ replaceFirst pattern replacement (stop :: rest) := by
  induction text with
  | nil => rfl
  | cons first others ih =>
    have later : ¬pattern <:+: others := fun found => absent (found.trans (List.suffix_cons _ _).isInfix)
    have here : ¬pattern <+: first :: (others ++ stop :: rest) := fun found =>
      absent (prefix_of_apart apart found).isInfix
    rw [List.cons_append, replaceFirst, if_neg here, ih later, List.cons_append]

/-- Where the pattern is found, its first occurrence gives way and all else stays. -/
theorem exists_of_infix (found : pattern <:+: text) : ∃ before after,
    text = before ++ pattern ++ after ∧
      ∀ rest, replaceFirst pattern replacement (text ++ rest) = before ++ replacement ++ (after ++ rest) := by
  induction text with
  | nil =>
    obtain rfl := List.infix_nil.mp found
    refine ⟨[], [], rfl, fun rest => ?_⟩
    exact replaceFirst_prefix
  | cons first others ih =>
    by_cases here : pattern <+: first :: others
    · obtain ⟨after, same⟩ := here
      refine ⟨[], after, same.symm, fun rest => ?_⟩
      rw [← same, List.append_assoc]
      exact replaceFirst_prefix
    · have later : pattern <:+: others := (List.infix_cons_iff.mp found).resolve_left here
      obtain ⟨before, after, same, replaced⟩ := ih later
      refine ⟨first :: before, after, congrArg (first :: ·) same, fun rest => ?_⟩
      have short : pattern.length ≤ (first :: others).length :=
        later.length_le.trans (Nat.le_succ _)
      have past : ¬pattern <+: first :: (others ++ rest) := fun found =>
        here (List.prefix_of_prefix_length_le found (List.prefix_append (first :: others) rest) short)
      rw [List.cons_append, replaceFirst, if_neg past, replaced]
      rfl

theorem length_replaceFirst_lt (some_ : replacement ≠ []) (pattern_some : pattern ≠ []) :
    (replaceFirst pattern replacement text).length < text.length + replacement.length := by
  have positive := List.length_pos_iff.mpr some_
  have pattern_positive := List.length_pos_iff.mpr pattern_some
  induction text with
  | nil => simpa [replaceFirst, pattern_some] using positive
  | cons first others ih =>
    unfold replaceFirst
    split
    · rw [List.length_append, List.length_drop, List.length_cons]
      omega
    · rw [List.length_cons, List.length_cons]
      omega

end Replacing

end ParentalCoord
